import OneBit.Layout
import OneBit.Binarization
import OneBit.Buffer

/-!
# Packing rows of bits into words

A matrix of `rows` rows and `cols` columns, stored row after row, packs to `packedSize cols` words
per row.

* `packInto`, `pack` : the call that writes the words into a buffer, and the words in one of its own;
* `unpackInto`, `unpack` : a value per column, read from bit `col % bits` of word `col / bits`.

Every size is checked before a buffer is touched. What comes after goes through rows and buffer side
by side, and only the checks make the two end together.
-/

namespace OneBit

variable {α : Type}

/-! ## Packing -/

/-- The word with only bit `i` set, one of its 32. -/
def singleBit (i : Nat) : Except TensorError UInt32 :=
  if i < 32 then .ok (1 <<< UInt32.ofNat i) else .error (.outOfBounds 32 i)

/-- Sets the bits of consecutive elements in a word, the first at bit `i`. -/
def setBits (bit : α → Bool) (i : Nat) (word : UInt32) : List α → Except TensorError UInt32
  | [] => .ok word
  | x :: xs =>
    if bit x then do setBits bit (i + 1) (word ||| (← singleBit i)) xs
    else setBits bit (i + 1) word xs

/-- Writes the elements of one row into its words, a piece into each. -/
def packIntoRow (layout : Layout) (bit : α → Bool) (row : List α) (words : List UInt32) :
    Except TensorError (List UInt32) := do
  zipUpdate (fun piece _ => setBits bit 0 0 piece) (← allPieces layout.bits row) words

/-- Packs a matrix into the buffer, which must have room for exactly its words. -/
def packInto (layout : Layout) (bit : α → Bool) (src : List α) (rows cols : Nat) :
    BufferM UInt32 Unit := do
  expectLength (← sizeProduct rows cols) src.length
  expectLength (← sizeProduct rows (layout.packedSize cols)) (← get).length
  if cols = 0 then return
  BufferM.zipPieces (layout.packedSize cols) (packIntoRow layout bit) (← exactPieces cols src)

/-- Packs a single row into the buffer. -/
def packRowInto (layout : Layout) (bit : α → Bool) (src : List α) : BufferM UInt32 Unit :=
  packInto layout bit src 1 src.length

/-- The words of a matrix. -/
def pack (layout : Layout) (bit : α → Bool) (src : List α) (rows cols : Nat) :
    Except TensorError (List UInt32) := do
  let size ← sizeProduct rows (layout.packedSize cols)
  (packInto layout bit src rows cols).filled (List.replicate size 0)

/-! ## Unpacking -/

/-- Bit `offset` of a word. -/
def bitAt (word : UInt32) (offset : Nat) : Bool :=
  (word >>> UInt32.ofNat offset) &&& 1 == 1

/-- Bit `offset` of a word, one of its 32. -/
def readBit (word : UInt32) (offset : Nat) : Except TensorError Bool :=
  if offset < 32 then .ok (bitAt word offset) else .error (.outOfBounds 32 offset)

/-- The value of a column, read at its place among the words of the row. -/
def readColumn (layout : Layout) (levels : Levels α) (words : Array UInt32) (col : Nat) :
    Except TensorError α :=
  let (index, offset) := layout.locate col
  match words[index]? with
  | some word => return levels.value (← readBit word offset)
  | none => throw (.outOfBounds words.size index)

/-- The values of one row, for as many columns as there is room. -/
def unpackIntoRow (layout : Layout) (levels : Levels α) (words : List UInt32) (row : List α) :
    Except TensorError (List α) :=
  (List.range row.length).mapM (readColumn layout levels words.toArray)

/-- Unpacks a matrix into the buffer, which must have room for exactly its values. -/
def unpackInto (layout : Layout) (levels : Levels α) (words : List UInt32) (rows cols : Nat) :
    BufferM α Unit := do
  expectLength (← sizeProduct rows (layout.packedSize cols)) words.length
  expectLength (← sizeProduct rows cols) (← get).length
  if cols = 0 then return
  BufferM.zipPieces cols (unpackIntoRow layout levels)
    (← exactPieces (layout.packedSize cols) words)

/-- The values of a matrix. -/
def unpack (layout : Layout) (levels : Levels α) (words : List UInt32) (rows cols : Nat) :
    Except TensorError (List α) := do
  let size ← sizeProduct rows cols
  (unpackInto layout levels words rows cols).filled (List.replicate size levels.zero)

end OneBit
