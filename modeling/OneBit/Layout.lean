import OneBit.Access

/-!
# Word layouts and packed shapes

A packed word is a 32-bit word that carries `bits` elements, the first in its lowest bit; bits at
or above `bits` carry nothing. Only the last dimension of a shape is packed, and each row starts on
a fresh word.

* `Layout.locate` : the word and the bit of an element;
* `Layout.packedSize`, `Layout.packedShape` : the sizes after packing;
* `Layout.checkUnpacked` : whether a dense shape packs to a given shape. The dense shape cannot be
  computed from the packed one, because the last word of a row may be partly filled.
-/

namespace OneBit

/-- How many elements a word carries: a width that divides 32. -/
structure Layout where
  bits : Nat
  bits_pos : 0 < bits
  bits_dvd : bits ∣ 32
deriving DecidableEq, Repr

namespace Layout

/-- Every bit of a word carries an element. -/
def full : Layout := ⟨32, by decide, by decide⟩

instance : Inhabited Layout := ⟨full⟩

/-- The layout of a given width. -/
def ofBits (bits : Nat) : Except TensorError Layout :=
  if h : 0 < bits ∧ bits ∣ 32 then .ok ⟨bits, h.1, h.2⟩
  else .error (.invalidWordWidth bits)

theorem bits_le (layout : Layout) : layout.bits ≤ 32 :=
  Nat.le_of_dvd (by decide) layout.bits_dvd

/-- The word that holds an element, and its bit there. -/
def locate (layout : Layout) (index : Nat) : Nat × Nat :=
  (index / layout.bits, index % layout.bits)

theorem locate_snd_lt (layout : Layout) (index : Nat) : (layout.locate index).2 < layout.bits :=
  Nat.mod_lt _ layout.bits_pos

/-- The bits of a word that carry elements. -/
def usedMask (layout : Layout) : UInt32 :=
  UInt32.ofNat (Nat.pow 2 layout.bits - 1)

/-- The number of words for `size` elements. -/
def packedSize (layout : Layout) (size : Nat) : Nat :=
  (size + layout.bits - 1) / layout.bits

/-- Whether `unpacked` elements take `packed` words. -/
def fits (layout : Layout) (packed unpacked : Nat) : Bool :=
  layout.packedSize unpacked = packed

/-- The shape with its last dimension packed. -/
def packedShape (layout : Layout) : Shape → Except TensorError Shape
  | [] => .error (.rankMismatch 1 0)
  | d :: rest =>
    .ok ((d :: rest).dropLast ++ [layout.packedSize ((d :: rest).getLast (by simp))])

/-- Checks that a tensor of shape `unpacked` packs to the shape `packed`. -/
def checkUnpacked (layout : Layout) (packed unpacked : Shape) : Except TensorError Unit := do
  if packed.isEmpty || packed.length != unpacked.length then
    throw (.rankMismatch packed.length unpacked.length)
  let last := packed.length - 1
  let (packedLeading, _) ← cutAt packed last
  let (leading, _) ← cutAt unpacked last
  if packedLeading != leading
      || !layout.fits (← elementAt packed last) (← elementAt unpacked last) then
    throw (.shapeMismatch packed (← layout.packedShape unpacked))

end Layout

/-- A shape seen as a matrix: the last dimension is the columns, the product of the others in 64 bits
the rows. -/
def Shape.rowsCols : Shape → Except TensorError (Nat × Nat)
  | [] => .error (.rankMismatch 1 0)
  | d :: rest =>
    .ok (Shape.flatSize (d :: rest).dropLast, (d :: rest).getLast (by simp))

end OneBit
