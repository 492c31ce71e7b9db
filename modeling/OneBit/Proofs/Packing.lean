import Mathlib.Tactic.Ring
import OneBit.Packing
import OneBit.Proofs.Buffer
import OneBit.Proofs.Layout

/-!
# Where packing puts each bit

* `bitAt_packWord` : a packed word holds the bit of element `i` at bit `i` and zeros above;
* `storedBit` : the bit of a column, read the way unpacking reads it;
* `storedBit_packRows` : after packing, the stored bit of a column is the bit of its element;
* `packInto_replaces`, `unpackInto_replaces` : what the calls do to a buffer of any size;
* `unpack_eq_ok` : unpacking reads the stored bits in row-major order, whatever the words hold;
* `unpack_pack` : so unpacking packed words gives each element the level of its bit.

Packing walks a row in pieces while unpacking divides each column by the width; the two meet in
`storedBit`. Both loops go through rows and buffer side by side; after the checks neither ends before
the other.
-/

namespace OneBit

variable {α β : Type}

/-! ## Bits of a word -/

theorem bitAt_eq_testBit (word : UInt32) {i : Nat} (hi : i < 32) :
    bitAt word i = word.toNat.testBit i := by
  have hmod : i % 4294967296 % 32 = i := by omega
  have hone : ∀ x : UInt32, (x &&& 1 == 1) = x.toNat.testBit 0 := by
    intro x
    rw [Nat.testBit_zero, ← Nat.and_one_is_mod, Bool.eq_iff_iff, beq_iff_eq, decide_eq_true_iff,
      ← UInt32.toNat_inj, UInt32.toNat_and]
    rfl
  rw [bitAt, hone, UInt32.toNat_shiftRight, Nat.testBit_shiftRight]
  simp [hmod]

theorem word_eq_of_bits {v w : UInt32} (h : ∀ i < 32, bitAt v i = bitAt w i) : v = w := by
  rw [← UInt32.toNat_inj]
  apply Nat.eq_of_testBit_eq
  intro i
  by_cases hi : i < 32
  · rw [← bitAt_eq_testBit v hi, ← bitAt_eq_testBit w hi, h i hi]
  · have hpow : (2 : Nat) ^ 32 ≤ 2 ^ i := Nat.pow_le_pow_right (by decide) (by omega)
    rw [Nat.testBit_lt_two_pow (Nat.lt_of_lt_of_le v.toNat_lt hpow),
      Nat.testBit_lt_two_pow (Nat.lt_of_lt_of_le w.toNat_lt hpow)]

@[simp] theorem bitAt_zero (i : Nat) : bitAt 0 i = false := by
  simp [bitAt]

theorem bitAt_and (v w : UInt32) {i : Nat} (hi : i < 32) :
    bitAt (v &&& w) i = (bitAt v i && bitAt w i) := by
  rw [bitAt_eq_testBit _ hi, UInt32.toNat_and, Nat.testBit_and, bitAt_eq_testBit v hi,
    bitAt_eq_testBit w hi]

theorem bitAt_or (v w : UInt32) {i : Nat} (hi : i < 32) :
    bitAt (v ||| w) i = (bitAt v i || bitAt w i) := by
  rw [bitAt_eq_testBit _ hi, UInt32.toNat_or, Nat.testBit_or, bitAt_eq_testBit v hi,
    bitAt_eq_testBit w hi]

theorem bitAt_one_shiftLeft {i j : Nat} (hi : i < 32) (hj : j < 32) :
    bitAt (1 <<< UInt32.ofNat i) j = decide (i = j) := by
  have hmod : i % 4294967296 % 32 = i := by omega
  rw [bitAt_eq_testBit _ hj, UInt32.toNat_shiftLeft, UInt32.toNat_ofNat', hmod, UInt32.toNat_one,
    Nat.testBit_mod_two_pow, Nat.one_shiftLeft, Nat.testBit_two_pow, decide_eq_true hj,
    Bool.true_and]

/-- The word with its lowest `n` bits set. -/
theorem bitAt_two_pow_sub_one {n i : Nat} (hn : n ≤ 32) (hi : i < 32) :
    bitAt (UInt32.ofNat (2 ^ n - 1)) i = decide (i < n) := by
  have hpow : 2 ^ n ≤ 2 ^ 32 := Nat.pow_le_pow_right (by decide) hn
  have hword : 2 ^ n - 1 < 4294967296 := by omega
  rw [bitAt_eq_testBit _ hi, UInt32.toNat_ofNat', Nat.mod_eq_of_lt hword,
    Nat.testBit_two_pow_sub_one]

theorem bitAt_not_usedMask (layout : Layout) {i : Nat} (hi : i < 32) :
    bitAt (~~~layout.usedMask) i = decide (layout.bits ≤ i) := by
  have hbit : layout.usedMask.toBitVec.getLsbD i = decide (i < layout.bits) := by
    rw [← bitAt_two_pow_sub_one layout.bits_le hi, bitAt_eq_testBit _ hi]
    rfl
  rw [bitAt_eq_testBit _ hi]
  show (~~~layout.usedMask).toBitVec.getLsbD i = _
  rw [UInt32.toBitVec_not, BitVec.getLsbD_not, hbit, decide_eq_true hi, Bool.true_and, ← decide_not]
  simp

/-- A word masks to nothing exactly when it sets no bit at or above the width. -/
theorem and_not_usedMask_eq_zero_iff (layout : Layout) {word : UInt32} :
    word &&& ~~~layout.usedMask = 0 ↔ ∀ i, layout.bits ≤ i → i < 32 → bitAt word i = false := by
  constructor
  · intro h i hwidth hi
    have hbit := bitAt_and word (~~~layout.usedMask) hi
    rw [h, bitAt_zero, bitAt_not_usedMask layout hi, decide_eq_true hwidth, Bool.and_true] at hbit
    exact hbit.symm
  · intro h
    apply word_eq_of_bits
    intro i hi
    rw [bitAt_and _ _ hi, bitAt_not_usedMask layout hi, bitAt_zero]
    by_cases hwidth : layout.bits ≤ i
    · rw [h i hwidth hi, Bool.false_and]
    · rw [decide_eq_false hwidth, Bool.and_false]

/-! ## Words in closed form -/

/-- The word whose bit `i` is that of element `i`. -/
def packWord (bit : α → Bool) : List α → UInt32
  | [] => 0
  | x :: xs => (if bit x then (1 : UInt32) else 0) ||| (packWord bit xs <<< 1)

/-- The first `words` words of a row; past the end of the row they are zero. -/
def packRow (layout : Layout) (bit : α → Bool) (words : Nat) (row : List α) : List UInt32 :=
  (firstPieces layout.bits words row).map (packWord bit)

/-- The words of `rows` rows, one row after the other. -/
def packRows (layout : Layout) (bit : α → Bool) (cols rows : Nat) (src : List α) : List UInt32 :=
  ((firstPieces cols rows src).map (packRow layout bit (layout.packedSize cols))).flatten

theorem packRows_succ (layout : Layout) (bit : α → Bool) (cols rows : Nat) (src : List α) :
    packRows layout bit cols (rows + 1) src =
      packRow layout bit (layout.packedSize cols) (src.take cols) ++
        packRows layout bit cols rows (src.drop cols) :=
  rfl

@[simp] theorem length_packRow (layout : Layout) (bit : α → Bool) (words : Nat) (row : List α) :
    (packRow layout bit words row).length = words := by
  simp [packRow]

@[simp] theorem length_packRows (layout : Layout) (bit : α → Bool) (cols rows : Nat)
    (src : List α) :
    (packRows layout bit cols rows src).length = rows * layout.packedSize cols := by
  induction rows generalizing src with
  | zero => simp [packRows, firstPieces]
  | succ rows ih => simp [packRows_succ, ih, Nat.succ_mul, Nat.add_comm]

theorem bitAt_packWord (bit : α → Bool) (xs : List α) {i : Nat} (hi : i < 32) :
    bitAt (packWord bit xs) i = (xs[i]?.map bit).getD false := by
  induction xs generalizing i with
  | nil => simp [bitAt_eq_testBit _ hi, packWord]
  | cons x xs ih =>
    rw [bitAt_eq_testBit _ hi, packWord, UInt32.toNat_or, Nat.testBit_or, UInt32.toNat_shiftLeft,
      Nat.testBit_mod_two_pow, Nat.testBit_shiftLeft]
    cases i with
    | zero => cases hx : bit x <;> simp [hx]
    | succ i =>
      have hlow : (if bit x then (1 : UInt32) else 0).toNat.testBit (i + 1) = false := by
        split <;> simp [Nat.testBit_succ]
      rw [hlow, List.getElem?_cons_succ, ← ih (by omega), bitAt_eq_testBit _ (by omega)]
      simp [hi]

/-! ## Words of a matrix -/

theorem setBits_eq_ok (bit : α → Bool) {i : Nat} {xs : List α} (word : UInt32)
    (h : i + xs.length ≤ 32) :
    ∃ w, setBits bit i word xs = .ok w ∧ ∀ j < 32, bitAt w j =
      (bitAt word j || (decide (i ≤ j) && (xs[j - i]?.map bit).getD false)) := by
  induction xs generalizing i word with
  | nil => exact ⟨word, rfl, by simp⟩
  | cons x xs ih =>
    rw [List.length_cons] at h
    have hi : i < 32 := by omega
    have shift {j : Nat} (hj : i < j) : (x :: xs)[j - i]? = xs[j - (i + 1)]? := by
      rw [show j - i = j - (i + 1) + 1 by omega, List.getElem?_cons_succ]
    by_cases hx : bit x
    · obtain ⟨w, hw, hbits⟩ := ih (i := i + 1) (word ||| 1 <<< UInt32.ofNat i) (by omega)
      refine ⟨w, by rw [setBits, if_pos hx, singleBit, if_pos hi, ok_bind, hw], fun j hj => ?_⟩
      rw [hbits j hj, bitAt_or _ _ hj, bitAt_one_shiftLeft hi hj]
      rcases Nat.lt_trichotomy i j with hij | rfl | hij
      · simp [shift hij, hij.ne, Nat.succ_le_of_lt hij, hij.le]
      · simp [hx]
      · simp [hij.ne', Nat.not_le_of_lt hij, show ¬i + 1 ≤ j by omega]
    · obtain ⟨w, hw, hbits⟩ := ih (i := i + 1) word (by omega)
      refine ⟨w, by rw [setBits, if_neg hx, hw], fun j hj => ?_⟩
      rw [hbits j hj]
      rcases Nat.lt_trichotomy i j with hij | rfl | hij
      · simp [shift hij, Nat.succ_le_of_lt hij, hij.le]
      · simp [hx]
      · simp [Nat.not_le_of_lt hij, show ¬i + 1 ≤ j by omega]

/-- No element of a piece is put beyond the last bit. -/
theorem setBits_eq_packWord (bit : α → Bool) {piece : List α} (h : piece.length ≤ 32) :
    setBits bit 0 0 piece = .ok (packWord bit piece) := by
  obtain ⟨w, hw, hbits⟩ := setBits_eq_ok bit (i := 0) 0 (by omega : 0 + piece.length ≤ 32)
  rw [hw]
  refine congrArg _ (word_eq_of_bits fun j hj => ?_)
  rw [hbits j hj, bitAt_packWord bit piece hj]
  simp

/-- A row with a word for each of its pieces fills all of them. -/
theorem packIntoRow_eq_ok (layout : Layout) (bit : α → Bool) {row : List α} {words : List UInt32}
    (h : words.length = layout.packedSize row.length) :
    packIntoRow layout bit row words =
      .ok (packRow layout bit (layout.packedSize row.length) row) := by
  rw [packIntoRow, allPieces_eq_ok layout.bits_pos, ok_bind]
  refine zipUpdate_eq_map ?_ fun piece hpiece _ _ => setBits_eq_packWord bit ?_
  · rw [length_firstPieces, h, Layout.packedSize]
  · exact Nat.le_trans (length_le_of_mem_firstPieces hpiece) layout.bits_le

theorem getElem?_packRow (layout : Layout) (bit : α → Bool) {words k : Nat} (row : List α)
    (hk : k < words) :
    (packRow layout bit words row)[k]? =
      some (packWord bit ((row.drop (k * layout.bits)).take layout.bits)) := by
  rw [packRow, List.getElem?_map, getElem?_firstPieces row hk, Option.map_some]

theorem getElem?_packRows (layout : Layout) (bit : α → Bool) {cols rows row k : Nat}
    (src : List α) (hr : row < rows) (hk : k < layout.packedSize cols) :
    (packRows layout bit cols rows src)[row * layout.packedSize cols + k]? =
      some (packWord bit ((((src.drop (row * cols)).take cols).drop (k * layout.bits)).take
        layout.bits)) := by
  induction rows generalizing src row with
  | zero => omega
  | succ rows ih =>
    cases row with
    | zero =>
      rw [packRows_succ, List.getElem?_append_left (by simpa using hk), Nat.zero_mul, Nat.zero_add,
        getElem?_packRow layout bit _ hk, Nat.zero_mul, List.drop_zero]
    | succ row =>
      have hskip : (row + 1) * layout.packedSize cols + k =
          layout.packedSize cols + (row * layout.packedSize cols + k) := by ring
      rw [packRows_succ, hskip, List.getElem?_append_right (by simp), length_packRow,
        Nat.add_sub_cancel_left, ih _ (by omega), List.drop_drop]
      congr 7
      ring

/-- Packing sets no bit at or above the width. -/
theorem packRows_and_not_usedMask (layout : Layout) (bit : α → Bool) {cols rows : Nat}
    {src : List α} {word : UInt32} (h : word ∈ packRows layout bit cols rows src) :
    word &&& ~~~layout.usedMask = 0 := by
  obtain ⟨words, hwords, hword⟩ := List.mem_flatten.1 h
  obtain ⟨row, -, rfl⟩ := List.mem_map.1 hwords
  obtain ⟨piece, hpiece, rfl⟩ := List.mem_map.1 hword
  have hlen := length_le_of_mem_firstPieces hpiece
  rw [and_not_usedMask_eq_zero_iff]
  intro i hwidth hi
  rw [bitAt_packWord bit piece hi, List.getElem?_eq_none (by omega)]
  rfl

/-- Bit `i` of word `k` of a row, in words stored row after row. -/
def wordBit (layout : Layout) (cols : Nat) (words : List UInt32) (row k i : Nat) : Bool :=
  bitAt (words.getD (row * layout.packedSize cols + k) 0) i

/-- The bit that stands for a column of a row. -/
def storedBit (layout : Layout) (cols : Nat) (words : List UInt32) (row col : Nat) : Bool :=
  wordBit layout cols words row (layout.locate col).1 (layout.locate col).2

/-- Bit `i` of word `k` is that of column `k * bits + i`, and zero where there is no such column. -/
theorem wordBit_packRows (layout : Layout) (bit : α → Bool) {cols rows row k i : Nat}
    (src : List α) (hr : row < rows) (hk : k < layout.packedSize cols) (hi : i < 32) :
    wordBit layout cols (packRows layout bit cols rows src) row k i =
      (i < layout.bits && k * layout.bits + i < cols &&
        (src[row * cols + (k * layout.bits + i)]?.map bit).getD false) := by
  rw [wordBit, List.getD_eq_getElem?_getD, getElem?_packRows layout bit src hr hk,
    Option.getD_some, bitAt_packWord bit _ hi, List.getElem?_take, List.getElem?_drop,
    List.getElem?_take, List.getElem?_drop]
  split_ifs with hw hc <;> simp [*]

theorem storedBit_packRows (layout : Layout) (bit : α → Bool) {cols rows row col : Nat}
    (src : List α) (hr : row < rows) (hc : col < cols) :
    storedBit layout cols (packRows layout bit cols rows src) row col =
      (src[row * cols + col]?.map bit).getD false := by
  have hi : col % layout.bits < layout.bits := layout.locate_snd_lt col
  have hcol : col / layout.bits * layout.bits + col % layout.bits = col := Nat.div_add_mod' col _
  rw [storedBit, Layout.locate, wordBit_packRows layout bit src hr (layout.div_lt_packedSize hc)
    (Nat.lt_of_lt_of_le hi layout.bits_le), hcol]
  simp [hi, hc]

/-! ## Checks of sizes -/

/-- What a call on a matrix checks before anything else: that its `rows` rows have so many elements
where it reads, and so many where it writes. -/
def checkSizes (rows readCols found writeCols room : Nat) : Except TensorError Unit := do
  expectLength (← sizeProduct rows readCols) found
  expectLength (← sizeProduct rows writeCols) room

theorem checkSizes_eq_ok_iff {rows readCols found writeCols room : Nat} :
    checkSizes rows readCols found writeCols room = .ok () ↔
      (rows * readCols < sizeLimit ∧ found = rows * readCols) ∧
        rows * writeCols < sizeLimit ∧ room = rows * writeCols := by
  simp only [checkSizes, bind_eq_ok_iff, sizeProduct_eq_ok_iff, expectLength_eq_ok_iff]
  constructor
  · rintro ⟨_, ⟨hread, rfl⟩, _, hfound, _, ⟨hwrite, rfl⟩, hroom⟩
    exact ⟨⟨hread, hfound.symm⟩, hwrite, hroom.symm⟩
  · rintro ⟨⟨hread, hfound⟩, hwrite, hroom⟩
    exact ⟨_, ⟨hread, rfl⟩, (), hfound.symm, _, ⟨hwrite, rfl⟩, hroom.symm⟩

/-! ## Packing -/

/-- Without columns there are no words. -/
theorem packRows_zero_cols (layout : Layout) (bit : α → Bool) (rows : Nat) (src : List α) :
    packRows layout bit 0 rows src = [] := by
  rw [← List.length_eq_zero_iff, length_packRows, layout.packedSize_zero, Nat.mul_zero]

/-- Packing into a buffer checks the sizes and then writes every word: the rows of the matrix and
those of the buffer end together, and so do the pieces of a row and its words. -/
theorem packInto_replaces (layout : Layout) (bit : α → Bool) (src : List α) (rows cols : Nat) :
    (packInto layout bit src rows cols).Replaces
      (checkSizes rows cols src.length (layout.packedSize cols))
      (packRows layout bit cols rows src) := by
  intro buffer
  refine BufferM.runOn_bind_eq_conclude (runOn_lift _ _) fun n hn => ?_
  refine BufferM.runOn_bind_eq_conclude (runOn_lift _ _) fun _ hsrc => ?_
  refine BufferM.runOn_bind_eq_conclude (runOn_lift _ _) fun m hm => ?_
  rw [runOn_bind_ok (runOn_get buffer)]
  refine BufferM.runOn_check_eq_conclude fun hroom => ?_
  have full : src.length = rows * cols :=
    (expectLength_eq_ok_iff.1 hsrc).symm.trans (sizeProduct_eq_ok_iff.1 hn).2
  have room : buffer.length = rows * layout.packedSize cols :=
    (expectLength_eq_ok_iff.1 hroom).symm.trans (sizeProduct_eq_ok_iff.1 hm).2
  by_cases hc : cols = 0
  · subst hc
    have hnil : buffer = [] := by
      rw [← List.length_eq_zero_iff, room, layout.packedSize_zero, Nat.mul_zero]
    rw [if_pos rfl, packRows_zero_cols, hnil]
    rfl
  · have hcols := Nat.pos_of_ne_zero hc
    rw [if_neg hc, exactPieces_eq_ok hcols full, runOn_bind_ok (runOn_lift _ _)]
    refine BufferM.runOn_zipPieces (layout.packedSize_pos hcols) ?_ fun row hrow words hwords => ?_
    · rw [room, length_firstPieces]
    · have hrow : row.length = cols := length_of_mem_firstPieces full.ge hrow
      rw [packIntoRow_eq_ok layout bit (hwords.trans (by rw [hrow])), hrow]

/-- Packing succeeds on every matrix of the right size. -/
theorem pack_eq_ok (layout : Layout) (bit : α → Bool) {rows cols : Nat} {src : List α}
    (fits : rows * cols < sizeLimit) (full : src.length = rows * cols) :
    pack layout bit src rows cols = .ok (packRows layout bit cols rows src) := by
  have fits' := layout.mul_packedSize_lt fits
  have hreplaces := packInto_replaces layout bit src rows cols
  rw [pack, sizeProduct_eq_ok fits', ok_bind, hreplaces.filled_eq_ok_iff]
  exact ⟨checkSizes_eq_ok_iff.2 ⟨⟨fits, full⟩, fits', List.length_replicate⟩, rfl⟩

/-! ## Unpacking -/

/-- The stored bits of a matrix in row-major order. -/
def storedBits (layout : Layout) (rows cols : Nat) (words : List UInt32) : List Bool :=
  (List.range (rows * cols)).map fun k => storedBit layout cols words (k / cols) (k % cols)

@[simp] theorem length_storedBits (layout : Layout) (rows cols : Nat) (words : List UInt32) :
    (storedBits layout rows cols words).length = rows * cols := by
  simp [storedBits]

theorem getElem?_storedBits (layout : Layout) {rows cols row col : Nat} (words : List UInt32)
    (hr : row < rows) (hc : col < cols) :
    (storedBits layout rows cols words)[row * cols + col]? =
      some (storedBit layout cols words row col) :=
  getElem?_rowMajor (storedBit layout cols words) hr hc

theorem storedBits_congr (layout : Layout) {rows cols : Nat} {words words' : List UInt32}
    (h : ∀ row < rows, ∀ col < cols,
      storedBit layout cols words row col = storedBit layout cols words' row col) :
    storedBits layout rows cols words = storedBits layout rows cols words' := by
  apply List.map_congr_left
  intro k hk
  have hk := List.mem_range.1 hk
  have hc : 0 < cols := Nat.pos_of_mul_pos_left (Nat.zero_lt_of_lt hk)
  exact h _ ((Nat.div_lt_iff_lt_mul hc).2 hk) _ (Nat.mod_lt k hc)

theorem readBit_eq_ok {word : UInt32} {offset : Nat} (h : offset < 32) :
    readBit word offset = .ok (bitAt word offset) :=
  if_pos h

theorem readColumn_eq_ok (layout : Layout) (levels : Levels α) {cols col : Nat}
    {words : List UInt32} (h : layout.packedSize cols ≤ words.length) (hcol : col < cols) :
    readColumn layout levels words.toArray col =
      .ok (levels.value (storedBit layout cols words 0 col)) := by
  have hword := Nat.lt_of_lt_of_le (layout.div_lt_packedSize hcol) h
  have hoffset : col % layout.bits < 32 :=
    Nat.lt_of_lt_of_le (layout.locate_snd_lt col) layout.bits_le
  simp [readColumn, storedBit, wordBit, Layout.locate, hword, readBit_eq_ok hoffset]

/-- A row with a word for each of its columns is read to its end. -/
theorem unpackIntoRow_eq_ok (layout : Layout) (levels : Levels α) {words : List UInt32}
    {row : List α} (h : layout.packedSize row.length ≤ words.length) :
    unpackIntoRow layout levels words row =
      .ok ((List.range row.length).map fun col =>
        levels.value (storedBit layout row.length words 0 col)) :=
  mapM_eq_ok fun _ hcol => readColumn_eq_ok layout levels h (List.mem_range.1 hcol)

theorem storedBit_take (layout : Layout) {cols col : Nat} (words : List UInt32) (hc : col < cols) :
    storedBit layout cols (words.take (layout.packedSize cols)) 0 col =
      storedBit layout cols words 0 col := by
  simp [storedBit, wordBit, Layout.locate, layout.div_lt_packedSize hc]

theorem storedBit_drop (layout : Layout) (cols : Nat) (words : List UInt32) (row col : Nat) :
    storedBit layout cols (words.drop (layout.packedSize cols)) row col =
      storedBit layout cols words (row + 1) col := by
  have hskip : layout.packedSize cols + (row * layout.packedSize cols + col / layout.bits) =
      (row + 1) * layout.packedSize cols + col / layout.bits := by ring
  simp only [storedBit, wordBit, Layout.locate, List.getD_eq_getElem?_getD, List.getElem?_drop,
    hskip]

/-- Row after row, the stored bits are read in row-major order. -/
theorem flatten_rowValues (layout : Layout) (levels : Levels α) {cols : Nat} (hc : 0 < cols)
    (rows : Nat) (words : List UInt32) :
    ((firstPieces (layout.packedSize cols) rows words).map fun piece =>
      (List.range cols).map fun col => levels.value (storedBit layout cols piece 0 col)).flatten =
      (storedBits layout rows cols words).map levels.value := by
  induction rows generalizing words with
  | zero => simp [firstPieces, storedBits]
  | succ rows ih =>
    rw [firstPieces, List.map_cons, List.flatten_cons, ih]
    simp only [storedBits, show (rows + 1) * cols = cols + rows * cols by ring, List.range_add,
      List.map_append, List.map_map]
    congr 1
    · apply List.map_congr_left
      intro col hcol
      have hcol := List.mem_range.1 hcol
      rw [storedBit_take layout words hcol, Function.comp_apply, Nat.div_eq_of_lt hcol,
        Nat.mod_eq_of_lt hcol]
    · apply List.map_congr_left
      intro k _
      simp only [Function.comp_apply, storedBit_drop, Nat.add_div_left k hc, Nat.add_mod_left]

/-- Unpacking checks the sizes and then writes every value: the rows of words and those of the buffer
end together, and each row of words has one for every column. -/
theorem unpackInto_replaces (layout : Layout) (levels : Levels α) (words : List UInt32)
    (rows cols : Nat) :
    (unpackInto layout levels words rows cols).Replaces
      (checkSizes rows (layout.packedSize cols) words.length cols)
      ((storedBits layout rows cols words).map levels.value) := by
  intro buffer
  refine BufferM.runOn_bind_eq_conclude (runOn_lift _ _) fun n hn => ?_
  refine BufferM.runOn_bind_eq_conclude (runOn_lift _ _) fun _ hwords => ?_
  refine BufferM.runOn_bind_eq_conclude (runOn_lift _ _) fun m hm => ?_
  rw [runOn_bind_ok (runOn_get buffer)]
  refine BufferM.runOn_check_eq_conclude fun hroom => ?_
  have full : words.length = rows * layout.packedSize cols :=
    (expectLength_eq_ok_iff.1 hwords).symm.trans (sizeProduct_eq_ok_iff.1 hn).2
  have room : buffer.length = rows * cols :=
    (expectLength_eq_ok_iff.1 hroom).symm.trans (sizeProduct_eq_ok_iff.1 hm).2
  by_cases hc : cols = 0
  · subst hc
    have hnil : buffer = [] := List.length_eq_zero_iff.1 (room.trans (Nat.mul_zero rows))
    simp [storedBits, hnil]
  · have hcols := Nat.pos_of_ne_zero hc
    rw [if_neg hc, exactPieces_eq_ok (layout.packedSize_pos hcols) full,
      runOn_bind_ok (runOn_lift _ _), ← flatten_rowValues layout levels hcols]
    refine BufferM.runOn_zipPieces hcols (by rw [room, length_firstPieces]) ?_
    intro piece hpiece row hrow
    have hpiece : piece.length = layout.packedSize cols := length_of_mem_firstPieces full.ge hpiece
    rw [unpackIntoRow_eq_ok layout levels (by rw [hrow, hpiece]), hrow]

/-- Unpacking succeeds on every list of words of the right size, whatever the words hold. -/
theorem unpack_eq_ok (layout : Layout) (levels : Levels α) {rows cols : Nat} {words : List UInt32}
    (fits : rows * cols < sizeLimit) (full : words.length = rows * layout.packedSize cols) :
    unpack layout levels words rows cols = .ok ((storedBits layout rows cols words).map levels.value)
    := by
  have hreplaces := unpackInto_replaces layout levels words rows cols
  rw [unpack, sizeProduct_eq_ok fits, ok_bind, hreplaces.filled_eq_ok_iff]
  exact ⟨checkSizes_eq_ok_iff.2
    ⟨⟨layout.mul_packedSize_lt fits, full⟩, fits, List.length_replicate⟩, rfl⟩

/-- Unpacking into a buffer with room for exactly the values leaves nothing of the old ones. -/
theorem runOn_unpackInto (layout : Layout) (levels : Levels α) {rows cols : Nat}
    {words : List UInt32} {buffer : List α} (fits : rows * cols < sizeLimit)
    (full : words.length = rows * layout.packedSize cols) (room : buffer.length = rows * cols) :
    runOn (unpackInto layout levels words rows cols) buffer =
      (.ok (), (storedBits layout rows cols words).map levels.value) :=
  (unpackInto_replaces layout levels words rows cols).runOn_of_ok
    (checkSizes_eq_ok_iff.2 ⟨⟨layout.mul_packedSize_lt fits, full⟩, fits, room⟩)

/-- Unpacking into a buffer of any size touches it only once every value is there. -/
theorem unpackInto_allOrNothing (layout : Layout) (levels : Levels α) (words : List UInt32)
    (rows cols : Nat) (buffer : List α) :
    (unpackInto layout levels words rows cols).AllOrNothing buffer := by
  refine (unpackInto_replaces layout levels words rows cols).allOrNothing fun hcheck => ?_
  obtain ⟨-, -, room⟩ := checkSizes_eq_ok_iff.1 hcheck
  rw [List.length_map, length_storedBits, room]

/-! ## There and back -/

/-- The stored bits of packed elements are the bits of the elements. -/
theorem storedBits_packRows (layout : Layout) (bit : α → Bool) {rows cols : Nat} {src : List α}
    (full : src.length = rows * cols) :
    storedBits layout rows cols (packRows layout bit cols rows src) = src.map bit := by
  apply List.ext_getElem
  · simp [full]
  · intro k hk _
    have hk : k < rows * cols := by simpa using hk
    have hc : 0 < cols := Nat.pos_of_mul_pos_left (Nat.zero_lt_of_lt hk)
    have hrow : k / cols < rows := (Nat.div_lt_iff_lt_mul hc).2 hk
    have hpos : k / cols * cols + k % cols = k := Nat.div_add_mod' k cols
    simp only [storedBits, List.getElem_map, List.getElem_range]
    rw [storedBit_packRows layout bit src hrow (Nat.mod_lt k hc), hpos,
      List.getElem?_eq_getElem (full ▸ hk)]
    rfl

/-- Packing any matrix that 64 bits can count succeeds, with `⌈cols / bits⌉` words to a row, and
unpacking those words gives each element the level of its bit. `bit` stands for any rule from
elements to bits, such as `Bit.ofSingle`, `Bit.ofInt8`, `Bit.ofBool` and `Bit.ofByte` with their
thresholds. Booleans come back as they were. -/
theorem unpack_pack (layout : Layout) {rows cols : Nat} (fits : rows * cols < sizeLimit) :
    (∀ {α β : Type} (bit : α → Bool) (levels : Levels β) (src : List α),
      src.length = rows * cols →
        ∃ words, pack layout bit src rows cols = .ok words ∧
          words.length = rows * (cols ⌈/⌉ layout.bits) ∧
          unpack layout levels words rows cols = .ok (src.map fun x => levels.value (bit x))) ∧
    (∀ src : List Bool, src.length = rows * cols →
      ∃ words, pack layout Bit.ofBool src rows cols = .ok words ∧
        unpack layout Levels.bool words rows cols = .ok src) := by
  have general {α β : Type} (bit : α → Bool) (levels : Levels β) (src : List α)
      (full : src.length = rows * cols) :
      unpack layout levels (packRows layout bit cols rows src) rows cols =
        .ok (src.map fun x => levels.value (bit x)) := by
    rw [unpack_eq_ok layout levels fits (length_packRows layout bit cols rows src),
      storedBits_packRows layout bit full, List.map_map]
    rfl
  have same : (fun x => Levels.bool.value (Bit.ofBool x)) = id := by
    funext x
    cases x <;> rfl
  refine ⟨fun bit levels src full =>
    ⟨_, pack_eq_ok layout bit fits full, ?_, general bit levels src full⟩,
    fun src full => ⟨_, pack_eq_ok layout _ fits full, ?_⟩⟩
  · rw [length_packRows, layout.packedSize_eq_ceilDiv]
  · rw [general Bit.ofBool Levels.bool src full, same, List.map_id]

/-- Two rows of five booleans, four to a word, take four words and come back. -/
theorem unpack_pack_two_rows :
    2 * 5 < sizeLimit ∧
      ∃ words, pack ⟨4, by decide, by decide⟩ Bit.ofBool
          [true, false, true, true, false, false, false, true, false, true] 2 5 = .ok words ∧
        unpack ⟨4, by decide, by decide⟩ Levels.bool words 2 5 =
          .ok [true, false, true, true, false, false, false, true, false, true] :=
  ⟨by decide, (unpack_pack _ (by decide)).2 _ rfl⟩

end OneBit
