import OneBit.Proofs.Ieee.Order
import OneBit.Proofs.Operator.Bits

/-!
# Packing what was unpacked

Words from anywhere may have bits set where no element is stored: at or above the width, and past the
last column of a row.

* `Layout.trim` : the words with only the bits that carry elements;
* `Levels.Faithful` : the levels that map back to the bits they stand for;
* `packRows_storedBits` : the stored bits of words, packed again, are the trimmed words;
* `pack_unpack` : so packing undoes unpacking, through any faithful levels.
-/

namespace OneBit

open Ieee

variable {α β : Type}

/-! ## Words without stray bits -/

namespace Layout

/-- The bits of word `k` of a row that carry one of its `cols` elements. -/
def columnMask (layout : Layout) (cols k : Nat) : UInt32 :=
  UInt32.ofNat (2 ^ min layout.bits (cols - k * layout.bits) - 1)

/-- The words of a matrix with every bit cleared that carries no element. -/
def trim (layout : Layout) (cols : Nat) (words : List UInt32) : List UInt32 :=
  words.mapIdx fun j word => word &&& layout.columnMask cols (j % layout.packedSize cols)

variable (layout : Layout) {cols rows row k i : Nat}

@[simp] theorem length_trim (cols : Nat) (words : List UInt32) :
    (layout.trim cols words).length = words.length := by
  simp [trim]

theorem bitAt_columnMask (cols k : Nat) (hi : i < 32) :
    bitAt (layout.columnMask cols k) i =
      decide (i < layout.bits ∧ k * layout.bits + i < cols) := by
  have hle : min layout.bits (cols - k * layout.bits) ≤ 32 :=
    Nat.le_trans (Nat.min_le_left _ _) layout.bits_le
  rw [columnMask, bitAt_two_pow_sub_one hle hi, decide_eq_decide]
  omega

theorem locate_mul_add (k : Nat) (hi : i < layout.bits) :
    layout.locate (k * layout.bits + i) = (k, i) := by
  rw [locate, Nat.add_comm, Nat.add_mul_div_right _ _ layout.bits_pos, Nat.add_mul_mod_self_right,
    Nat.div_eq_of_lt hi, Nat.mod_eq_of_lt hi, Nat.zero_add]

theorem getD_trim (words : List UInt32) (row : Nat) (hk : k < layout.packedSize cols) :
    (layout.trim cols words).getD (row * layout.packedSize cols + k) 0 =
      words.getD (row * layout.packedSize cols + k) 0 &&& layout.columnMask cols k := by
  have hmod : (row * layout.packedSize cols + k) % layout.packedSize cols = k := by
    rw [Nat.add_comm, Nat.add_mul_mod_self_right, Nat.mod_eq_of_lt hk]
  rw [trim, List.getD_eq_getElem?_getD, List.getD_eq_getElem?_getD, List.getElem?_mapIdx, hmod]
  cases words[row * layout.packedSize cols + k]? with
  | none => exact (UInt32.zero_and).symm
  | some word => rfl

/-- Trimming keeps the bits that carry elements and clears all others. -/
theorem wordBit_trim (words : List UInt32) (row : Nat) (hk : k < layout.packedSize cols)
    (hi : i < 32) :
    wordBit layout cols (layout.trim cols words) row k i =
      (i < layout.bits && k * layout.bits + i < cols && wordBit layout cols words row k i) := by
  rw [wordBit, layout.getD_trim words row hk, bitAt_and _ _ hi, layout.bitAt_columnMask cols k hi,
    Bool.decide_and, Bool.and_comm, wordBit]

end Layout

theorem testBit_trim (layout : Layout) {cols k i : Nat} (words : List UInt32) (row : Nat)
    (hk : k < cols ⌈/⌉ layout.bits) (hi : i < 32) :
    ((layout.trim cols words).getD (row * (cols ⌈/⌉ layout.bits) + k) 0).toNat.testBit i = true ↔
      i < layout.bits ∧ k * layout.bits + i < cols ∧
        (words.getD (row * (cols ⌈/⌉ layout.bits) + k) 0).toNat.testBit i = true := by
  rw [← layout.packedSize_eq_ceilDiv] at hk ⊢
  have hbit := layout.wordBit_trim words row hk hi
  rw [wordBit, wordBit, bitAt_eq_testBit _ hi, bitAt_eq_testBit _ hi] at hbit
  rw [hbit]
  simp [and_assoc]

/-- Words in rows are the same when all their bits are. -/
theorem words_eq_of_wordBit {layout : Layout} {cols rows : Nat} {words words' : List UInt32}
    (h : words.length = rows * layout.packedSize cols) (h' : words'.length = words.length)
    (hbits : ∀ row < rows, ∀ k < layout.packedSize cols, ∀ i < 32,
      wordBit layout cols words row k i = wordBit layout cols words' row k i) : words = words' := by
  apply List.ext_getElem h'.symm
  intro j hj hj'
  have hj : j < rows * layout.packedSize cols := h ▸ hj
  have hpos : 0 < layout.packedSize cols := Nat.pos_of_mul_pos_left (Nat.zero_lt_of_lt hj)
  have hrow : j / layout.packedSize cols < rows := (Nat.div_lt_iff_lt_mul hpos).2 hj
  have hsplit := Nat.div_add_mod' j (layout.packedSize cols)
  apply word_eq_of_bits
  intro i hi
  have hbit := hbits _ hrow _ (Nat.mod_lt j hpos) i hi
  rw [wordBit, wordBit, hsplit] at hbit
  simpa [*] using hbit

/-- The stored bits of any words, packed again, are these words without their stray bits. -/
theorem packRows_storedBits (layout : Layout) {cols rows : Nat} {words : List UInt32}
    (full : words.length = rows * layout.packedSize cols) :
    packRows layout id cols rows (storedBits layout rows cols words) = layout.trim cols words := by
  apply words_eq_of_wordBit (length_packRows ..) (by simp [full])
  intro row hr k hk i hi
  rw [wordBit_packRows layout id _ hr hk hi, layout.wordBit_trim words row hk hi]
  by_cases hw : i < layout.bits
  · by_cases hc : k * layout.bits + i < cols
    · rw [getElem?_storedBits layout words hr hc, storedBit, layout.locate_mul_add k hw]
      rfl
    · simp [hc]
  · simp [hw]

/-! ## Faithful levels -/

/-- The levels map back to the bits they stand for. -/
structure Levels.Faithful (levels : Levels α) (bit : α → Bool) : Prop where
  zero : bit levels.zero = false
  one : bit levels.one = true

namespace Levels.Faithful

variable {levels : Levels α} {bit : α → Bool}

theorem bit_value (h : levels.Faithful bit) (b : Bool) : bit (levels.value b) = b := by
  cases b with
  | false => exact h.zero
  | true => exact h.one

theorem map_map_value (h : levels.Faithful bit) (bits : List Bool) :
    (bits.map levels.value).map bit = bits := by
  rw [List.map_map]
  exact List.map_id'' h.bit_value bits

end Levels.Faithful

theorem Levels.faithful_bool : Levels.bool.Faithful Bit.ofBool := ⟨rfl, rfl⟩

/-- Between minus one, excluded, and one, included, a threshold tells the levels of singles apart. -/
theorem Levels.faithful_float32_iff {threshold : Binary32} :
    Levels.float32.Faithful (Bit.ofSingle threshold) ↔
      ∃ negative significand exponent, threshold.value = .finite negative significand exponent ∧
        -1 < Value.number negative significand exponent ∧
        Value.number negative significand exponent ≤ 1 := by
  have hone : Binary32.one.value = .finite false 8388608 (-23) := by decide
  have hnegOne : Binary32.negOne.value = .finite true 8388608 (-23) := by decide
  have hfaithful : Levels.float32.Faithful (Bit.ofSingle threshold) ↔
      ¬Binary32.one.value.Less threshold.value ∧ Binary32.negOne.value.Less threshold.value := by
    rw [← Binary32.lt_iff_less, ← Binary32.lt_iff_less, Bool.not_eq_true]
    exact ⟨fun h => ⟨h.zero, h.one⟩, fun h => ⟨h.1, h.2⟩⟩
  have hvalue : Value.number false 8388608 (-23) = 1 := by norm_num [Value.number]
  have hvalue' : Value.number true 8388608 (-23) = -1 := by norm_num [Value.number]
  rw [hfaithful, hone, hnegOne]
  cases threshold.value with
  | nan => simp [Value.Less]
  | infinite negative => cases negative <;> simp [Value.Less]
  | finite negative significand exponent =>
    simp only [Value.Less, hvalue, hvalue', not_lt]
    constructor
    · rintro ⟨hle, hlt⟩
      exact ⟨_, _, _, rfl, hlt, hle⟩
    · rintro ⟨_, _, _, h, hlt, hle⟩
      cases h
      exact ⟨hle, hlt⟩

/-! ## Back and there -/

theorem pack_map_value (layout : Layout) {levels : Levels α} {bit : α → Bool}
    (h : levels.Faithful bit) {rows cols : Nat} (fits : rows * cols < sizeLimit)
    (words : List UInt32) :
    pack layout bit ((storedBits layout rows cols words).map levels.value) rows cols =
      .ok (packRows layout id cols rows (storedBits layout rows cols words)) := by
  rw [pack_eq_ok layout bit fits (by simp), ← packRows_map, h.map_map_value]

/-- Packing what any words unpack to succeeds, through levels that map back to their bits, and gives
the words with only the bits that carry elements. Words that were packed come back as they were. The
levels of booleans map back, and so do those of singles when the threshold lies between them. -/
theorem pack_unpack (layout : Layout) {rows cols : Nat} (fits : rows * cols < sizeLimit) :
    (∀ {α : Type} (bit : α → Bool) (levels : Levels α) (words : List UInt32),
      levels.Faithful bit → words.length = rows * (cols ⌈/⌉ layout.bits) →
        ∃ values, unpack layout levels words rows cols = .ok values ∧
          pack layout bit values rows cols = .ok (layout.trim cols words)) ∧
    (∀ words : List UInt32, (layout.trim cols words).length = words.length ∧
      ∀ row < rows, ∀ k < cols ⌈/⌉ layout.bits, ∀ i < 32,
        (((layout.trim cols words).getD (row * (cols ⌈/⌉ layout.bits) + k) 0).toNat.testBit i = true ↔
          i < layout.bits ∧ k * layout.bits + i < cols ∧
            (words.getD (row * (cols ⌈/⌉ layout.bits) + k) 0).toNat.testBit i = true)) ∧
    Levels.bool.Faithful Bit.ofBool ∧
    (∀ (threshold : Binary32) (negative : Bool) (significand : Nat) (exponent : Int),
      threshold.value = .finite negative significand exponent →
      -1 < Value.number negative significand exponent →
      Value.number negative significand exponent ≤ 1 →
        Levels.float32.Faithful (Bit.ofSingle threshold)) ∧
    (∀ {α β : Type} (bit : α → Bool) (levels : Levels α) (bit' : β → Bool) (src : List β),
      levels.Faithful bit → src.length = rows * cols →
        ∃ words values, pack layout bit' src rows cols = .ok words ∧
          unpack layout levels words rows cols = .ok values ∧
          pack layout bit values rows cols = .ok words) := by
  refine ⟨?_, fun words => ⟨layout.length_trim cols words, ?_⟩, Levels.faithful_bool, ?_, ?_⟩
  · intro α bit levels words h full
    rw [← layout.packedSize_eq_ceilDiv] at full
    refine ⟨_, unpack_eq_ok layout levels fits full, ?_⟩
    rw [pack_map_value layout h fits, packRows_storedBits layout full]
  · intro row _ k hk i hi
    exact testBit_trim layout words row hk hi
  · intro threshold negative significand exponent hvalue hlt hle
    exact Levels.faithful_float32_iff.2 ⟨negative, significand, exponent, hvalue, hlt, hle⟩
  · intro α β bit levels bit' src h full
    refine ⟨_, _, pack_eq_ok layout bit' fits full, unpack_eq_ok layout levels fits (by simp), ?_⟩
    rw [pack_map_value layout h fits, storedBits_packRows layout bit' full, packRows_map]

/-- Two rows of five columns, four to a word, in words with all their bits set: four bits are left of
each first word and one of each second. -/
theorem pack_unpack_two_rows :
    2 * 5 < sizeLimit ∧ Levels.bool.Faithful Bit.ofBool ∧
      ∃ values, unpack ⟨4, by decide, by decide⟩ Levels.bool
          [0xFFFFFFFF, 0xFFFFFFFF, 0xFFFFFFFF, 0xFFFFFFFF] 2 5 = .ok values ∧
        pack ⟨4, by decide, by decide⟩ Bit.ofBool values 2 5 = .ok [0xF, 1, 0xF, 1] :=
  ⟨by decide, Levels.faithful_bool,
    (pack_unpack ⟨4, by decide, by decide⟩ (show 2 * 5 < sizeLimit by decide)).1 _ _ _
      Levels.faithful_bool rfl⟩

end OneBit
