import OneBit.Proofs.Ieee.Rounding
import OneBit.Proofs.Repacking

/-!
# The int8 levels

The levels lie `Levels.offset` above and below the zero point, as far as int8 reaches.

* `Levels.toInt_int8` : the two levels as integers; that the sums are taken in 32 bits makes no
  difference, because int8 reaches less far;
* `Levels.int8_eq_exact_iff` : the levels are those of unbounded arithmetic, unless the offset itself
  does not fit into 32 bits and the zero point lies within an int8 of either end;
* `Levels.faithful_int8_iff` : the zero points at which the levels map back to their bits.
-/

namespace OneBit

open Ieee

namespace Levels

variable {q : Quantization} {levels : Levels Int8} {scale : Binary32}

theorem toInt_clampInt8 (n : Int) : (clampInt8 n).toInt = min 127 (max (-128) n) := by
  rw [clampInt8, Int8.toInt_ofInt_of_le (by omega) (by omega)]
  omega

theorem clampInt8_saturate (n : Int) : clampInt8 (saturate n) = clampInt8 n := by
  rw [← Int8.toInt_inj, toInt_clampInt8, toInt_clampInt8, saturate]
  omega

theorem toInt_int8 (h : int8 q = .ok levels) :
    levels.zero.toInt = min 127 (max (-128) (q.zeroPoint.toInt + (offset q.scale).toInt)) ∧
    levels.one.toInt = min 127 (max (-128) (q.zeroPoint.toInt - (offset q.scale).toInt)) := by
  rw [int8] at h
  split at h
  · cases h
    rw [clampInt8_saturate, clampInt8_saturate, toInt_clampInt8, toInt_clampInt8]
    exact ⟨rfl, rfl⟩
  · cases h

/-- There are int8 levels for the finite scales above zero. -/
theorem exists_int8_iff : (∃ levels, int8 q = .ok levels) ↔
    ∃ significand exponent, 0 < significand ∧ q.scale.value = .finite false significand exponent := by
  rw [← Binary32.FinitePositive, ← Binary32.finite_pos_iff, int8]
  split <;> simp [*]

theorem int8_eq_error (h : ¬q.scale.FinitePositive) : int8 q = .error (.invalidScale q.scale) := by
  rw [← Binary32.finite_pos_iff] at h
  rw [int8, if_neg h]

/-! ## The offset -/

theorem exists_roundsTo (h : scale.FinitePositive) :
    ∃ steps : WithTop ℤ, 0 ≤ steps ∧ (Binary32.one.div scale).value.RoundsTo steps := by
  obtain ⟨significand, exponent, hpos, hscale⟩ := h
  have hone : Binary32.one.value = .finite false 8388608 (-23) := by decide
  exact Binary32.exists_roundsTo_div hone hscale hpos

/-- The offset is the number of steps as far as 32 bits hold it. -/
theorem toInt_offset {steps : WithTop ℤ} (hsteps : (Binary32.one.div scale).value.RoundsTo steps)
    (h : 0 ≤ steps) : ((offset scale).toInt : WithTop ℤ) = min steps (2147483647 : ℤ) := by
  obtain ⟨hfinite, htop⟩ := Value.toIntClamped_eq hsteps (-2147483648) 2147483647
  cases steps with
  | top =>
    rw [offset, Binary32.toInt32, htop rfl, min_eq_right le_top]
    rfl
  | coe n =>
    have hn : 0 ≤ n := by exact_mod_cast h
    rw [offset, Binary32.toInt32, hfinite n rfl, Int32.toInt_ofInt_of_le (by omega) (by omega)]
    rw [← WithTop.coe_min, WithTop.coe_inj]
    omega

/-! ## Unbounded arithmetic -/

/-- The levels in unbounded arithmetic, infinitely many steps reaching the ends of int8. -/
def exact (zeroPoint : ℤ) : WithTop ℤ → Levels ℤ
  | ⊤ => ⟨127, -128⟩
  | (n : ℤ) => ⟨min 127 (max (-128) (zeroPoint + n)), min 127 (max (-128) (zeroPoint - n))⟩

/-- The levels as integers. -/
def toInt (levels : Levels Int8) : Levels ℤ := ⟨levels.zero.toInt, levels.one.toInt⟩

theorem toInt_eq_iff {pair : Levels ℤ} :
    levels.toInt = pair ↔ levels.zero.toInt = pair.zero ∧ levels.one.toInt = pair.one := by
  cases pair
  simp [toInt]

/-- Where the offset is cut off, the zero point must not lie so far out that the cut shows. -/
theorem toInt_eq_exact_iff {zeroPoint : Int32} {steps : WithTop ℤ}
    (h : int8 ⟨scale, zeroPoint⟩ = .ok levels)
    (hsteps : (Binary32.one.div scale).value.RoundsTo steps) (hnonneg : 0 ≤ steps) :
    levels.toInt = exact zeroPoint.toInt steps ↔
      steps ≤ (2147483647 : ℤ) ∨ -2147483520 ≤ zeroPoint.toInt ∧ zeroPoint.toInt ≤ 2147483519 := by
  obtain ⟨hzero, hone⟩ := toInt_int8 h
  have hoffset := toInt_offset hsteps hnonneg
  have hlo := zeroPoint.le_toInt
  have hhi := zeroPoint.toInt_lt
  rw [toInt_eq_iff, hzero, hone]
  dsimp only
  cases steps with
  | top =>
    rw [min_eq_right le_top, WithTop.coe_inj] at hoffset
    rw [or_iff_right (not_le_of_gt (WithTop.coe_lt_top _))]
    simp only [exact, hoffset]
    omega
  | coe n =>
    have hn : 0 ≤ n := by exact_mod_cast hnonneg
    rw [← WithTop.coe_min, WithTop.coe_inj] at hoffset
    rw [WithTop.coe_le_coe]
    simp only [exact, hoffset]
    omega

/-- The levels are there for the finite scales above zero and for no other. They are those of
unbounded arithmetic, with as many steps as the quotient rounds to, exactly when the steps fit into 32
bits or the zero point does not lie within an int8 of either end of them. -/
theorem int8_eq_exact_iff (scale : Binary32) (zeroPoint : Int32) :
    (scale.FinitePositive →
      ∃ steps : WithTop ℤ, (Binary32.one.div scale).value.RoundsTo steps ∧
        ∃ levels, int8 ⟨scale, zeroPoint⟩ = .ok levels ∧
          (levels.toInt = exact zeroPoint.toInt steps ↔
            steps ≤ (2147483647 : ℤ) ∨
              -2147483520 ≤ zeroPoint.toInt ∧ zeroPoint.toInt ≤ 2147483519)) ∧
    (¬scale.FinitePositive → int8 ⟨scale, zeroPoint⟩ = .error (.invalidScale scale)) := by
  refine ⟨fun h => ?_, fun h => int8_eq_error h⟩
  obtain ⟨steps, hnonneg, hsteps⟩ := exists_roundsTo h
  obtain ⟨levels, hlevels⟩ : ∃ levels, int8 ⟨scale, zeroPoint⟩ = .ok levels := exists_int8_iff.2 h
  exact ⟨steps, hsteps, levels, hlevels, toInt_eq_exact_iff hlevels hsteps hnonneg⟩

/-- The smallest scale, whose quotient is infinite, at the lowest zero point that does not show it. -/
theorem int8_eq_exact_iff_smallest : Binary32.FinitePositive ⟨1⟩ ∧
    ∃ steps : WithTop ℤ, (Binary32.one.div ⟨1⟩).value.RoundsTo steps ∧
      ∃ levels, int8 ⟨⟨1⟩, -2147483520⟩ = .ok levels ∧ levels.toInt = exact (-2147483520) steps := by
  have hscale : Binary32.FinitePositive ⟨1⟩ := ⟨1, -149, by decide, by decide⟩
  obtain ⟨steps, hsteps, levels, hlevels, hiff⟩ := (int8_eq_exact_iff ⟨1⟩ (-2147483520)).1 hscale
  exact ⟨hscale, steps, hsteps, levels, hlevels, hiff.2 (.inr ⟨by decide, by decide⟩)⟩

/-- With `2 ^ 32` steps and the lowest zero point, the upper level is minus one instead of the largest
int8: the steps are cut to 32 bits before they are added. -/
theorem int8_ne_exact : Binary32.FinitePositive ⟨0x2F800000⟩ ∧
    (Binary32.one.div ⟨0x2F800000⟩).value.RoundsTo (4294967296 : ℤ) ∧
    int8 ⟨⟨0x2F800000⟩, -2147483648⟩ = .ok ⟨-1, -128⟩ ∧
    exact (Int32.toInt (-2147483648)) (4294967296 : ℤ) = ⟨127, -128⟩ := by
  have hquotient : (Binary32.one.div ⟨0x2F800000⟩).value = .finite false 8388608 9 := by decide
  refine ⟨⟨8388608, -55, by decide, by decide⟩, ?_, by decide, by decide⟩
  rw [hquotient]
  norm_num [Value.RoundsTo, roundAway, Value.number]

/-! ## Faithful zero points -/

theorem offset_nonneg (h : scale.FinitePositive) : 0 ≤ (offset scale).toInt := by
  obtain ⟨steps, hnonneg, hsteps⟩ := exists_roundsTo h
  have hoffset := toInt_offset hsteps hnonneg
  have hmin : (0 : WithTop ℤ) ≤ min steps (2147483647 : ℤ) :=
    le_min hnonneg (WithTop.coe_le_coe.2 (by decide))
  rw [← hoffset] at hmin
  exact WithTop.coe_le_coe.1 hmin

theorem one_le_zero (h : int8 q = .ok levels) : levels.one.toInt ≤ levels.zero.toInt := by
  obtain ⟨hzero, hone⟩ := toInt_int8 h
  have hoffset := offset_nonneg (exists_int8_iff.1 ⟨levels, h⟩)
  omega

/-- The levels map back to their bits when they lie apart and the zero point is an int8 that is not the
lowest. -/
theorem faithful_int8_iff (h : int8 q = .ok levels) :
    levels.Faithful (Bit.ofInt8 q.zeroPoint) ↔
      1 ≤ (offset q.scale).toInt ∧ -128 < q.zeroPoint.toInt ∧ q.zeroPoint.toInt ≤ 127 := by
  obtain ⟨hzero, hone⟩ := toInt_int8 h
  have hoffset := offset_nonneg (exists_int8_iff.1 ⟨levels, h⟩)
  have hfaithful : levels.Faithful (Bit.ofInt8 q.zeroPoint) ↔
      q.zeroPoint.toInt ≤ levels.zero.toInt ∧ levels.one.toInt < q.zeroPoint.toInt := by
    constructor
    · intro h
      exact ⟨not_lt.1 (of_decide_eq_false h.zero), of_decide_eq_true h.one⟩
    · rintro ⟨hle, hlt⟩
      exact ⟨decide_eq_false (not_lt.2 hle), decide_eq_true hlt⟩
  rw [hfaithful, hzero, hone]
  omega

end Levels

end OneBit
