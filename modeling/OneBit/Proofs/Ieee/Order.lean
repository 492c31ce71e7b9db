import Mathlib.Algebra.Order.Field.Power
import Mathlib.Data.Rat.Cast.Order
import Mathlib.Order.Monotone.Basic
import Mathlib.Tactic.Linarith
import Mathlib.Tactic.Ring
import OneBit.Ieee.Binary32

/-!
# The order of patterns is the order of values

* `Value.Less` : the order of the numbers that values stand for, in which what is not a number takes
  no part;
* `Format.units` : a finite pattern in units of the last place of a subnormal, which grows with the
  pattern;
* `Format.lt_iff` : so patterns compare as the numbers they stand for.
-/

namespace OneBit.Ieee

namespace Value

/-- The number `± significand · 2 ^ exponent`. -/
def number (negative : Bool) (significand : Nat) (exponent : Int) : ℚ :=
  (if negative then -(significand : ℚ) else significand) * 2 ^ exponent

theorem number_zero (negative : Bool) (exponent : Int) : number negative 0 exponent = 0 := by
  simp [number]

theorem number_pos_iff {negative : Bool} {significand : Nat} {exponent : Int} :
    0 < number negative significand exponent ↔ negative = false ∧ 0 < significand := by
  have hpower : (0 : ℚ) < 2 ^ exponent := zpow_pos two_pos _
  rw [number, mul_pos_iff_of_pos_right hpower]
  cases negative <;> simp

/-- The order of the numbers with an infinity at either end. -/
def Less : Value → Value → Prop
  | .finite s m p, .finite t n q => number s m p < number t n q
  | .infinite s, .infinite t => s = true ∧ t = false
  | .infinite s, .finite .. => s = true
  | .finite .., .infinite t => t = false
  | .nan, _ => False
  | _, .nan => False

end Value

namespace Format

variable (f : Format) {a b bits : Nat}

theorem leadingBit_pos : 0 < f.leadingBit :=
  Nat.two_pow_pos f.fractionBits

theorem infinity_pos (h : 0 < f.exponentBits) : 0 < f.infinity := by
  have : 2 ^ 1 ≤ 2 ^ f.exponentBits := Nat.pow_le_pow_right (by decide) h
  refine Nat.mul_pos ?_ f.leadingBit_pos
  show 0 < 2 ^ f.exponentBits - 1
  omega

/-! ## Magnitudes in units of the last place -/

/-- A finite magnitude in units of the last place of a subnormal. -/
def units (magnitude : Nat) : Nat :=
  let field := magnitude / f.leadingBit
  let fraction := magnitude % f.leadingBit
  if field = 0 then fraction else (f.leadingBit + fraction) * 2 ^ (field - 1)

@[simp] theorem units_zero : f.units 0 = 0 := by
  simp [units]

/-- The next pattern is larger, also where the fraction is full and carries into the exponent. -/
theorem units_strictMono : StrictMono f.units := by
  refine strictMono_nat_of_lt_succ fun n => ?_
  have hlead := f.leadingBit_pos
  have hfraction := Nat.mod_lt n hlead
  have hsplit : n + 1 = n % f.leadingBit + 1 + f.leadingBit * (n / f.leadingBit) := by
    have := Nat.div_add_mod n f.leadingBit
    omega
  by_cases hfull : n % f.leadingBit + 1 = f.leadingBit
  · have hfield : (n + 1) / f.leadingBit = n / f.leadingBit + 1 := by
      rw [hsplit, Nat.add_mul_div_left _ _ hlead, hfull, Nat.div_self hlead, Nat.add_comm]
    have hzero : (n + 1) % f.leadingBit = 0 := by
      rw [hsplit, Nat.add_mul_mod_self_left, hfull, Nat.mod_self]
    simp only [units, hfield, hzero, Nat.add_eq_zero_iff, one_ne_zero, and_false, if_false,
      Nat.add_sub_cancel, Nat.add_zero]
    cases n / f.leadingBit with
    | zero => simpa using hfraction
    | succ field =>
      rw [if_neg (Nat.succ_ne_zero field), Nat.add_sub_cancel, Nat.pow_succ, Nat.mul_comm (2 ^ field),
        ← Nat.mul_assoc]
      exact Nat.mul_lt_mul_of_pos_right (by omega) (Nat.two_pow_pos field)
  · have hroom : n % f.leadingBit + 1 < f.leadingBit := by omega
    have hfield : (n + 1) / f.leadingBit = n / f.leadingBit := by
      rw [hsplit, Nat.add_mul_div_left _ _ hlead, Nat.div_eq_of_lt hroom, Nat.zero_add]
    have hnext : (n + 1) % f.leadingBit = n % f.leadingBit + 1 := by
      rw [hsplit, Nat.add_mul_mod_self_left, Nat.mod_eq_of_lt hroom]
    simp only [units, hfield, hnext]
    split
    · exact Nat.lt_succ_self _
    · exact Nat.mul_lt_mul_of_pos_right (by omega) (Nat.two_pow_pos _)

/-! ## Numbers -/

/-- The number that a pattern stands for if it is finite. -/
def number (bits : Nat) : ℚ :=
  (if f.isNegative bits then -(f.units (f.magnitude bits) : ℚ) else f.units (f.magnitude bits)) *
    2 ^ f.unitExponent

theorem decode_of_lt (h : f.magnitude bits < f.infinity) :
    ∃ significand exponent, f.decode bits = .finite (f.isNegative bits) significand exponent ∧
      Value.number (f.isNegative bits) significand exponent = f.number bits := by
  have hnan : f.isNaN bits = false := decide_eq_false (by omega)
  unfold decode number units Value.number
  simp only [hnan, Bool.false_eq_true, if_false, if_neg (Nat.ne_of_lt h)]
  by_cases hfield : f.magnitude bits / f.leadingBit = 0
  · exact ⟨_, _, by rw [if_pos hfield], by simp only [if_pos hfield]⟩
  · refine ⟨_, _, by rw [if_neg hfield], ?_⟩
    obtain ⟨k, hk⟩ := Nat.exists_eq_succ_of_ne_zero hfield
    have hexponent : f.unitExponent + (k.succ : Int) - 1 = k + f.unitExponent := by omega
    rw [if_neg hfield, hk, hexponent, zpow_add₀ two_ne_zero, zpow_natCast, Nat.succ_sub_one]
    push_cast
    split <;> ring

theorem decode_eq_infinite (h : f.magnitude bits = f.infinity) :
    f.decode bits = .infinite (f.isNegative bits) := by
  have hnan : f.isNaN bits = false := decide_eq_false (by omega)
  simp [decode, hnan, h]

theorem decode_eq_nan (h : f.infinity < f.magnitude bits) : f.decode bits = .nan := by
  simp [decode, isNaN, h]

theorem lt_infinity_of_decode {negative : Bool} {significand : Nat} {exponent : Int}
    (h : f.decode bits = .finite negative significand exponent) : f.magnitude bits < f.infinity := by
  rcases Nat.lt_trichotomy (f.magnitude bits) f.infinity with hlt | heq | hgt
  · exact hlt
  · rw [f.decode_eq_infinite heq] at h
    cases h
  · rw [f.decode_eq_nan hgt] at h
    cases h

/-- Signed magnitudes compare as the numbers do. -/
theorem rank_lt_rank_iff : f.rank a < f.rank b ↔ f.number a < f.number b := by
  have hunit : (0 : ℚ) < 2 ^ f.unitExponent := zpow_pos two_pos _
  have hlt {m n : Nat} : f.units m < f.units n ↔ m < n := f.units_strictMono.lt_iff_lt
  have hpos {n : Nat} : 0 < f.units n ↔ 0 < n := by
    rw [← @hlt 0 n, units_zero]
  have hlt' {m n : Nat} : (f.units m : ℚ) < f.units n ↔ m < n := by rw [Nat.cast_lt, hlt]
  rw [number, number, mul_lt_mul_iff_left₀ hunit, rank, rank]
  split <;> split
  · rw [neg_lt_neg_iff, neg_lt_neg_iff, hlt', Nat.cast_lt]
  · have := @hpos (f.magnitude a)
    have := @hpos (f.magnitude b)
    norm_cast
    omega
  · norm_cast
    omega
  · rw [hlt', Nat.cast_lt]

/-- Patterns compare as the values they stand for. -/
theorem lt_iff (h : 0 < f.exponentBits) : f.lt a b = true ↔ (f.decode a).Less (f.decode b) := by
  have hinfinity := f.infinity_pos h
  have hlt : f.lt a b = true ↔ f.magnitude a ≤ f.infinity ∧ f.magnitude b ≤ f.infinity ∧
      f.rank a < f.rank b := by
    simp [lt, isNaN, and_assoc]
  rw [hlt]
  -- An infinite magnitude is above every finite one, so its sign decides.
  rcases Nat.lt_trichotomy (f.magnitude b) f.infinity with hb | hb | hb
  · obtain ⟨n, q, hdecode', hnumber'⟩ := f.decode_of_lt hb
    rw [hdecode']
    rcases Nat.lt_trichotomy (f.magnitude a) f.infinity with ha | ha | ha
    · obtain ⟨m, p, hdecode, hnumber⟩ := f.decode_of_lt ha
      rw [hdecode, Value.Less, hnumber, hnumber', rank_lt_rank_iff]
      exact ⟨fun h => h.2.2, fun h => ⟨ha.le, hb.le, h⟩⟩
    · rw [f.decode_eq_infinite ha, Value.Less, rank, rank]
      split <;> split <;> simp_all <;> omega
    · rw [f.decode_eq_nan ha]
      exact iff_of_false (fun h => Nat.not_le.2 ha h.1) id
  · rw [f.decode_eq_infinite hb]
    rcases Nat.lt_trichotomy (f.magnitude a) f.infinity with ha | ha | ha
    · obtain ⟨m, p, hdecode, -⟩ := f.decode_of_lt ha
      rw [hdecode, Value.Less, rank, rank]
      split <;> split <;> simp_all <;> omega
    · rw [f.decode_eq_infinite ha, Value.Less, rank, rank]
      split <;> split <;> simp_all
    · rw [f.decode_eq_nan ha]
      exact iff_of_false (fun h => Nat.not_le.2 ha h.1) id
  · rw [f.decode_eq_nan hb]
    refine iff_of_false (fun h => Nat.not_le.2 hb h.2.1) ?_
    cases f.decode a <;> exact id

end Format

namespace Binary32

theorem lt_iff_less {x y : Binary32} : x.lt y = true ↔ x.value.Less y.value :=
  format.lt_iff (by decide)

/-- A finite number above zero. -/
def FinitePositive (x : Binary32) : Prop :=
  ∃ significand exponent, 0 < significand ∧ x.value = .finite false significand exponent

theorem finite_pos_iff {x : Binary32} : (x.isFinite && zero.lt x) = true ↔
    x.FinitePositive := by
  have hzero : zero.value = .finite false 0 (-149) := by decide
  rw [Bool.and_eq_true, isFinite, decide_eq_true_iff, lt_iff_less, hzero]
  constructor
  · rintro ⟨hfinite, hless⟩
    obtain ⟨significand, exponent, hvalue, -⟩ := format.decode_of_lt hfinite
    rw [value, hvalue, Value.Less, Value.number_zero, Value.number_pos_iff] at hless
    exact ⟨significand, exponent, hless.2, by rw [value, hvalue, hless.1]⟩
  · rintro ⟨significand, exponent, hpos, hvalue⟩
    refine ⟨format.lt_infinity_of_decode hvalue, ?_⟩
    rw [hvalue, Value.Less, Value.number_zero, Value.number_pos_iff]
    exact ⟨rfl, hpos⟩

end Binary32

end OneBit.Ieee
