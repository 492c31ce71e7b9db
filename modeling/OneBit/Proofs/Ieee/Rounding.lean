import Mathlib.Data.Int.ConditionallyCompleteOrder
import Mathlib.Data.Rat.Floor
import Mathlib.Tactic.FieldSimp
import OneBit.Proofs.Ieee.Order

/-!
# Rounding to integers, and quotients of positive numbers

* `roundAway` : the integer nearest to a number, halves going away from zero;
* `Value.RoundsTo` : the integer that a value rounds to, infinity staying infinite;
* `Value.toIntClamped_eq` : a clamped conversion is this integer, clamped;
* `Binary32.exists_roundsTo_div` : a quotient of positive singles is a number or infinite, and rounds
  to nothing below zero.
-/

namespace OneBit.Ieee

/-! ## The nearest integer -/

/-- The integer nearest to a number, halves going away from zero. -/
def roundAway (x : ℚ) : ℤ :=
  if 0 ≤ x then ⌊x + 1 / 2⌋ else -⌊-x + 1 / 2⌋

theorem roundAway_of_nonneg {x : ℚ} (h : 0 ≤ x) : roundAway x = ⌊x + 1 / 2⌋ :=
  if_pos h

theorem roundAway_nonneg {x : ℚ} (h : 0 ≤ x) : 0 ≤ roundAway x := by
  rw [roundAway_of_nonneg h, Int.floor_nonneg]
  linarith

theorem roundAway_neg {x : ℚ} (h : 0 ≤ x) : roundAway (-x) = -roundAway x := by
  rcases h.eq_or_lt with rfl | hpos
  · norm_num [roundAway]
  · rw [roundAway, if_neg (by linarith), neg_neg, roundAway_of_nonneg h]

theorem roundHalfUp_eq_floor {num den : Nat} (h : 0 < den) :
    (roundHalfUp num den : ℤ) = ⌊(num : ℚ) / den + 1 / 2⌋ := by
  have hden : (den : ℚ) ≠ 0 := Nat.cast_ne_zero.2 h.ne'
  have hsum : (num : ℚ) / den + 1 / 2 = ((2 * num + den : ℕ) : ℚ) / ((2 * den : ℕ) : ℚ) := by
    push_cast
    field_simp
  rw [hsum, Rat.floor_natCast_div_natCast, roundHalfUp, Int.natCast_div]

theorem raise_pos (e : Int) : 0 < raise e :=
  Nat.two_pow_pos e.toNat

theorem raise_zero : raise 0 = 1 := rfl

theorem raise_natCast (n : Nat) : raise (n : Int) = 2 ^ n := rfl

theorem raise_neg_natCast (n : Nat) : raise (-(n : Int)) = 1 := by
  rw [raise, Int.toNat_neg_natCast]

theorem raise_div_raise (e : Int) : (raise e : ℚ) / raise (-e) = 2 ^ e := by
  obtain ⟨n, rfl | rfl⟩ := e.eq_nat_or_neg
  · rw [raise_natCast, raise_neg_natCast, zpow_natCast]
    simp
  · rw [neg_neg, raise_natCast, raise_neg_natCast, zpow_neg, zpow_natCast]
    simp

namespace Value

theorem number_nonneg (significand : Nat) (exponent : Int) :
    0 ≤ number false significand exponent :=
  mul_nonneg (Nat.cast_nonneg _) (zpow_pos two_pos _).le

theorem number_true (significand : Nat) (exponent : Int) :
    number true significand exponent = -number false significand exponent :=
  neg_mul _ _

theorem roundHalfUp_eq_roundAway (significand : Nat) (exponent : Int) :
    (roundHalfUp (significand * raise exponent) (raise (-exponent)) : ℤ) =
      roundAway (number false significand exponent) := by
  have hnumber : ((significand * raise exponent : ℕ) : ℚ) / raise (-exponent) =
      number false significand exponent := by
    rw [Nat.cast_mul, mul_div_assoc, raise_div_raise]
    rfl
  rw [roundHalfUp_eq_floor (raise_pos _), hnumber, roundAway_of_nonneg (number_nonneg _ _)]

/-- The integer that a value rounds to, halves going away from zero; infinity stays infinite. -/
def RoundsTo : Value → WithTop ℤ → Prop
  | .finite negative significand exponent, n => n = roundAway (number negative significand exponent)
  | .infinite negative, n => negative = false ∧ n = ⊤
  | .nan, _ => False

/-- Clamping takes no notice of how far beyond its bounds a value is. -/
theorem toIntClamped_eq {v : Value} {n : WithTop ℤ} (h : v.RoundsTo n) (lo hi : Int) :
    (∀ k : ℤ, n = k → v.toIntClamped lo hi = max lo (min hi k)) ∧
      (n = ⊤ → v.toIntClamped lo hi = hi) := by
  cases v with
  | nan => exact h.elim
  | infinite negative =>
    obtain ⟨rfl, rfl⟩ := h
    exact ⟨fun k hk => (WithTop.top_ne_coe hk).elim, fun _ => rfl⟩
  | finite negative significand exponent =>
    obtain rfl : n = _ := h
    refine ⟨fun k hk => ?_, fun hk => (WithTop.coe_ne_top hk).elim⟩
    obtain rfl := WithTop.coe_inj.1 hk
    rw [toIntClamped]
    cases negative with
    | false => rw [← roundHalfUp_eq_roundAway]; rfl
    | true =>
      rw [number_true, roundAway_neg (number_nonneg _ _), ← roundHalfUp_eq_roundAway]
      rfl

end Value

/-! ## Quotients -/

namespace Format

variable (f : Format) {a b bits : Nat}

theorem infinity_lt_signWeight : f.infinity < f.signWeight := by
  have hweight : f.signWeight = 2 ^ f.exponentBits * f.leadingBit := by
    show 2 ^ (f.fractionBits + f.exponentBits) = 2 ^ f.exponentBits * 2 ^ f.fractionBits
    rw [Nat.pow_add, Nat.mul_comm]
  rw [hweight]
  refine Nat.mul_lt_mul_of_pos_right ?_ f.leadingBit_pos
  exact Nat.sub_lt (Nat.two_pow_pos _) Nat.one_pos

theorem magnitude_of_lt (h : bits < f.signWeight) : f.magnitude bits = bits :=
  Nat.mod_eq_of_lt h

theorem isNegative_of_lt (h : bits < f.signWeight) : f.isNegative bits = false :=
  decide_eq_false (Nat.not_le.2 h)

/-- Patterns up to infinity stand for the values without a sign. -/
theorem decode_of_le_infinity (h : bits ≤ f.infinity) :
    (∃ significand exponent, f.decode bits = .finite false significand exponent) ∨
      f.decode bits = .infinite false := by
  have hlt := Nat.lt_of_le_of_lt h f.infinity_lt_signWeight
  have hmagnitude := f.magnitude_of_lt hlt
  have hsign := f.isNegative_of_lt hlt
  rcases h.lt_or_eq with hfinite | hinfinite
  · obtain ⟨significand, exponent, hdecode, -⟩ := f.decode_of_lt (hmagnitude.trans_lt hfinite)
    rw [hsign] at hdecode
    exact .inl ⟨significand, exponent, hdecode⟩
  · right
    rw [f.decode_eq_infinite (hmagnitude.trans hinfinite), hsign]

theorem nearest_le_infinity (num den : Nat) : f.nearest num den ≤ f.infinity := by
  unfold nearest
  split
  · exact Nat.zero_le _
  · exact Nat.min_le_left _ _

theorem div_le_infinity {m n : Nat} {p q : Int} (ha : f.decode a = .finite false m p)
    (hb : f.decode b = .finite false n q) (hn : 0 < n) : f.div a b ≤ f.infinity := by
  rw [div, ha, hb]
  dsimp only
  rw [if_neg hn.ne']
  exact f.nearest_le_infinity _ _

end Format

namespace Binary32

/-- A quotient of positive singles is a number or infinite, and not negative. -/
theorem exists_roundsTo_div {x y : Binary32} {m n : Nat} {p q : Int}
    (hx : x.value = .finite false m p) (hy : y.value = .finite false n q) (hn : 0 < n) :
    ∃ steps : WithTop ℤ, 0 ≤ steps ∧ (x.div y).value.RoundsTo steps := by
  have hle := format.div_le_infinity hx hy hn
  have hword : format.div x.bits.toNat y.bits.toNat < 4294967296 :=
    Nat.lt_of_le_of_lt hle (by decide)
  have hvalue : (x.div y).value = format.decode (format.div x.bits.toNat y.bits.toNat) := by
    rw [div, ofPattern, value, UInt32.toNat_ofNat', Nat.mod_eq_of_lt hword]
  rw [hvalue]
  obtain ⟨significand, exponent, hdecode⟩ | hdecode := format.decode_of_le_infinity hle
  · refine ⟨roundAway (Value.number false significand exponent), ?_, ?_⟩
    · exact_mod_cast roundAway_nonneg (Value.number_nonneg significand exponent)
    · rw [hdecode]
      rfl
  · exact ⟨⊤, le_top, by rw [hdecode]; exact ⟨rfl, rfl⟩⟩

end Binary32

end OneBit.Ieee
