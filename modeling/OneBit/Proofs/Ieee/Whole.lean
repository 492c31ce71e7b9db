import OneBit.Ieee.Binary64
import OneBit.Proofs.Ieee.Rounding

/-!
# Integers that a double holds exactly

Below `2 ^ 53` a natural number fills a double's significand after a shift, so nothing is rounded.

* `Binary64.nearest_mul` : a ratio that is such a number has the pattern of the number;
* `Binary64.exists_value_ofInt` : the value of an integer, with the shift in its exponent;
* `Binary64.toInt?_ofInt` : the integer is got back;
* `Binary64.div_ofInt`, `Binary64.neg_ofInt` : exact quotients, and negation.
-/

namespace OneBit.Ieee

/-! ## Ratios that are whole -/

section Ratios

variable {n den : Nat}

/-- The estimate from the logarithms is the right one or one too high, and is then corrected. -/
theorem floorLog2_mul (hn : 0 < n) (hden : 0 < den) : floorLog2 (n * den) den = n.log2 := by
  have hnlo : 2 ^ n.log2 ≤ n := Nat.log2_self_le hn.ne'
  have hnhi : n < 2 ^ (n.log2 + 1) := Nat.lt_log2_self
  have hlo : n.log2 + den.log2 ≤ (n * den).log2 := by
    refine (Nat.le_log2 (Nat.mul_pos hn hden).ne').2 ?_
    rw [Nat.pow_add]
    exact Nat.mul_le_mul hnlo (Nat.log2_self_le hden.ne')
  have hhi : (n * den).log2 < n.log2 + 1 + (den.log2 + 1) := by
    refine (Nat.log2_lt (Nat.mul_pos hn hden).ne').2 ?_
    rw [Nat.pow_add]
    exact Nat.mul_lt_mul'' hnhi Nat.lt_log2_self
  unfold floorLog2
  obtain h | h : ((n * den).log2 : Int) - den.log2 = n.log2 ∨
      ((n * den).log2 : Int) - den.log2 = (n.log2 + 1 : Nat) := by omega
  · have hle : den * 2 ^ n.log2 ≤ n * den := by
      rw [Nat.mul_comm]
      exact Nat.mul_le_mul_right den hnlo
    simp only [h, raise_natCast, raise_neg_natCast, Nat.mul_one]
    rw [if_neg (Nat.not_lt.2 hle)]
  · have hlt : n * den < den * 2 ^ (n.log2 + 1) := by
      rw [Nat.mul_comm]
      exact Nat.mul_lt_mul_of_pos_left hnhi hden
    simp only [h, raise_natCast, raise_neg_natCast, Nat.mul_one]
    rw [if_pos hlt]
    omega

theorem log2_mul_two_pow (hn : 0 < n) (p : Nat) : (n * 2 ^ p).log2 = n.log2 + p := by
  have hpow := Nat.two_pow_pos p
  refine (Nat.log2_eq_iff (Nat.mul_pos hn hpow).ne').2 ⟨?_, ?_⟩
  · rw [Nat.pow_add]
    exact Nat.mul_le_mul_right _ (Nat.log2_self_le hn.ne')
  · rw [Nat.add_right_comm, Nat.pow_add]
    exact Nat.mul_lt_mul_of_pos_right Nat.lt_log2_self hpow

theorem roundEven_mul (n : Nat) (hden : 0 < den) : roundEven (n * den) den = n := by
  simp [roundEven, Nat.mul_div_cancel n hden, hden]

end Ratios

/-- A bit above a number is added to it. -/
theorem xor_two_pow {m k : Nat} (h : m < 2 ^ k) : m ^^^ 2 ^ k = 2 ^ k + m := by
  have hhigh : (m ^^^ 2 ^ k) / 2 ^ k = 1 := by
    rw [Nat.xor_div_two_pow, Nat.div_eq_of_lt h, Nat.div_self (Nat.two_pow_pos k), Nat.zero_xor]
  have hlow : (m ^^^ 2 ^ k) % 2 ^ k = m := by
    rw [Nat.xor_mod_two_pow, Nat.mod_eq_of_lt h, Nat.mod_self, Nat.xor_zero]
  rw [← Nat.div_add_mod (m ^^^ 2 ^ k) (2 ^ k), hhigh, hlow, Nat.mul_one]

namespace Format

variable (f : Format) {a bits : Nat}

theorem signed_false (a : Nat) : f.signed false a = a := rfl

theorem signed_true (a : Nat) : f.signed true a = f.signWeight + a := rfl

/-- A sign in front of a number. -/
theorem decode_signed (h : a < f.signWeight) {significand : Nat} {exponent : Int}
    (hdecode : f.decode a = .finite false significand exponent) (negative : Bool) :
    f.decode (f.signed negative a) = .finite negative significand exponent := by
  have hmagnitude := f.magnitude_of_lt h
  have hsigned : f.magnitude (f.signed negative a) = a := by
    cases negative with
    | false => exact hmagnitude
    | true => exact (Nat.add_mod_left f.signWeight a).trans hmagnitude
  have hsign : f.isNegative (f.signed negative a) = negative := by
    cases negative with
    | false => exact f.isNegative_of_lt h
    | true => exact decide_eq_true (Nat.le_add_right f.signWeight a)
  unfold decode isNaN at hdecode ⊢
  rw [hmagnitude] at hdecode
  rw [hsigned, hsign]
  dsimp only at hdecode ⊢
  split_ifs at hdecode ⊢
  all_goals
    obtain ⟨-, rfl, rfl⟩ := Value.finite.inj hdecode
    rfl

end Format

namespace Binary64

variable {n den : Nat} {z : Int}

theorem leadingBit_format : format.leadingBit = 2 ^ 52 := rfl

theorem signWeight_format : format.signWeight = 2 ^ 63 := rfl

theorem infinity_format : format.infinity = 2047 * 2 ^ 52 := rfl

theorem unitExponent_format : format.unitExponent = -1074 := rfl

/-! ## Patterns of small numbers -/

/-- How far a number below `2 ^ 53` is shifted to fill the significand. -/
def shift (n : Nat) : Nat :=
  52 - n.log2

theorem log2_add_shift (hn : 0 < n) (h : n < 2 ^ 53) : n.log2 + shift n = 52 := by
  have := (Nat.log2_lt hn.ne').2 h
  unfold shift
  omega

theorem shifted_bounds (hn : 0 < n) (h : n < 2 ^ 53) :
    2 ^ 52 ≤ n * 2 ^ shift n ∧ n * 2 ^ shift n < 2 ^ 53 := by
  have hlog : (n * 2 ^ shift n).log2 = 52 := by
    rw [log2_mul_two_pow hn, log2_add_shift hn h]
  exact (Nat.log2_eq_iff (Nat.mul_pos hn (Nat.two_pow_pos _)).ne').1 hlog

theorem nearest_mul_of_pos (hn : 0 < n) (h : n < 2 ^ 53) (hden : 0 < den) :
    format.nearest (n * den) den = (n.log2 + 1022) * 2 ^ 52 + n * 2 ^ shift n := by
  have hsum := log2_add_shift hn h
  have hfraction : (format.fractionBits : Int) = 52 := rfl
  have hunit : max ((n.log2 : Int) - format.fractionBits) format.unitExponent = -(shift n : Int) := by
    rw [hfraction, unitExponent_format]
    omega
  have hfield : (-(shift n : Int) - format.unitExponent).toNat = n.log2 + 1022 := by
    rw [unitExponent_format]
    omega
  have hbounds := shifted_bounds hn h
  rw [Format.nearest, if_neg (Nat.mul_pos hn hden).ne', floorLog2_mul hn hden]
  simp only [hunit, hfield, neg_neg, raise_natCast, raise_neg_natCast, Nat.mul_one,
    Nat.mul_right_comm n den, roundEven_mul _ hden, infinity_format, leadingBit_format]
  omega

/-- A ratio that is a whole number is rounded as the number is. -/
theorem nearest_mul (h : n < 2 ^ 53) (hden : 0 < den) :
    format.nearest (n * den) den = format.nearest n 1 := by
  rcases Nat.eq_zero_or_pos n with rfl | hn
  · simp only [Format.nearest, Nat.zero_mul, if_true]
  · have hone := nearest_mul_of_pos hn h Nat.one_pos
    rw [Nat.mul_one] at hone
    rw [nearest_mul_of_pos hn h hden, hone]

theorem nearest_lt_signWeight (n : Nat) : format.nearest n 1 < format.signWeight :=
  Nat.lt_of_le_of_lt (format.nearest_le_infinity n 1) format.infinity_lt_signWeight

theorem decode_nearest (hn : 0 < n) (h : n < 2 ^ 53) :
    format.decode (format.nearest n 1) = .finite false (n * 2 ^ shift n) (-(shift n : Int)) := by
  have hpattern := nearest_mul_of_pos hn h Nat.one_pos
  rw [Nat.mul_one] at hpattern
  have hlt := nearest_lt_signWeight n
  have hmagnitude := format.magnitude_of_lt hlt
  have hsign := format.isNegative_of_lt hlt
  have hsum := log2_add_shift hn h
  have hbounds := shifted_bounds hn h
  have hfield : format.nearest n 1 / 2 ^ 52 = n.log2 + 1023 := by omega
  have hfraction : format.nearest n 1 % 2 ^ 52 = n * 2 ^ shift n - 2 ^ 52 := by omega
  have hfinite : format.nearest n 1 < 2047 * 2 ^ 52 := by omega
  have hsignificand : 2 ^ 52 + (n * 2 ^ shift n - 2 ^ 52) = n * 2 ^ shift n := by omega
  have hexponent : (-1074 : Int) + (n.log2 + 1023 : Nat) - 1 = -(shift n : Int) := by omega
  unfold Format.decode Format.isNaN
  simp only [hmagnitude, hsign, leadingBit_format, infinity_format, hfield, hfraction,
    unitExponent_format]
  rw [decide_eq_false (Nat.not_lt.2 hfinite.le), if_neg Bool.false_ne_true, if_neg hfinite.ne,
    if_neg (Nat.succ_ne_zero _), hsignificand, hexponent]

/-! ## Integers as doubles -/

theorem decide_natCast_neg (n : Nat) : decide ((n : Int) < 0) = false :=
  decide_eq_false (Int.not_lt.2 (Int.natCast_nonneg n))

theorem ofInt_eq (z : Int) :
    ofInt z = ofPattern (format.signed (z < 0) (format.nearest z.natAbs 1)) := by
  simp only [ofInt, ofValue, Format.ofValue, Format.encode, neg_zero, raise_zero, Nat.mul_one]

theorem bits_ofInt (z : Int) :
    (ofInt z).bits.toNat = format.signed (z < 0) (format.nearest z.natAbs 1) := by
  have hlt := nearest_lt_signWeight z.natAbs
  have hsigned : format.signed (z < 0) (format.nearest z.natAbs 1) < 2 ^ 64 := by
    rw [signWeight_format] at hlt
    rw [Format.signed, signWeight_format]
    split <;> omega
  rw [ofInt_eq, ofPattern, UInt64.toNat_ofNat', Nat.mod_eq_of_lt hsigned]

/-- An integer is its magnitude, shifted and scaled back. -/
theorem exists_value_ofInt (h : z.natAbs < 2 ^ 53) :
    ∃ p : Nat, (ofInt z).value = .finite (z < 0) (z.natAbs * 2 ^ p) (-(p : Int)) := by
  rcases eq_or_ne z 0 with rfl | hz
  · refine ⟨1074, ?_⟩
    rw [Int.natAbs_zero, Nat.zero_mul]
    rfl
  · refine ⟨shift z.natAbs, ?_⟩
    rw [value, bits_ofInt]
    exact format.decode_signed (nearest_lt_signWeight _)
      (decode_nearest (Int.natAbs_pos.2 hz) h) _

theorem toInt?_ofInt (h : z.natAbs < 2 ^ 53) : (ofInt z).toInt? = some z := by
  obtain ⟨p, hvalue⟩ := exists_value_ofInt h
  have hpow := Nat.two_pow_pos p
  rw [toInt?, hvalue]
  simp only [Value.toInt?, raise_neg_natCast, neg_neg, raise_natCast, Nat.mul_one,
    Nat.mul_mod_left, Nat.mul_div_cancel _ hpow, if_true, decide_eq_true_eq, Option.some.injEq]
  split <;> omega

theorem exists_value_ofInt_natCast (h : n < 2 ^ 53) :
    ∃ p : Nat, (ofInt n).value = .finite false (n * 2 ^ p) (-(p : Int)) := by
  obtain ⟨p, hvalue⟩ := exists_value_ofInt (z := n) h
  rw [decide_natCast_neg] at hvalue
  exact ⟨p, hvalue⟩

theorem ofInt_natCast (n : Nat) : ofInt n = ofPattern (format.nearest n 1) := by
  rw [ofInt_eq, decide_natCast_neg, Format.signed_false, Int.natAbs_natCast]

/-! ## Quotients and signs -/

/-- A quotient brings the scales of its two significands together. -/
theorem pow_mul_raise (p q : Nat) : 2 ^ p * raise (-(p : Int) - -(q : Int)) =
    2 ^ q * raise (-(-(p : Int) - -(q : Int))) := by
  have hexponents : p + (-(p : Int) - -(q : Int)).toNat =
      q + (-(-(p : Int) - -(q : Int))).toNat := by omega
  unfold raise
  show 2 ^ p * 2 ^ _ = 2 ^ q * 2 ^ _
  rw [← Nat.pow_add, ← Nat.pow_add, hexponents]

/-- A quotient of integers that leaves no remainder is not rounded. -/
theorem div_ofInt (hden : 0 < den) (hden53 : den < 2 ^ 53) (h : den * n < 2 ^ 53) :
    (ofInt (den * n : Nat)).div (ofInt den) = ofInt n := by
  obtain ⟨p, hp⟩ := exists_value_ofInt_natCast h
  obtain ⟨q, hq⟩ := exists_value_ofInt_natCast hden53
  have hn : n < 2 ^ 53 := Nat.lt_of_le_of_lt (Nat.le_mul_of_pos_left n hden) h
  have hscaled : 0 < den * 2 ^ q := Nat.mul_pos hden (Nat.two_pow_pos q)
  unfold value at hp hq
  rw [ofInt_natCast n, div, Format.div, hp, hq]
  dsimp only
  rw [if_neg hscaled.ne', Format.encode]
  have hnum : den * n * 2 ^ p * raise (-(p : Int) - -(q : Int)) =
      n * (den * 2 ^ q * raise (-(-(p : Int) - -(q : Int)))) := by
    rw [Nat.mul_assoc (den * n), pow_mul_raise]
    ring
  rw [hnum, nearest_mul hn (Nat.mul_pos hscaled (raise_pos _)), bne_self_eq_false,
    Format.signed_false]

/-- There is no integer for minus zero, so zero is left out. -/
theorem neg_ofInt (hn : 0 < n) : (ofInt n).neg = ofInt (-n) := by
  have hlt := nearest_lt_signWeight n
  have hneg : decide (-(n : Int) < 0) = true := decide_eq_true (by omega)
  rw [signWeight_format] at hlt
  have hbits : (ofInt n).bits ^^^ 0x8000000000000000 = (ofInt (-n)).bits := by
    have hsign : (0x8000000000000000 : UInt64).toNat = 2 ^ 63 := rfl
    refine UInt64.toNat_inj.1 ?_
    rw [UInt64.toNat_xor, bits_ofInt, bits_ofInt, hneg, decide_natCast_neg, Int.natAbs_neg,
      Int.natAbs_natCast, Format.signed_false, Format.signed_true, signWeight_format, hsign,
      xor_two_pow hlt]
  rw [neg, hbits]

end Binary64

end OneBit.Ieee
