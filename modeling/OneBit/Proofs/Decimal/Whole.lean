import OneBit.Decimal.Style
import OneBit.Proofs.Ieee.Whole

/-!
# Whole numbers are written exactly

Among the reals that round to a whole number there is no other whole number, as long as the last
place is worth one or less. The fewest digits that read back are then its own, without the zeros at
the end.

* `Interval.Isolates` : an interval around a whole number with no other one in it;
* `Interval.Isolates.search_eq` : the digits found in such an interval are those of the number;
* `Style.write_whole` : the number is written as an integer is.
-/

namespace OneBit.Decimal

open Ieee

variable {n : Nat}

namespace Interval

@[simp] theorem num_scale (i : Interval) (grid : Nat) : (i.scale grid).num = i.num := by
  simp [scale]

@[simp] theorem den_scale (i : Interval) (grid : Nat) :
    (i.scale grid).den = i.den * 10 ^ grid := rfl

/-- The interval lies around `n`, and reaches less than one to either side. -/
structure Isolates (i : Interval) (n : Nat) : Prop where
  den_pos : 0 < i.den
  mid : i.mid * i.num = n * i.den
  lo : i.lo * i.num < n * i.den
  hi : n * i.den < i.hi * i.num
  below : n * i.den < i.lo * i.num + i.den
  above : i.hi * i.num < (n + 1) * i.den

/-- A number whose last place is worth `2 ^ -p`. -/
theorem isolates_around (f : Format) (hn : 0 < n) (p : Nat) :
    (around f (n * 2 ^ p) (-(p : Int))).Isolates n := by
  have hnum : raise (-(p : Int) - 2) = 1 := by
    rw [show -(p : Int) - 2 = -((p + 2 : Nat) : Int) by omega, raise_neg_natCast]
  have hden : raise (2 - -(p : Int)) = 4 * 2 ^ p := by
    rw [show 2 - -(p : Int) = ((p + 2 : Nat) : Int) by omega, raise_natCast, Nat.pow_add,
      Nat.mul_comm]
  have hpow := Nat.two_pow_pos p
  have hsignificand : 2 ^ p ≤ n * 2 ^ p := Nat.le_mul_of_pos_left _ hn
  have hscaled : n * (4 * 2 ^ p) = 4 * (n * 2 ^ p) := Nat.mul_left_comm n 4 _
  have hnext : (n + 1) * (4 * 2 ^ p) = 4 * (n * 2 ^ p) + 4 * 2 ^ p := by ring
  unfold around
  simp only [hnum, hden]
  constructor <;> simp only [Nat.mul_one, hscaled, hnext]
  case den_pos => omega
  case hi | above => omega
  all_goals split <;> omega

namespace Isolates

variable {i : Interval} (h : i.Isolates n)
include h

/-- A multiple of a power of ten lies in the interval only if it is the number. -/
theorem holds_scale_iff {grid m : Nat} : (i.scale grid).holds m = true ↔ m * 10 ^ grid = n := by
  have hm : m * (i.den * 10 ^ grid) = m * 10 ^ grid * i.den := by ring
  have hloNum : (i.scale grid).lo * i.num = i.lo * i.num := rfl
  have hhiNum : (i.scale grid).hi * i.num = i.hi * i.num := rfl
  have hlo := h.lo
  have hhi := h.hi
  rw [holds, num_scale, den_scale, hm, hloNum, hhiNum]
  constructor
  · intro hholds
    have hbounds : i.lo * i.num ≤ m * 10 ^ grid * i.den ∧ m * 10 ^ grid * i.den ≤ i.hi * i.num := by
      split at hholds <;> simp only [Bool.and_eq_true, decide_eq_true_eq] at hholds <;> omega
    have hbelow : n * i.den < (m * 10 ^ grid + 1) * i.den := by
      rw [Nat.add_one_mul]
      exact Nat.lt_of_lt_of_le h.below (Nat.add_le_add_right hbounds.1 _)
    have habove := Nat.lt_of_le_of_lt hbounds.2 h.above
    have hle := Nat.lt_of_mul_lt_mul_right hbelow
    have hge := Nat.lt_of_mul_lt_mul_right habove
    omega
  · intro heq
    rw [heq]
    split <;> simp only [Bool.and_eq_true, decide_eq_true_eq] <;> omega

theorem nearest?_scale (tie : Tie) (grid : Nat) : (i.scale grid).nearest? tie =
    if n % 10 ^ grid = 0 then some (n / 10 ^ grid) else none := by
  have hpow : 0 < 10 ^ grid := Nat.pow_pos (by decide)
  have hquotient : (i.scale grid).mid * (i.scale grid).num / (i.scale grid).den =
      n / 10 ^ grid := by
    rw [num_scale, den_scale]
    show i.mid * i.num / _ = _
    rw [h.mid, Nat.mul_comm n, Nat.mul_div_mul_left _ _ h.den_pos]
  have hnext : (i.scale grid).holds (n / 10 ^ grid + 1) = false := by
    rw [← Bool.not_eq_true, h.holds_scale_iff]
    exact (Nat.lt_mul_of_div_lt (Nat.lt_succ_self _) hpow).ne'
  unfold nearest?
  simp only [hquotient, hnext]
  by_cases hdvd : n % 10 ^ grid = 0
  · have hholds := h.holds_scale_iff.2 (Nat.div_mul_cancel (Nat.dvd_of_mod_eq_zero hdvd))
    rw [hholds, if_pos hdvd]
  · have hholds : (i.scale grid).holds (n / 10 ^ grid) = false := by
      rw [← Bool.not_eq_true, h.holds_scale_iff]
      exact fun heq => hdvd (Nat.mod_eq_zero_of_dvd (Dvd.intro_left _ heq))
    rw [hholds, if_neg hdvd]

/-- The search comes down to a power of ten that divides the number. -/
theorem search_eq (tie : Tie) {steps grid : Nat} (hsteps : grid < steps) :
    ∃ c e : Nat, i.search tie steps grid = ⟨c, e⟩ ∧ c * 10 ^ e = n := by
  induction steps generalizing grid with
  | zero => omega
  | succ steps ih =>
    rw [search, h.nearest?_scale]
    by_cases hdvd : n % 10 ^ grid = 0
    · rw [if_pos hdvd]
      exact ⟨_, grid, rfl, Nat.div_mul_cancel (Nat.dvd_of_mod_eq_zero hdvd)⟩
    · rw [if_neg hdvd]
      cases grid with
      | zero => exact absurd (Nat.mod_one n) hdvd
      | succ grid =>
        have hnext : ((grid + 1 : Nat) : Int) - 1 = grid := by omega
        simp only [hnext]
        exact ih (by omega)

end Isolates

end Interval

/-! ## The digits -/

/-- The digits of a whole number are its own, up to zeros at the end. -/
theorem shortest_whole (f : Format) (tie : Tie) (hn : 0 < n) (h : n < 2 ^ 64) (p : Nat) :
    ∃ c e : Nat, shortest f tie (n * 2 ^ p) (-(p : Int)) = ⟨c, e⟩ ∧ c * 10 ^ e = n := by
  have hlog := (Nat.log2_lt hn.ne').2 h
  have hgrid : ((n * 2 ^ p).log2 + -(p : Int)) * 30103 / 100000 + 2 =
      (n.log2 * 30103 / 100000 + 2 : Nat) := by
    rw [log2_mul_two_pow hn]
    omega
  rw [shortest, hgrid]
  exact (Interval.isolates_around f hn p).search_eq tie (by omega)

theorem toDigits_mul_pow {c : Nat} (hc : 0 < c) (e : Nat) :
    Nat.toDigits 10 (c * 10 ^ e) = Nat.toDigits 10 c ++ List.replicate e '0' := by
  induction e with
  | zero => simp
  | succ e ih =>
    have hpos : 0 < c * 10 ^ e := Nat.mul_pos hc (Nat.pow_pos (by decide))
    have hsplit := Nat.toDigits_append_toDigits (b := 10) (by decide) hpos (by decide : 0 < 10)
    rw [ih, Nat.toDigits_zero, List.append_assoc, ← List.replicate_succ'] at hsplit
    rw [hsplit, Nat.pow_succ]
    congr 1
    ring

theorem toString_mul_pow {c : Nat} (hc : 0 < c) (e : Nat) :
    toString (c * 10 ^ e) = toString c ++ zeros e := by
  rw [Nat.toString_eq_ofList_toDigits, Nat.toString_eq_ofList_toDigits, toDigits_mul_pow hc, zeros,
    String.ofList_append]

/-! ## The text -/

/-- A whole number that a style writes without an exponent is written as an integer. -/
theorem Style.write_whole (style : Style) (f : Format) (h : n < 2 ^ 64)
    (hplain : style.isPlain ((toString n).length - 1) = true) (negative : Bool) (p : Nat) :
    style.write f (.finite negative (n * 2 ^ p) (-(p : Int))) =
      (if negative then "-" else "") ++ (toString n ++ if style.keepsPoint then ".0" else "") := by
  rw [write]
  congr 1
  rcases Nat.eq_zero_or_pos n with rfl | hn
  · rw [Nat.zero_mul, writeMagnitude]
    rfl
  · obtain ⟨c, e, hshortest, rfl⟩ := shortest_whole f style.tie hn h p
    have hc : 0 < c := Nat.pos_of_mul_pos_right hn
    have hzeros : (zeros e).length = e := by simp [zeros]
    have hleading : (Digits.mk c e).leadingExponent = (toString (c * 10 ^ e)).length - 1 := by
      rw [toString_mul_pow hc, String.length_append, hzeros]
      show (e : Int) + (toString c).length - 1 = _
      omega
    rw [writeMagnitude, if_neg (Nat.mul_pos hn (Nat.two_pow_pos p)).ne', hshortest]
    simp only [hleading, hplain, if_true]
    rw [Digits.plain, if_pos (Int.natCast_nonneg e), Int.toNat_natCast, ← toString_mul_pow hc]

end OneBit.Decimal
