import OneBit.Json.Number
import OneBit.Json.Parser
import OneBit.Proofs.Ieee.Whole

/-!
# Integers in JSON

The digits of an integer as it is printed, and the number that they are read as.

* `digitsOf` : the digits of a natural number, from which `foldl_digitsOf` gets it back;
* `absorb_digitsOf` : a number of 64 bits is taken in with all its digits;
* `Literal.ofInt`, `Literal.ofWhole` : an integer without a point, or with `.0` after it;
* `toInt?_ofInt`, `number?_ofWhole` : an integer and a double, the same number each time.
-/

namespace OneBit.Json

open Ieee

/-! ## The digits of a number -/

/-- The digits of a natural number, the highest first. -/
def digitsOf (n : Nat) : List Nat :=
  (Nat.toDigits 10 n).map fun c => c.toNat - 0x30

theorem digitsOf_ne_nil (n : Nat) : digitsOf n ≠ [] := by
  simp [digitsOf, Nat.toDigits_ne_nil]

theorem foldl_digitsOf (n : Nat) : (digitsOf n).foldl (fun m d => 10 * m + d) 0 = n := by
  have h := Nat.ofDigitChars_ten_toDigits (n := n)
  rwa [Nat.ofDigitChars_eq_foldl, ← List.foldl_map] at h

theorem digitsOf_of_lt {n : Nat} (h : n < 10) : digitsOf n = [n] := by
  have hchar : ∀ d < 10, d.digitChar.toNat - 0x30 = d := by decide
  rw [digitsOf, Nat.toDigits_of_lt_base h, List.map_singleton, hchar n h]

theorem digitsOf_of_le {n : Nat} (h : 10 ≤ n) : digitsOf n = digitsOf (n / 10) ++ [n % 10] := by
  have hlast : digitsOf (n % 10) = [n % 10] := digitsOf_of_lt (Nat.mod_lt n (by decide))
  rw [← hlast]
  simp only [digitsOf]
  rw [Nat.toDigits_of_base_le (by decide) h, List.map_append,
    Nat.toDigits_of_lt_base (Nat.mod_lt n (by decide))]

/-- Only zero starts with a zero. -/
theorem head?_digitsOf {n : Nat} (h : 0 < n) : (digitsOf n).head? ≠ some 0 := by
  induction n using Nat.strongRecOn with
  | _ n ih =>
    by_cases hn : n < 10
    · rw [digitsOf_of_lt hn, List.head?_singleton]
      simp
      omega
    · have hhigh := List.isSome_head?.2 (digitsOf_ne_nil (n / 10))
      rw [digitsOf_of_le (by omega), List.head?_append, Option.or_of_isSome hhigh]
      exact ih (n / 10) (by omega) (by omega)

/-! ## Digits as bytes -/

theorem ofText_toString (n : Nat) :
    Bytes.ofText (toString n) = (Nat.toDigits 10 n).map fun c => UInt8.ofNat c.toNat := by
  rw [Nat.toString_eq_ofList_toDigits, Bytes.ofText, String.toList_ofList]

theorem toNat_of_mem_toDigits {n : Nat} {c : Char} (hc : c ∈ Nat.toDigits 10 n) :
    (UInt8.ofNat c.toNat).toNat = c.toNat ∧ 48 ≤ c.toNat ∧ c.toNat ≤ 57 := by
  have h := Nat.isDigit_of_mem_toDigits (by decide) (by decide) hc
  simp only [Char.isDigit, Bool.and_eq_true, decide_eq_true_eq] at h
  have hlo : 48 ≤ c.toNat := h.1
  have hhi : c.toNat ≤ 57 := h.2
  refine ⟨?_, hlo, hhi⟩
  rw [UInt8.toNat_ofNat']
  omega

theorem isDigit_ofText_toString {n : Nat} : ∀ b ∈ Bytes.ofText (toString n), isDigit b := by
  intro b hb
  rw [ofText_toString] at hb
  obtain ⟨c, hc, rfl⟩ := List.mem_map.1 hb
  obtain ⟨hc, hlo, hhi⟩ := toNat_of_mem_toDigits hc
  simp [isDigit, UInt8.le_iff_toNat_le, hc, hlo, hhi]

theorem map_ofText_toString (n : Nat) :
    ((Bytes.ofText (toString n)).map fun b => b.toNat - 0x30) = digitsOf n := by
  rw [ofText_toString, List.map_map, digitsOf]
  refine List.map_congr_left fun c hc => ?_
  simp [(toNat_of_mem_toDigits hc).1]

theorem exists_cons_ofText_toString (n : Nat) :
    ∃ b bytes, isDigit b ∧ Bytes.ofText (toString n) = b :: bytes := by
  cases h : Bytes.ofText (toString n) with
  | nil =>
    have hdigits := map_ofText_toString n
    rw [h, List.map_nil] at hdigits
    exact absurd hdigits.symm (digitsOf_ne_nil n)
  | cons b bytes => exact ⟨b, bytes, isDigit_ofText_toString b (h ▸ List.mem_cons_self), rfl⟩

theorem toString_int (n : Int) :
    toString n = (if n < 0 then "-" else "") ++ toString n.natAbs := by
  cases n with
  | ofNat n =>
    have hn : ¬Int.ofNat n < 0 := Int.not_lt.2 (Int.natCast_nonneg n)
    rw [if_neg hn, String.empty_append]
    rfl
  | negSucc n =>
    rw [if_pos (Int.negSucc_lt_zero n)]
    rfl

theorem ofText_toString_int (n : Int) : Bytes.ofText (toString n) =
    (if n < 0 then [minus] else []) ++ Bytes.ofText (toString n.natAbs) := by
  rw [toString_int, Bytes.ofText_append]
  split <;> rfl

theorem exists_cons_ofText_toString_int (n : Int) :
    ∃ b bytes, (b = minus ∨ isDigit b) ∧ Bytes.ofText (toString n) = b :: bytes := by
  rw [ofText_toString_int]
  by_cases hn : n < 0
  · exact ⟨minus, _, .inl rfl, by rw [if_pos hn]; rfl⟩
  · obtain ⟨b, bytes, hb, h⟩ := exists_cons_ofText_toString n.natAbs
    exact ⟨b, bytes, .inr hb, by rw [if_neg hn, List.nil_append, h]⟩

/-! ## Taking in digits -/

theorem le_foldl_digits (digits : List Nat) (significand : Nat) :
    significand ≤ digits.foldl (fun m d => 10 * m + d) significand := by
  induction digits generalizing significand with
  | nil => exact Nat.le_refl _
  | cons d rest ih => exact Nat.le_trans (by omega) (ih (10 * significand + d))

theorem absorb_eq {significand : Nat} {digits : List Nat}
    (h : digits.foldl (fun m d => 10 * m + d) significand < sizeLimit) :
    absorb significand digits =
      (digits.foldl (fun m d => 10 * m + d) significand, digits.length) := by
  induction digits generalizing significand with
  | nil => rfl
  | cons d rest ih =>
    have hd : 10 * significand + d < sizeLimit := Nat.lt_of_le_of_lt (le_foldl_digits rest _) h
    rw [absorb, if_pos hd, ih h]
    rfl

theorem absorb_digitsOf {n : Nat} (h : n < sizeLimit) :
    absorb 0 (digitsOf n) = (n, (digitsOf n).length) := by
  rw [absorb_eq (by rwa [foldl_digitsOf]), foldl_digitsOf]

/-! ## Integers -/

/-- An integer as it is printed. -/
def Literal.ofInt (n : Int) : Literal :=
  { negative := n < 0, whole := digitsOf n.natAbs, fraction := [], exponent := none }

/-- An integer with `.0` after it. -/
def Literal.ofWhole (n : Int) : Literal :=
  { Literal.ofInt n with fraction := [0] }

theorem number?_natCast {n : Nat} (h : n < sizeLimit) :
    (Literal.ofInt n).number? = some (.natural n) := by
  simp [Literal.number?, Literal.ofInt, absorb_digitsOf h]

theorem number?_of_neg {n : Int} (hlo : -0x8000000000000000 ≤ n) (hn : n < 0) :
    (Literal.ofInt n).number? = some (.negative n) := by
  have hlt : n.natAbs < sizeLimit := by
    unfold sizeLimit
    omega
  have hpos : 0 < n.natAbs ∧ n.natAbs ≤ 0x8000000000000000 := by omega
  have habs : -(n.natAbs : Int) = n := by omega
  simp only [Literal.number?, Literal.ofInt, absorb_digitsOf hlt, Nat.sub_self, and_self, if_true,
    hn, decide_true, Bool.not_true, Bool.false_eq_true, if_false, if_pos hpos, habs]

/-- An integer of 64 bits is read as itself. -/
theorem toInt?_ofInt {n : Int} (hlo : -0x8000000000000000 ≤ n) (hhi : n < sizeLimit) :
    (Literal.ofInt n).number?.bind Number.toInt? = some n := by
  by_cases hn : n < 0
  · rw [number?_of_neg hlo hn]
    rfl
  · obtain ⟨m, rfl⟩ := Int.eq_ofNat_of_zero_le (Int.not_lt.1 hn)
    rw [number?_natCast (Int.ofNat_lt.1 hhi)]
    rfl

/-! ## Whole numbers with a point -/

theorem absorb_zero {n : Nat} (h : 10 * n < sizeLimit) : absorb n [0] = (10 * n, 1) := by
  simp [absorb, h]

/-- The digits and the zero make one number, which is divided by ten without a remainder. -/
theorem number?_ofWhole {n : Int} (h : 10 * n.natAbs < 2 ^ 53) :
    (Literal.ofWhole n).number? = some (.double (Binary64.ofInt n)) := by
  have hsize : 10 * n.natAbs < sizeLimit := by
    unfold sizeLimit
    omega
  have hten : powerOfTen 1 = Binary64.ofInt (10 : Nat) := rfl
  have hdiv : (Binary64.ofInt (10 * n.natAbs : Nat)).div (powerOfTen 1) = Binary64.ofInt n.natAbs :=
    hten ▸ Binary64.div_ofInt (by decide) (by norm_num) h
  have hread : (Literal.ofWhole n).number? = some (.double
      (if n < 0 then (Binary64.ofInt n.natAbs).neg else Binary64.ofInt n.natAbs)) := by
    have hdigits := absorb_digitsOf (n := n.natAbs) (by omega)
    rw [← hdiv]
    simp [Literal.number?, Literal.ofWhole, Literal.ofInt, hdigits, absorb_zero hsize, magnitude?,
      scaled?, divideByPower, maxPower]
  rw [hread]
  by_cases hn : n < 0
  · have habs : -(n.natAbs : Int) = n := by omega
    rw [if_pos hn, Binary64.neg_ofInt (Int.natAbs_pos.2 hn.ne), habs]
  · have habs : (n.natAbs : Int) = n := by omega
    rw [if_neg hn, habs]

end OneBit.Json
