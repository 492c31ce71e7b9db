import Mathlib.Data.Nat.Bitwise
import OneBit.Crc64
import OneBit.Proofs.Container.Reader

/-!
# What the checksum notices

Dividing out a bit is linear in exclusive or, and nothing is lost: the top bit of the remainder tells
whether the polynomial was taken off. So bytes that come later cannot hide a difference, and eight bytes
are as many as the remainder has room for side by side.

* `Crc64.shift_xor`, `Crc64.shift_injective` : the one-bit step;
* `Crc64.foldl_step_eq` : up to eight bytes enter the remainder as one number;
* `Crc64.checksum_eq_iff` : messages that differ in eight consecutive bytes at most have the same
  checksum only if they are equal.
-/

namespace OneBit.Crc64

/-! ## One bit -/

theorem and_one_eq_one_iff (r : UInt64) : r &&& 1 = 1 ↔ r.toNat.testBit 0 = true := by
  rw [Nat.testBit_zero, ← Nat.and_one_is_mod, decide_eq_true_iff, ← UInt64.toNat_inj,
    UInt64.toNat_and]
  rfl

theorem testBit_shift (r : UInt64) (i : Nat) :
    (shift r).toNat.testBit i =
      ((r.toNat.testBit 0 && polynomial.toNat.testBit i) ^^ r.toNat.testBit (i + 1)) := by
  have hright : (r >>> 1).toNat.testBit i = r.toNat.testBit (i + 1) := by
    rw [UInt64.toNat_shiftRight, Nat.testBit_shiftRight, Nat.add_comm]
    rfl
  unfold shift
  by_cases hlow : r.toNat.testBit 0 = true
  · rw [if_pos ((and_one_eq_one_iff r).2 hlow), UInt64.toNat_xor, Nat.testBit_xor, hright, hlow,
      Bool.true_and, Bool.xor_comm]
  · rw [if_neg (mt (and_one_eq_one_iff r).1 hlow), hright, Bool.eq_false_iff.2 hlow, Bool.false_and,
      Bool.false_xor]

theorem shift_xor (a b : UInt64) : shift (a ^^^ b) = shift a ^^^ shift b := by
  rw [← UInt64.toNat_inj]
  apply Nat.eq_of_testBit_eq
  intro i
  simp only [UInt64.toNat_xor, Nat.testBit_xor, testBit_shift, Bool.and_xor_distrib_right]
  rw [Bool.xor_assoc, Bool.xor_assoc, Bool.xor_left_comm (b.toNat.testBit 0 && _)]

theorem shift_injective : Function.Injective shift := by
  intro a b h
  have hbits : ∀ i, (shift a).toNat.testBit i = (shift b).toNat.testBit i := fun i => by rw [h]
  simp only [testBit_shift] at hbits
  have hhigh : ∀ r : UInt64, r.toNat.testBit 64 = false := fun r =>
    Nat.testBit_lt_two_pow r.toNat_lt
  have hpoly : polynomial.toNat.testBit 63 = true := by decide
  -- The top bit shows whether the polynomial was taken off, which depends on the bit divided out.
  have hlow : a.toNat.testBit 0 = b.toNat.testBit 0 := by
    have htop := hbits 63
    simpa only [hpoly, hhigh, Bool.and_true, Bool.xor_false] using htop
  rw [← UInt64.toNat_inj]
  apply Nat.eq_of_testBit_eq
  intro i
  cases i with
  | zero => exact hlow
  | succ i =>
    have hbit := hbits i
    rw [hlow] at hbit
    simpa using hbit

/-! ## Several bits -/

theorem repeat_shift_xor (n : Nat) (a b : UInt64) :
    Nat.repeat shift n (a ^^^ b) = Nat.repeat shift n a ^^^ Nat.repeat shift n b := by
  induction n with
  | zero => rfl
  | succ n ih => rw [Nat.repeat, ih, shift_xor]; rfl

theorem repeat_shift_injective (n : Nat) : Function.Injective (Nat.repeat shift n) := by
  induction n with
  | zero => exact fun _ _ h => h
  | succ n ih => exact fun _ _ h => ih (shift_injective h)

theorem repeat_shift_add (m n : Nat) (a : UInt64) :
    Nat.repeat shift m (Nat.repeat shift n a) = Nat.repeat shift (n + m) a := by
  induction m with
  | zero => rfl
  | succ m ih => rw [Nat.repeat, ih]; rfl

/-- An even remainder only moves to the right. -/
theorem shift_double {n : Nat} (h : 2 * n < 2 ^ 64) :
    shift (UInt64.ofNat (2 * n)) = UInt64.ofNat n := by
  have heven : (UInt64.ofNat (2 * n)).toNat = 2 * n := UInt64.toNat_ofNat_of_lt' h
  have hlow : ¬(UInt64.ofNat (2 * n) &&& 1 = 1) := by
    rw [and_one_eq_one_iff, heven, Nat.testBit_zero]
    simp
  rw [shift, if_neg hlow, ← UInt64.toNat_inj, UInt64.toNat_shiftRight, heven,
    UInt64.toNat_ofNat_of_lt' (by omega : n < 2 ^ 64)]
  show (2 * n) >>> 1 = n
  rw [Nat.shiftRight_one]
  omega

theorem repeat_shift_mul {n k : Nat} (h : 2 ^ k * n < 2 ^ 64) :
    Nat.repeat shift k (UInt64.ofNat (2 ^ k * n)) = UInt64.ofNat n := by
  induction k generalizing n with
  | zero => rw [Nat.pow_zero, Nat.one_mul]; rfl
  | succ k ih =>
    have hpow : 2 ^ (k + 1) * n = 2 ^ k * (2 * n) := by rw [Nat.pow_succ, Nat.mul_assoc]
    have hdouble : 2 * n ≤ 2 ^ k * (2 * n) := Nat.le_mul_of_pos_left _ (Nat.two_pow_pos k)
    rw [hpow] at h ⊢
    rw [Nat.repeat, ih h, shift_double (Nat.lt_of_le_of_lt hdouble h)]

/-! ## Bytes -/

theorem step_eq (r : UInt64) (byte : UInt8) :
    step r byte = Nat.repeat shift 8 (r ^^^ UInt64.ofNat byte.toNat) := by
  rw [step, UInt64.ofNat_uInt8ToNat]

/-- A byte and what is a whole number of bytes higher do not overlap. -/
theorem ofNat_xor_ofNat {b n : Nat} (hb : b < 256) (h : b + 256 * n < 2 ^ 64) :
    UInt64.ofNat b ^^^ UInt64.ofNat (256 * n) = UInt64.ofNat (b + 256 * n) := by
  rw [← UInt64.toNat_inj, UInt64.toNat_xor, UInt64.toNat_ofNat_of_lt' (by omega : b < 2 ^ 64),
    UInt64.toNat_ofNat_of_lt' (by omega : 256 * n < 2 ^ 64), UInt64.toNat_ofNat_of_lt' h]
  apply Nat.eq_of_testBit_eq
  intro i
  have hsum : b + 256 * n = 2 ^ 8 * n + b := Nat.add_comm ..
  have hmul : 256 * n = 2 ^ 8 * n := rfl
  rw [Nat.testBit_xor, hsum, hmul, Nat.testBit_two_pow_mul_add n (by simpa using hb),
    Nat.testBit_two_pow_mul]
  by_cases hi : i < 8
  · rw [if_pos hi, decide_eq_false (by omega), Bool.false_and, Bool.xor_false]
  · have hpow : (2 : Nat) ^ 8 ≤ 2 ^ i := Nat.pow_le_pow_right (by decide) (by omega)
    rw [if_neg hi, decide_eq_true (by omega), Bool.true_and,
      Nat.testBit_lt_two_pow (Nat.lt_of_lt_of_le hb hpow), Bool.false_xor]

/-- Up to eight bytes enter the remainder side by side, and are divided out together. -/
theorem foldl_step_eq (r : UInt64) {bytes : Bytes} (h : bytes.length ≤ 8) :
    bytes.foldl step r =
      Nat.repeat shift (8 * bytes.length) (r ^^^ UInt64.ofNat (Bytes.toNat bytes)) := by
  induction bytes generalizing r with
  | nil => show r = r ^^^ 0; simp
  | cons b bytes ih =>
    have hlength : bytes.length ≤ 7 := Nat.le_of_succ_le_succ h
    have hbyte := b.toNat_lt
    have hrest : Bytes.toNat bytes < 256 ^ 7 :=
      Nat.lt_of_lt_of_le (Bytes.toNat_lt bytes) (Nat.pow_le_pow_right (by decide) hlength)
    -- What is left of the number waits eight bits higher until the byte is divided out.
    have hwait : UInt64.ofNat (Bytes.toNat bytes) =
        Nat.repeat shift 8 (UInt64.ofNat (256 * Bytes.toNat bytes)) :=
      (repeat_shift_mul (k := 8) (by omega)).symm
    rw [List.foldl_cons, ih _ (by omega), step_eq, hwait, ← repeat_shift_xor, repeat_shift_add,
      UInt64.xor_assoc, ofNat_xor_ofNat hbyte (by omega), Bytes.toNat, List.length_cons]
    congr 1
    omega

theorem foldl_step_injective (bytes : Bytes) : Function.Injective fun r => bytes.foldl step r := by
  induction bytes with
  | nil => exact fun _ _ h => h
  | cons b bytes ih =>
    intro r s h
    have hstep : step r b = step s b := ih h
    exact (UInt64.xor_left_inj _).1 (repeat_shift_injective 8 hstep)

/-- Eight bytes or fewer can be told apart by the checksum, whatever stands around them. -/
theorem checksum_append_eq_iff (front back : Bytes) {a b : Bytes} (hlength : a.length = b.length)
    (h : a.length ≤ 8) :
    checksum (front ++ a ++ back) = checksum (front ++ b ++ back) ↔ a = b := by
  refine ⟨fun heq => ?_, fun heq => by rw [heq]⟩
  simp only [checksum, List.foldl_append] at heq
  have hwindow := foldl_step_injective back ((UInt64.xor_left_inj _).1 heq)
  have h' : b.length ≤ 8 := hlength ▸ h
  simp only [foldl_step_eq _ h, foldl_step_eq _ h', hlength] at hwindow
  have hnumber := (UInt64.xor_right_inj _).1 (repeat_shift_injective _ hwindow)
  have hbound : ∀ {bytes : Bytes}, bytes.length ≤ 8 → Bytes.toNat bytes < 256 ^ 8 := fun hlen =>
    Nat.lt_of_lt_of_le (Bytes.toNat_lt _) (Nat.pow_le_pow_right (by decide) hlen)
  rw [← UInt64.toNat_inj, UInt64.toNat_ofNat_of_lt' (hbound h),
    UInt64.toNat_ofNat_of_lt' (hbound h')] at hnumber
  rw [← a.littleEndian_toNat, ← b.littleEndian_toNat, hlength, hnumber]

/-! ## Bytes changed in place -/

/-- Bytes that are changed in eight consecutive places at most have the same checksum only if they are
not changed at all. -/
theorem checksum_eq_iff {before after : Bytes} {start : Nat} (hlength : after.length = before.length)
    (hsame : ∀ i, after[i]? ≠ before[i]? → start ≤ i ∧ i < start + 8) :
    checksum after = checksum before ↔ after = before := by
  have hfront : after.take start = before.take start := by
    apply List.ext_getElem?
    intro i
    rw [List.getElem?_take, List.getElem?_take]
    split
    · by_contra hne
      have := hsame i hne
      omega
    · rfl
  have hback : (after.drop start).drop 8 = (before.drop start).drop 8 := by
    apply List.ext_getElem?
    intro i
    rw [List.drop_drop, List.drop_drop, List.getElem?_drop, List.getElem?_drop]
    by_contra hne
    have := hsame _ hne
    omega
  have hsplit : ∀ bytes : Bytes, bytes =
      bytes.take start ++ (bytes.drop start).take 8 ++ (bytes.drop start).drop 8 := fun bytes => by
    rw [List.append_assoc, List.take_append_drop, List.take_append_drop]
  have hwindow : ((after.drop start).take 8).length = ((before.drop start).take 8).length := by
    simp [hlength]
  refine ⟨fun heq => ?_, fun heq => by rw [heq]⟩
  rw [hsplit after, hsplit before, hfront, hback,
    checksum_append_eq_iff _ _ hwindow (List.length_take_le ..)] at heq
  rw [hsplit after, hsplit before, hfront, hback, heq]

end OneBit.Crc64
