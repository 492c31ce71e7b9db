/-!
# Bytes

Little-endian fields, hexadecimal text, and plain text as bytes.
-/

namespace OneBit

abbrev Bytes := List UInt8

namespace Bytes

/-- The `width` low bytes of a number, lowest first. -/
def littleEndian : (width : Nat) → Nat → Bytes
  | 0, _ => []
  | width + 1, n => UInt8.ofNat n :: littleEndian width (n / 256)

/-- The number whose bytes these are, lowest first. -/
def toNat : Bytes → Nat
  | [] => 0
  | b :: bytes => b.toNat + 256 * toNat bytes

/-- Plain text, one byte per character. Characters beyond one byte do not occur in it. -/
def ofText (text : String) : Bytes :=
  text.toList.map fun c => UInt8.ofNat c.toNat

@[simp] theorem length_littleEndian (width n : Nat) : (littleEndian width n).length = width := by
  induction width generalizing n with
  | zero => rfl
  | succ width ih => simp [littleEndian, ih]

theorem toNat_littleEndian (width n : Nat) :
    toNat (littleEndian width n) = n % Nat.pow 256 width := by
  induction width generalizing n with
  | zero => simp [littleEndian, toNat, Nat.mod_one]
  | succ width ih =>
    have h : (UInt8.ofNat n).toNat = n % 256 := by simp
    have p : Nat.pow 256 (width + 1) = 256 * Nat.pow 256 width := Nat.mul_comm _ _
    rw [littleEndian, toNat, ih, h, p, Nat.mod_mul]

theorem ofText_append (a b : String) : ofText (a ++ b) = ofText a ++ ofText b := by
  simp [ofText]

end Bytes

/-- A number in lower-case hexadecimal, with at least `width` digits. -/
def hexadecimal (width n : Nat) : String :=
  let digits := Nat.toDigits 16 n
  String.ofList (List.replicate (width - digits.length) '0' ++ digits)

end OneBit
