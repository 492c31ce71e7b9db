import OneBit.Decimal.Shortest

/-!
# How a number is written

`Style` holds the decisions a text format makes about numbers, and `Style.write` follows them. The
digits are always the shortest that read back.
-/

namespace OneBit.Decimal

open OneBit.Ieee

/-- The decisions of a text format. The leading exponent of `1.5` is `0`. -/
structure Style where
  /-- Leading exponents written without an exponent mark. -/
  isPlain : Int → Bool
  /-- Whether a plain whole number ends in `.0`. -/
  keepsPoint : Bool
  /-- Which way equally short and equally near digits go. -/
  tie : Tie
  nan : String
  /-- Infinity, after the sign. -/
  infinity : String
  /-- Infinity, with a minus sign. -/
  negativeInfinity : String

def zeros (n : Nat) : String :=
  String.ofList (List.replicate n '0')

namespace Digits

/-- The exponent of the first digit. -/
def leadingExponent (d : Digits) : Int :=
  d.exponent + (toString d.coefficient).length - 1

/-- The number without an exponent mark; a whole number ends in `wholeEnd`. -/
def plain (d : Digits) (wholeEnd : String) : String :=
  let text := toString d.coefficient
  if 0 ≤ d.exponent then text ++ zeros d.exponent.toNat ++ wholeEnd
  else
    let places := (-d.exponent).toNat
    if places < text.length then
      String.ofList (text.toList.take (text.length - places)) ++ "." ++
        String.ofList (text.toList.drop (text.length - places))
    else "0." ++ zeros (places - text.length) ++ text

/-- One digit before the point, the others after it, and an exponent with its sign. -/
def scientific (d : Digits) : String :=
  let e := d.leadingExponent
  let mark := (if e < 0 then "e-" else "e+") ++ toString e.natAbs
  match (toString d.coefficient).toList with
  | [] => mark
  | [c] => String.singleton c ++ mark
  | c :: rest => String.singleton c ++ "." ++ String.ofList rest ++ mark

end Digits

namespace Style

/-- A number without its sign. -/
def writeMagnitude (style : Style) (f : Format) (significand : Nat) (exponent : Int) : String :=
  let wholeEnd := if style.keepsPoint then ".0" else ""
  if significand = 0 then "0" ++ wholeEnd
  else
    let d := shortest f style.tie significand exponent
    if style.isPlain d.leadingExponent then d.plain wholeEnd else d.scientific

/-- The text of a value of format `f`. -/
def write (style : Style) (f : Format) : Value → String
  | .nan => style.nan
  | .infinite negative => if negative then style.negativeInfinity else style.infinity
  | .finite negative significand exponent =>
    (if negative then "-" else "") ++ style.writeMagnitude f significand exponent

/-- Numbers inside messages are never written with an exponent, and whole ones without a point. -/
def message : Style where
  isPlain := fun _ => true
  keepsPoint := false
  tie := .upward
  nan := "NaN"
  infinity := "inf"
  negativeInfinity := "-inf"

end Style

end OneBit.Decimal
