import OneBit.Ieee.Binary32

/-!
# Reading a decimal number

The numbers a person types: a sign, digits with at most one point, and an exponent, or the words
for infinity and not a number. The result is the single nearest to the number typed, whatever its
length.
-/

namespace OneBit.Decimal

open OneBit.Ieee

/-- The value of a digit. -/
def digit? (c : Char) : Option Nat :=
  if c.isDigit then some (c.toNat - '0'.toNat) else none

/-- The number that a run of digits spells, after the digits already read. -/
def ofDigits (digits : List Char) : Nat :=
  digits.foldl (fun n c => 10 * n + (digit? c).getD 0) 0

/-- Splits off a leading sign; the flag says whether it was a minus. -/
def splitSign : List Char → Bool × List Char
  | '-' :: rest => (true, rest)
  | '+' :: rest => (false, rest)
  | text => (false, text)

/-- A whole number in digits, at least one of them. -/
def nat? (text : List Char) : Option Nat :=
  if text ≠ [] ∧ text.all Char.isDigit then some (ofDigits text) else none

/-- A whole number after an optional plus sign. -/
def unsigned? : List Char → Option Nat
  | '+' :: rest => nat? rest
  | text => nat? text

/-- A whole number after an optional sign. -/
def int? (text : List Char) : Option Int :=
  let (negative, rest) := splitSign text
  (nat? rest).map fun n => if negative then -(n : Int) else n

/-- The exponent after the mantissa: nothing, or `e` and a whole number. -/
def exponent? : List Char → Option Int
  | [] => some 0
  | c :: rest => if c = 'e' ∨ c = 'E' then int? rest else none

/-- The single nearest to `± digits · 10 ^ exponent`. A number of `count` digits lies between
`10 ^ (exponent - 1)` and `10 ^ (exponent + count)`, so beyond the bounds below it is zero or
infinite without being computed. -/
def nearestSingle (negative : Bool) (digits count : Nat) (exponent : Int) : Binary32 :=
  if digits = 0 ∨ exponent + count < -60 then
    Binary32.ofPattern (Binary32.format.signed negative 0)
  else if 60 < exponent then
    Binary32.ofPattern (Binary32.format.signed negative Binary32.format.infinity)
  else
    Binary32.ofPattern (Binary32.format.encode negative
      (digits * Nat.pow 10 exponent.toNat) (Nat.pow 10 (-exponent).toNat) 0)

/-- The single that a text names. -/
def single? (text : List Char) : Option Binary32 :=
  let (negative, rest) := splitSign text
  let word := String.ofList (rest.map Char.toLower)
  if word = "nan" then some (Binary32.ofPattern Binary32.format.quietNaN)
  else if word = "inf" ∨ word = "infinity" then
    some (Binary32.ofPattern (Binary32.format.signed negative Binary32.format.infinity))
  else
    let whole := rest.takeWhile Char.isDigit
    let (fraction, tail) := match rest.dropWhile Char.isDigit with
      | '.' :: more => (more.takeWhile Char.isDigit, more.dropWhile Char.isDigit)
      | more => ([], more)
    if whole = [] ∧ fraction = [] then none
    else (exponent? tail).map fun e =>
      nearestSingle negative (ofDigits (whole ++ fraction)) (whole ++ fraction).length
        (e - fraction.length)

end OneBit.Decimal
