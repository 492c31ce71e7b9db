/-!
# Binary interchange formats

A pattern is a sign bit, a biased exponent of `exponentBits` bits and a fraction of
`fractionBits` bits. Everything here is exact arithmetic on natural numbers:

* `Format.decode` : the value a pattern stands for;
* `Format.encode` : the pattern nearest to `± num / den · 2 ^ exponent`, a tie going to the even
  significand, too large a value to infinity and a tiny one to a subnormal or zero;
* `Format.mul`, `Format.div` : decode, compute exactly, encode once;
* `Format.lt` : the order of the values, false whenever one side is not a number.
-/

namespace OneBit.Ieee

/-- The widths of the two fields below the sign bit. -/
structure Format where
  fractionBits : Nat
  exponentBits : Nat

/-- What a pattern stands for. A finite value is `± significand · 2 ^ exponent`. -/
inductive Value
  | nan
  | infinite (negative : Bool)
  | finite (negative : Bool) (significand : Nat) (exponent : Int)
deriving DecidableEq, Repr

/-- The integer nearest to `num / den`, a half going to the even neighbour. -/
def roundEven (num den : Nat) : Nat :=
  let q := num / den
  let r := num % den
  if 2 * r < den then q
  else if den < 2 * r then q + 1
  else q + q % 2

/-- The integer nearest to `num / den`, a half going up. -/
def roundHalfUp (num den : Nat) : Nat :=
  (2 * num + den) / (2 * den)

/-- The factor `2 ^ e` of a numerator, `1` when `e` is negative. -/
def raise (e : Int) : Nat :=
  Nat.pow 2 e.toNat

/-- The exponent of the power of two just at or below `num / den`. -/
def floorLog2 (num den : Nat) : Int :=
  let e : Int := (num.log2 : Int) - (den.log2 : Int)
  if num * raise (-e) < den * raise e then e - 1 else e

namespace Format

/-- The leading bit of a normal significand, which is not stored. -/
def leadingBit (f : Format) : Nat :=
  Nat.pow 2 f.fractionBits

/-- The weight of the sign bit; patterns below it are the magnitudes. -/
def signWeight (f : Format) : Nat :=
  Nat.pow 2 (f.fractionBits + f.exponentBits)

/-- The pattern of positive infinity. -/
def infinity (f : Format) : Nat :=
  (Nat.pow 2 f.exponentBits - 1) * f.leadingBit

/-- The pattern given for every result that is not a number. -/
def quietNaN (f : Format) : Nat :=
  f.infinity + Nat.pow 2 (f.fractionBits - 1)

/-- The exponent of the last place of a subnormal. -/
def unitExponent (f : Format) : Int :=
  2 - (Nat.pow 2 (f.exponentBits - 1) : Int) - f.fractionBits

def isNegative (f : Format) (bits : Nat) : Bool :=
  f.signWeight ≤ bits

/-- The pattern without its sign bit. Among numbers a larger magnitude is a larger pattern. -/
def magnitude (f : Format) (bits : Nat) : Nat :=
  bits % f.signWeight

def isNaN (f : Format) (bits : Nat) : Bool :=
  f.infinity < f.magnitude bits

/-- Puts the sign in front of a magnitude. -/
def signed (f : Format) (negative : Bool) (magnitude : Nat) : Nat :=
  if negative then f.signWeight + magnitude else magnitude

def decode (f : Format) (bits : Nat) : Value :=
  let field := f.magnitude bits / f.leadingBit
  let fraction := f.magnitude bits % f.leadingBit
  if f.isNaN bits then .nan
  else if f.magnitude bits = f.infinity then .infinite (f.isNegative bits)
  else if field = 0 then .finite (f.isNegative bits) fraction f.unitExponent
  else .finite (f.isNegative bits) (f.leadingBit + fraction) (f.unitExponent + field - 1)

/-- The magnitude nearest to `num / den`. The last place has exponent `unit`; a significand that
rounds up to the next power of two carries into the exponent field by itself. -/
def nearest (f : Format) (num den : Nat) : Nat :=
  if num = 0 then 0
  else
    let unit := max (floorLog2 num den - f.fractionBits) f.unitExponent
    let significand := roundEven (num * raise (-unit)) (den * raise unit)
    min f.infinity ((unit - f.unitExponent).toNat * f.leadingBit + significand)

/-- The pattern nearest to `± num / den · 2 ^ exponent`. -/
def encode (f : Format) (negative : Bool) (num den : Nat) (exponent : Int) : Nat :=
  f.signed negative (f.nearest (num * raise exponent) (den * raise (-exponent)))

/-- The value in this format nearest to a value of any format. -/
def ofValue (f : Format) : Value → Nat
  | .nan => f.quietNaN
  | .infinite negative => f.signed negative f.infinity
  | .finite negative significand exponent => f.encode negative significand 1 exponent

def mul (f : Format) (a b : Nat) : Nat :=
  match f.decode a, f.decode b with
  | .nan, _ => f.quietNaN
  | _, .nan => f.quietNaN
  | .infinite s, .infinite t => f.signed (s != t) f.infinity
  | .infinite s, .finite t m _ => if m = 0 then f.quietNaN else f.signed (s != t) f.infinity
  | .finite s m _, .infinite t => if m = 0 then f.quietNaN else f.signed (s != t) f.infinity
  | .finite s m p, .finite t n q => f.encode (s != t) (m * n) 1 (p + q)

def div (f : Format) (a b : Nat) : Nat :=
  match f.decode a, f.decode b with
  | .nan, _ => f.quietNaN
  | _, .nan => f.quietNaN
  | .infinite _, .infinite _ => f.quietNaN
  | .infinite s, .finite t _ _ => f.signed (s != t) f.infinity
  | .finite s _ _, .infinite t => f.signed (s != t) 0
  | .finite s m p, .finite t n q =>
    if n = 0 then if m = 0 then f.quietNaN else f.signed (s != t) f.infinity
    else f.encode (s != t) m n (p - q)

/-- The place of a number in the order: its signed magnitude, so that both zeros are equal. -/
def rank (f : Format) (bits : Nat) : Int :=
  if f.isNegative bits then -(f.magnitude bits : Int) else f.magnitude bits

def lt (f : Format) (a b : Nat) : Bool :=
  !f.isNaN a && !f.isNaN b && f.rank a < f.rank b

end Format

/-- The integer that the value is, if it is one. -/
def Value.toInt? : Value → Option Int
  | .finite negative significand exponent =>
    let num := significand * raise exponent
    let den := raise (-exponent)
    if num % den = 0 then
      some (if negative then -(num / den : Nat) else (num / den : Nat))
    else none
  | _ => none

/-- The nearest integer, halves going away from zero, clamped to `lo … hi`; not a number counts as
zero. -/
def Value.toIntClamped (lo hi : Int) : Value → Int
  | .nan => 0
  | .infinite negative => if negative then lo else hi
  | .finite negative significand exponent =>
    let n : Nat := roundHalfUp (significand * raise exponent) (raise (-exponent))
    max lo (min hi (if negative then -(n : Int) else n))

end OneBit.Ieee
