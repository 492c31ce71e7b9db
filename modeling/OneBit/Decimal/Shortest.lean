import OneBit.Ieee.Format

/-!
# The fewest digits that read back

The reals that round to a finite number of a format form an interval around it, ends included
exactly when its significand is even. `shortest` looks for the coarsest power of ten with a multiple
inside the interval and takes the multiple nearest to the number; the `Tie` says what happens when
two multiples are equally near.
-/

namespace OneBit.Decimal

open OneBit.Ieee

/-- A positive decimal number, `coefficient · 10 ^ exponent`. -/
structure Digits where
  coefficient : Nat
  exponent : Int
deriving DecidableEq, Repr

/-- Which of two equally near neighbours is taken. -/
inductive Tie
  | toEven
  | upward
deriving DecidableEq, Repr

/-- The reals `v · unit` with `lo ≤ v ≤ hi`, around the number `mid · unit`, where
`unit = num / den`; the ends belong to it when `closed`. -/
structure Interval where
  lo : Nat
  mid : Nat
  hi : Nat
  closed : Bool
  num : Nat
  den : Nat

namespace Interval

/-- The reals that round to `significand · 2 ^ exponent`. Below a power of two the neighbouring
numbers are twice as close. -/
def around (f : Format) (significand : Nat) (exponent : Int) : Interval where
  lo := if significand = f.leadingBit ∧ f.unitExponent < exponent
    then 4 * significand - 1 else 4 * significand - 2
  mid := 4 * significand
  hi := 4 * significand + 2
  closed := significand % 2 = 0
  num := raise (exponent - 2)
  den := raise (2 - exponent)

/-- The same interval measured in units of `10 ^ grid`. -/
def scale (i : Interval) (grid : Int) : Interval :=
  { i with num := i.num * Nat.pow 10 (-grid).toNat, den := i.den * Nat.pow 10 grid.toNat }

/-- The integer `n` lies in the interval. -/
def holds (i : Interval) (n : Nat) : Bool :=
  if i.closed then i.lo * i.num ≤ n * i.den && n * i.den ≤ i.hi * i.num
  else i.lo * i.num < n * i.den && n * i.den < i.hi * i.num

/-- Of the two integers around the middle, the nearest one that lies in the interval. -/
def nearest? (tie : Tie) (i : Interval) : Option Nat :=
  let n := i.mid * i.num / i.den
  let r := i.mid * i.num % i.den
  match i.holds n, i.holds (n + 1) with
  | true, false => some n
  | false, true => some (n + 1)
  | false, false => none
  | true, true =>
    if 2 * r < i.den then some n
    else if i.den < 2 * r then some (n + 1)
    else match tie with
      | .upward => some (n + 1)
      | .toEven => some (n + n % 2)

/-- Tries the powers of ten from `10 ^ grid` downwards. -/
def search (tie : Tie) (i : Interval) : Nat → Int → Digits
  | 0, grid => ⟨(i.scale grid).mid * (i.scale grid).num / (i.scale grid).den, grid⟩
  | steps + 1, grid =>
    match (i.scale grid).nearest? tie with
    | some n => ⟨n, grid⟩
    | none => search tie i steps (grid - 1)

end Interval

/-- The shortest decimal that rounds to `significand · 2 ^ exponent`, for a positive significand.
No power of ten above `grid` fits below the number, and 17 digits always suffice. -/
def shortest (f : Format) (tie : Tie) (significand : Nat) (exponent : Int) : Digits :=
  let grid := ((significand.log2 : Int) + exponent) * 30103 / 100000 + 2
  (Interval.around f significand exponent).search tie 24 grid

end OneBit.Decimal
