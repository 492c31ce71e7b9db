import OneBit.Json.Value
import OneBit.Ieee.Binary64
import OneBit.Shape

/-!
# The value of a JSON number

An integer that 64 bits hold is kept exactly. Any other number is a double: as many digits as 64
bits hold form an integer, which is rounded and then multiplied or divided by a power of ten, each
step in double precision. Digits beyond that only move the point. A result too large for a double
is an error, and one too small is zero.
-/

namespace OneBit.Json

open Ieee

inductive Number
  | natural (n : Nat)
  | negative (n : Int)
  | double (x : Binary64)
deriving DecidableEq, Repr

/-- Takes in digits as long as 64 bits hold the integer; also gives how many were taken. -/
def absorb (significand : Nat) : List Nat → Nat × Nat
  | [] => (significand, 0)
  | d :: rest =>
    if 10 * significand + d < sizeLimit then
      let (n, taken) := absorb (10 * significand + d) rest
      (n, taken + 1)
    else (significand, 0)

/-- The double nearest to a power of ten. -/
def powerOfTen (e : Nat) : Binary64 :=
  Binary64.ofInt (Nat.pow 10 e)

/-- The largest power of ten among the doubles. -/
def maxPower : Nat := 308

/-- Divides by a power of ten, in several steps when it is too large for one. -/
def divideByPower (x : Binary64) (e : Nat) : Binary64 :=
  if e ≤ maxPower then x.div (powerOfTen e)
  else if x.isZero then x
  else divideByPower (x.div (powerOfTen maxPower)) (e - maxPower)
termination_by e
decreasing_by simp_all [maxPower]; omega

/-- `significand · 10 ^ exponent` as a double. -/
def scaled? (significand : Nat) (exponent : Int) : Option Binary64 :=
  let x := Binary64.ofInt significand
  if exponent < 0 then some (divideByPower x exponent.natAbs)
  else if exponent ≤ maxPower then
    let y := x.mul (powerOfTen exponent.toNat)
    if y.isInfinite then none else some y
  else if x.isZero then some x
  else none

/-- An exponent beyond 32 bits leaves only zero. -/
def maxExponent : Nat := 2147483647

/-- The magnitude of a number that is not a short integer. -/
def magnitude? (significand : Nat) (shift : Int) : Option (Bool × List Nat) → Option Binary64
  | none => scaled? significand shift
  | some (negative, digits) =>
    let e := digits.foldl (fun n d => 10 * n + d) 0
    if maxExponent < e then
      if significand ≠ 0 ∧ !negative then none else some (Binary64.ofInt 0)
    else scaled? significand (if negative then shift - e else shift + e)

/-- The value of a number, if a double can hold it. Minus zero is a double. -/
def Literal.number? (l : Literal) : Option Number :=
  let (n, taken) := absorb 0 l.whole
  let shift := l.whole.length - taken
  if l.fraction = [] ∧ l.exponent = none ∧ shift = 0 then
    if !l.negative then some (.natural n)
    else if 0 < n ∧ n ≤ 0x8000000000000000 then some (.negative (-(n : Int)))
    else some (.double (Binary64.ofInt n).neg)
  else
    let (n, taken) := absorb n l.fraction
    (magnitude? n ((shift : Int) - taken) l.exponent).map fun x =>
      .double (if l.negative then x.neg else x)

namespace Number

def toDouble : Number → Binary64
  | natural n => Binary64.ofInt n
  | negative n => Binary64.ofInt n
  | double x => x

/-- An integer is rounded once; a double is rounded again. -/
def toSingle : Number → Binary32
  | natural n => Binary32.ofValue (.finite false n 0)
  | negative n => Binary32.ofValue (.finite true n.natAbs 0)
  | double x => x.toBinary32

/-- The integer of a number written as one. -/
def toInt? : Number → Option Int
  | natural n => some n
  | negative n => some n
  | double _ => none

end Number

end OneBit.Json
