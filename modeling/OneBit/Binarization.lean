import OneBit.Error

/-!
# Values and bits

Numbers below a threshold become bit 1, so negative activations do; `false` becomes bit 1 and
`true` bit 0. The way back gives each bit one value, its level: `1` and `-1` for singles, the same
two on an int8 scale, and `true` and `false`.
-/

namespace OneBit

open Ieee

/-- Affine parameters of an int8 tensor: a stored `q` stands for `(q - zeroPoint) · scale`. -/
structure Quantization where
  scale : Binary32 := Binary32.one
  zeroPoint : Int32 := 0
deriving DecidableEq, Repr

/-! ## From a value to its bit -/

namespace Bit

/-- A single is compared with the threshold; not a number, and `-0` against `0`, are not below. -/
def ofSingle (threshold x : Binary32) : Bool :=
  x.lt threshold

/-- The zero point may lie outside the int8 range. -/
def ofInt8 (zeroPoint : Int32) (x : Int8) : Bool :=
  x.toInt < zeroPoint.toInt

/-- A boolean stored as a byte is false exactly when all its bits are zero. -/
def ofByte (x : UInt8) : Bool :=
  x == 0

def ofBool (x : Bool) : Bool :=
  ofByte x.toUInt8

end Bit

/-! ## From a bit to its value -/

/-- The values that the two bits stand for. -/
structure Levels (α : Type) where
  zero : α
  one : α
deriving DecidableEq, Repr

namespace Levels

def value {α : Type} (levels : Levels α) (bit : Bool) : α :=
  if bit then levels.one else levels.zero

def float32 : Levels Binary32 := ⟨Binary32.one, Binary32.negOne⟩

def bool : Levels Bool := ⟨true, false⟩

/-- The nearest 32-bit integer. -/
def saturate (n : Int) : Int :=
  max (-2147483648) (min 2147483647 n)

/-- The nearest int8. -/
def clampInt8 (n : Int) : Int8 :=
  Int8.ofInt (max (-128) (min 127 n))

/-- How far the levels lie from the zero point: the number of int8 steps in `1`. -/
def offset (scale : Binary32) : Int32 :=
  (Binary32.one.div scale).toInt32

/-- One above and one below zero on the int8 scale, as far as int8 reaches. -/
def int8 (q : Quantization) : Except TensorError (Levels Int8) :=
  if q.scale.isFinite && Binary32.zero.lt q.scale then
    .ok
      { zero := clampInt8 (saturate (q.zeroPoint.toInt + (offset q.scale).toInt))
        one := clampInt8 (saturate (q.zeroPoint.toInt - (offset q.scale).toInt)) }
  else .error (.invalidScale q.scale)

end Levels

end OneBit
