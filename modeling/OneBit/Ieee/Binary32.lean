import OneBit.Ieee.Format

/-!
# Single precision

`Binary32` is a 32-bit pattern with the order, product and quotient of single precision, each
rounded once to nearest, ties to even.
-/

namespace OneBit.Ieee

/-- A single-precision number, kept as its bit pattern. -/
structure Binary32 where
  bits : UInt32
deriving DecidableEq, Repr, Inhabited

namespace Binary32

def format : Format := ⟨23, 8⟩

def ofPattern (pattern : Nat) : Binary32 := ⟨UInt32.ofNat pattern⟩

def value (x : Binary32) : Value := format.decode x.bits.toNat

/-- The single nearest to a value. -/
def ofValue (v : Value) : Binary32 := ofPattern (format.ofValue v)

def zero : Binary32 := ⟨0x00000000⟩

def one : Binary32 := ⟨0x3F800000⟩

def negOne : Binary32 := ⟨0xBF800000⟩

def isNaN (x : Binary32) : Bool := format.isNaN x.bits.toNat

/-- `x` is less than `y`; false when either is not a number, and between the two zeros. -/
def lt (x y : Binary32) : Bool := format.lt x.bits.toNat y.bits.toNat

def mul (x y : Binary32) : Binary32 := ofPattern (format.mul x.bits.toNat y.bits.toNat)

def div (x y : Binary32) : Binary32 := ofPattern (format.div x.bits.toNat y.bits.toNat)

/-- Neither infinite nor not a number. -/
def isFinite (x : Binary32) : Bool := format.magnitude x.bits.toNat < format.infinity

/-- The nearest 32-bit integer, halves going away from zero and large values to the ends. -/
def toInt32 (x : Binary32) : Int32 :=
  Int32.ofInt (x.value.toIntClamped (-2147483648) 2147483647)

end Binary32

end OneBit.Ieee
