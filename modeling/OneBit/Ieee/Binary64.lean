import OneBit.Ieee.Binary32

/-!
# Double precision

The numbers of the dense tensor files. Singles widen without loss, and doubles narrow to the
nearest single.
-/

namespace OneBit.Ieee

/-- A double-precision number, kept as its bit pattern. -/
structure Binary64 where
  bits : UInt64
deriving DecidableEq, Repr, Inhabited

namespace Binary64

def format : Format := ⟨52, 11⟩

def ofPattern (pattern : Nat) : Binary64 := ⟨UInt64.ofNat pattern⟩

def value (x : Binary64) : Value := format.decode x.bits.toNat

/-- The double nearest to a value. -/
def ofValue (v : Value) : Binary64 := ofPattern (format.ofValue v)

/-- The double nearest to an integer. -/
def ofInt (n : Int) : Binary64 := ofValue (.finite (n < 0) n.natAbs 0)

/-- Every single is a double. -/
def ofBinary32 (x : Binary32) : Binary64 := ofValue x.value

/-- The single nearest to the double. -/
def toBinary32 (x : Binary64) : Binary32 := Binary32.ofValue x.value

def mul (x y : Binary64) : Binary64 := ofPattern (format.mul x.bits.toNat y.bits.toNat)

def div (x y : Binary64) : Binary64 := ofPattern (format.div x.bits.toNat y.bits.toNat)

/-- The same number with the other sign. -/
def neg (x : Binary64) : Binary64 := ⟨x.bits ^^^ 0x8000000000000000⟩

def isZero (x : Binary64) : Bool := format.magnitude x.bits.toNat = 0

def isInfinite (x : Binary64) : Bool := format.magnitude x.bits.toNat = format.infinity

/-- The integer that `x` is, if it is one. -/
def toInt? (x : Binary64) : Option Int := x.value.toInt?

end Binary64

end OneBit.Ieee
