/-!
# Shapes

A shape lists the dimensions of a tensor, the last one varying fastest. Sizes are 64-bit. What becomes
of a product that does not fit depends on what it is for:

* it is refused, where it is checked (`checkedMul?`);
* it wraps around, where it is the product of dimensions (`Shape.flatSize`). A program that stops at
  an overflow has no tensor for which this is not the product itself;
* it stops the call, where it is the size of a new buffer (`roomFor`);
* it differs from the length of every list, where rows and segments are counted (`segmentProduct`).
-/

namespace OneBit

abbrev Shape := List Nat

/-- The number of values a 64-bit size can take. -/
def sizeLimit : Nat := 0x10000000000000000

/-- The product of two sizes, if it is a size again. -/
def checkedMul? (a b : Nat) : Option Nat :=
  if a * b < sizeLimit then some (a * b) else none

namespace Shape

/-- The product of all dimensions in 64 bits, one for a scalar. -/
def flatSize (shape : Shape) : Nat :=
  shape.foldl (fun n d => n * d % sizeLimit) 1

/-- The shape in brackets, as reports and messages show it. -/
def describe (shape : Shape) : String :=
  "[" ++ String.intercalate ", " (shape.map toString) ++ "]"

end Shape

end OneBit
