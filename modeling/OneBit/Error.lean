import OneBit.DType
import OneBit.Shape
import OneBit.Decimal.Style
import OneBit.Ieee.Binary32

/-!
# What can go wrong with a tensor

One constructor per cause, with the values that the message shows.
-/

namespace OneBit

open Ieee

/-- One end of a node. -/
inductive Side
  | inputs
  | outputs
deriving DecidableEq, Repr

def Side.name : Side → String
  | inputs => "inputs"
  | outputs => "outputs"

/-- Why a codec call or an operator was refused. -/
inductive TensorError
  | shapeMismatch (expected found : Shape)
  | rankMismatch (expected found : Nat)
  | unsupportedType (dtype : DType)
  | arity (side : Side) (expected found : Nat)
  | bufferSize (expected found : Nat)
  | overflow
  | invalidWordWidth (bits : Nat)
  | invalidScale (scale : Binary32)
  | missingQuantization (dtype : DType)
  | segmentIdOutOfRange (id count : Int32)
  | segmentCountShape (found : Shape)
  | negativeSegmentCount (count : Int32)
  | tensorIndex (index : Nat)
  | aliasedTensor (index : Nat)
  /-- Where the program stops: an access beyond the end of a sequence of the given length. To cut a
  sequence into pieces of length zero is to read the first element of an empty one, and a product
  beyond the last 64-bit size is an access beyond all sizes. -/
  | outOfBounds (length index : Nat)
deriving DecidableEq, Repr

/-- A single-precision number inside a message. -/
def Ieee.Binary32.describe (x : Binary32) : String :=
  Decimal.Style.message.write Binary32.format x.value

def TensorError.message : TensorError → String
  | shapeMismatch expected found =>
    "Shape mismatch: expected " ++ expected.describe ++ ", found " ++ found.describe
  | rankMismatch expected found => s!"Rank mismatch: expected {expected}, found {found}"
  | unsupportedType dtype => "Unsupported datatype: " ++ dtype.title
  | arity side expected found =>
    "Wrong number of " ++ side.name ++ s!": expected {expected}, found {found}"
  | bufferSize expected found =>
    s!"Buffer size mismatch: expected {expected} elements, found {found}"
  | overflow => "Element count overflows usize"
  | invalidWordWidth bits => s!"Invalid word width {bits}: must be in 1..=32 and divide 32"
  | invalidScale scale => "Invalid quantization scale: " ++ scale.describe
  | missingQuantization dtype =>
    "Missing quantization parameters for " ++ dtype.title ++ " tensor"
  | segmentIdOutOfRange id count => s!"Segment id {id} out of range for {count} segments"
  | segmentCountShape found =>
    "Invalid segment count tensor: expected a scalar or shape [1], found " ++ found.describe
  | negativeSegmentCount count => s!"Invalid segment count tensor: negative count {count}"
  | tensorIndex index => s!"Tensor index {index} out of range"
  | aliasedTensor index => s!"Tensor {index} is both an input and an output"
  | outOfBounds length index =>
    s!"index out of bounds: the len is {length} but the index is {index}"

end OneBit
