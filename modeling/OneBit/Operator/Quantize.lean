import OneBit.Arena
import OneBit.Packing

/-!
# Quantize

Packs a dense tensor to int32 words, one bit per element along the last dimension. `prepare` gives
the output its shape; `eval` writes the words.
-/

namespace OneBit.Quantize

open Ieee

def checkTypes (input output : Tensor) : Except TensorError Unit := do
  if !input.dtype.isBinarizable then throw (.unsupportedType input.dtype)
  if output.dtype ≠ .int32 then throw (.unsupportedType output.dtype)
  if input.rank = 0 ∨ input.rank ≠ output.rank then throw (.rankMismatch input.rank output.rank)

def prepare (layout : Layout) (node : Node) : Step Unit := do
  let (source, target) ← node.unary
  let (input, output) ← Step.inputOutput source target
  checkTypes input output
  let packed ← layout.packedShape input.shape
  Step.replace target (output.resize packed)

/-- The words of a dense tensor seen as `rows` rows. An int8 tensor without parameters has zero
point zero. -/
def words (layout : Layout) (threshold : Binary32) (input : Tensor) (rows cols : Nat) :
    Except TensorError (List UInt32) :=
  match input.data with
  | .float32 values => pack layout (Bit.ofSingle threshold) values rows cols
  | .int8 values =>
    let zeroPoint := (input.quantization.map Quantization.zeroPoint).getD 0
    pack layout (Bit.ofInt8 zeroPoint) values rows cols
  | .bool values => pack layout Bit.ofBool values rows cols
  | .int32 _ => .error (.unsupportedType .int32)

def eval (layout : Layout) (threshold : Binary32) (node : Node) : Step Unit := do
  let (source, target) ← node.unary
  let (input, output) ← Step.inputOutput source target
  checkTypes input output
  let packed ← layout.packedShape input.shape
  if output.shape ≠ packed then throw (.shapeMismatch packed output.shape)
  let (rows, cols) ← input.shape.rowsCols
  let words ← words layout threshold input rows cols
  Step.replace target (← output.write (.int32 (words.map UInt32.toInt32)))

end OneBit.Quantize
