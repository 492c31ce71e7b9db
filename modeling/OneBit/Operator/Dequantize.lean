import OneBit.Arena
import OneBit.Packing

/-!
# Dequantize

Reconstructs a dense tensor from int32 words. The output keeps the shape it has: that shape must
pack to the shape of the input.
-/

namespace OneBit.Dequantize

def check (layout : Layout) (input output : Tensor) : Except TensorError Unit := do
  if input.dtype ≠ .int32 then throw (.unsupportedType input.dtype)
  if !output.dtype.isBinarizable then throw (.unsupportedType output.dtype)
  layout.checkUnpacked input.shape output.shape

def prepare (layout : Layout) (node : Node) : Step Unit := do
  let (source, target) ← node.unary
  let (input, output) ← Step.inputOutput source target
  check layout input output

def eval (layout : Layout) (node : Node) : Step Unit := do
  let (source, target) ← node.unary
  let (input, output) ← Step.inputOutput source target
  check layout input output
  let (rows, cols) ← output.shape.rowsCols
  let words := (← input.int32s).map Int32.toUInt32
  match output.data with
  | .float32 values =>
    Step.fillBuffer (unpackInto layout Levels.float32 words rows cols) values fun values =>
      Step.replace target { output with data := .float32 values }
  | .int8 values =>
    let some quantization := output.quantization | throw (.missingQuantization .int8)
    let levels ← Levels.int8 quantization
    Step.fillBuffer (unpackInto layout levels words rows cols) values fun values =>
      Step.replace target { output with data := .int8 values }
  | .bool values =>
    Step.fillBuffer (unpackInto layout Levels.bool words rows cols) values fun values =>
      Step.replace target { output with data := .bool values }
  | .int32 _ => throw (.unsupportedType .int32)

end OneBit.Dequantize
