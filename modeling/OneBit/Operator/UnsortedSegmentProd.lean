import OneBit.Arena
import OneBit.SegmentProduct

/-!
# UnsortedSegmentProd

Products of the rows of `data` by segment id, with the number of segments in a third tensor. When
ids and count are constants and the data is not dynamic, `prepare` can give the output its shape;
otherwise it marks the output dynamic and `eval` does.
-/

namespace OneBit.UnsortedSegmentProd

open Ieee

/-- Whether the shape is that of one number, a scalar or a list of one. -/
def isSingle (count : Tensor) : Except TensorError Bool :=
  if count.rank = 0 then return true
  else if count.rank = 1 then return (← count.dim 0) = 1
  else return false

/-- The number of segments, held by a scalar or by a list of one. -/
def segmentCount (count : Tensor) : Except TensorError Int32 := do
  if !(← isSingle count) then throw (.segmentCountShape count.shape)
  let n ← elementAt (← count.int32s) 0
  if n < 0 then throw (.negativeSegmentCount n)
  return n

/-- The largest id, `-1` when there is none. -/
def maxId : List Int32 → Int32
  | [] => -1
  | id :: ids => ids.foldl max id

/-- The shape of the output: one row per segment. -/
def outputShape (data ids count : Tensor) : Except TensorError Shape := do
  let n ← segmentCount count
  if data.rank = 0 ∨ ids.rank = 0 then throw (.rankMismatch 1 0)
  let rows ← data.dim 0
  if (← ids.dim 0) ≠ rows then throw (.shapeMismatch [rows] ids.shape)
  let largest := maxId (← ids.int32s)
  if n ≤ largest then throw (.segmentIdOutOfRange largest n)
  let (_, rowShape) ← cutAt data.shape 1
  return n.toInt.toNat :: rowShape

def prepare (node : Node) : Step Unit := do
  let ((source, segments, number), target) ← node.ternary
  let data ← Step.tensor source
  let ids ← Step.tensor segments
  let count ← Step.tensor number
  let output ← Step.tensor target
  if data.dtype ≠ .int32 ∧ data.dtype ≠ .float32 then throw (.unsupportedType data.dtype)
  if ids.dtype ≠ .int32 then throw (.unsupportedType ids.dtype)
  if count.dtype ≠ .int32 then throw (.unsupportedType count.dtype)
  if output.dtype ≠ data.dtype then throw (.unsupportedType output.dtype)
  if data.allocation = .dynamic ∨ ids.allocation ≠ .constant ∨ count.allocation ≠ .constant then
    Step.replace target output.setDynamic
  else
    Step.replace target (output.resize (← outputShape data ids count))

/-- The products, computed in a buffer of their own. -/
def products {α : Type} (factor : Factor α) (values : List α) (rowLength : Nat) (ids : List Int32)
    (count : Nat) : Except TensorError (List α) := do
  let room ← roomFor count rowLength
  (segmentProduct factor values rowLength ids count).filled (List.replicate room factor.one)

/-- Gives the output its shape if it has another, and fills it. -/
def writeOutput (target : Nat) (shape : Shape) (values : TensorData) : Step Unit := do
  let output ← Step.tensor target
  if output.shape ≠ shape then Step.replace target (output.resize shape)
  let output ← Step.tensor target
  Step.replace target (← output.fill values)

def eval (node : Node) : Step Unit := do
  let ((source, segments, number), target) ← node.ternary
  let data ← Step.tensor source
  let ids ← Step.tensor segments
  let count ← Step.tensor number
  let output ← Step.tensor target
  if output.dtype ≠ data.dtype then throw (.unsupportedType output.dtype)
  let shape ← outputShape data ids count
  if output.allocation ≠ .dynamic ∧ output.shape ≠ shape then
    throw (.shapeMismatch shape output.shape)
  let n :: _ := shape | throw (.outOfBounds 0 0)
  let _ :: rowShape := data.shape | throw (.outOfBounds 0 1)
  let rowLength := Shape.flatSize rowShape
  match data.data with
  | .int32 values =>
    writeOutput target shape (.int32 (← products .int32 values rowLength (← ids.int32s) n))
  | .float32 values =>
    writeOutput target shape (.float32 (← products .float32 values rowLength (← ids.int32s) n))
  | other => throw (.unsupportedType other.dtype)

end OneBit.UnsortedSegmentProd
