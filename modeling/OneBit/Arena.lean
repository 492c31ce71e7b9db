import OneBit.Tensor

/-!
# Arenas and nodes

An arena is the list of tensors that a program's nodes read and write by index. A `Step` runs
against an arena; when it fails, what it did to the arena before that stays done.
-/

namespace OneBit

abbrev Arena := List Tensor

/-- Two different tensors. The arena is cut at the larger index, so that each part holds one. -/
def Arena.apart (arena : Arena) (input output : Nat) : Except TensorError (Tensor × Tensor) := do
  if arena.length ≤ input then throw (.tensorIndex input)
  if arena.length ≤ output then throw (.tensorIndex output)
  if input = output then throw (.aliasedTensor output)
  if input < output then
    let (low, high) ← cutAt arena output
    return (← elementAt low input, ← elementAt high 0)
  else
    let (low, high) ← cutAt arena input
    return (← elementAt high 0, ← elementAt low output)

/-- A computation on an arena that may fail. -/
abbrev Step := ExceptT TensorError (StateM Arena)

namespace Step

/-- The outcome of a step, and the arena as it left it. -/
def on {α : Type} (step : Step α) (arena : Arena) : Except TensorError α × Arena :=
  StateT.run (ExceptT.run step) arena

/-- The tensor at an index. -/
def tensor (index : Nat) : Step Tensor := do
  match (← get)[index]? with
  | some t => return t
  | none => throw (.tensorIndex index)

/-- Puts a tensor at an index that is in range. -/
def replace (index : Nat) (t : Tensor) : Step Unit :=
  modify (·.set index t)

/-- One tensor to read and a different one to write. -/
def inputOutput (input output : Nat) : Step (Tensor × Tensor) := do
  (← get).apart input output

/-- Runs a call on a buffer and hands on the buffer it left, also when the call failed. -/
def fillBuffer {α : Type} (call : BufferM α Unit) (buffer : List α) (write : List α → Step Unit) :
    Step Unit := do
  let (outcome, buffer) := call.on buffer
  write buffer
  outcome

end Step

/-- The tensors a node reads and writes. -/
structure Node where
  inputs : List Nat
  outputs : List Nat
deriving DecidableEq, Repr

namespace Node

/-- Refuses a node with other numbers of inputs and outputs. -/
def expectArity (node : Node) (inputs outputs : Nat) : Except TensorError Unit := do
  if node.inputs.length ≠ inputs then throw (.arity .inputs inputs node.inputs.length)
  if node.outputs.length ≠ outputs then throw (.arity .outputs outputs node.outputs.length)

/-- The indices of a node with one input and one output. -/
def unary (node : Node) : Except TensorError (Nat × Nat) := do
  node.expectArity 1 1
  return (← elementAt node.inputs 0, ← elementAt node.outputs 0)

/-- The indices of a node with three inputs and one output. -/
def ternary (node : Node) : Except TensorError ((Nat × Nat × Nat) × Nat) := do
  node.expectArity 3 1
  let inputs := (← elementAt node.inputs 0, ← elementAt node.inputs 1, ← elementAt node.inputs 2)
  return (inputs, ← elementAt node.outputs 0)

end Node

end OneBit
