import OneBit.Access

/-!
# Calls that fill a buffer

A call on a buffer may fail; what it did to the buffer before that stays done. Such calls are
`BufferM` programs over the buffer they fill.
-/

namespace OneBit

/-- A call that changes a buffer of `α` and may fail. -/
abbrev BufferM (α : Type) := ExceptT TensorError (StateM (List α))

namespace BufferM

variable {α β : Type}

/-- Runs a call on a buffer: its outcome, and the buffer as the call left it. -/
def on (call : BufferM α β) (buffer : List α) : Except TensorError β × List α :=
  StateT.run (ExceptT.run call) buffer

/-- What a call makes of a buffer. -/
def filled (call : BufferM α Unit) (buffer : List α) : Except TensorError (List α) := do
  let (outcome, buffer) := call.on buffer
  outcome
  return buffer

/-- Goes through the pieces of the buffer beside a sequence and changes them. What is left over of
either when the other ends is left alone. -/
def zipPieces (size : Nat) (f : β → List α → Except TensorError (List α)) (xs : List β) :
    BufferM α Unit := do
  let buffer ← get
  let changed ← zipUpdate f xs (← exactPieces size buffer)
  set (changed.flatten ++ buffer.drop (buffer.length / size * size))

end BufferM

/-- The product of two sizes. -/
def sizeProduct (a b : Nat) : Except TensorError Nat :=
  match checkedMul? a b with
  | some n => .ok n
  | none => .error .overflow

/-- The product of two sizes for a new buffer, where the program stops if it is not a size. -/
def roomFor (a b : Nat) : Except TensorError Nat :=
  match checkedMul? a b with
  | some n => .ok n
  | none => .error (.outOfBounds sizeLimit (a * b))

def expectLength (expected found : Nat) : Except TensorError Unit :=
  if expected = found then .ok () else .error (.bufferSize expected found)

/-- Writes the new values from the start, as many as both lists have; the rest of `old` stays. -/
def overwrite {α : Type} : List α → List α → List α
  | [], _ => []
  | y :: old, [] => y :: old
  | _ :: old, x :: new => x :: overwrite old new

@[simp] theorem length_overwrite {α : Type} (old new : List α) :
    (overwrite old new).length = old.length := by
  fun_induction overwrite old new <;> simp_all

/-- New values for every place leave nothing of the old ones. -/
theorem overwrite_eq_new {α : Type} {old new : List α} (h : old.length = new.length) :
    overwrite old new = new := by
  fun_induction overwrite old new with
  | case1 new => exact (List.length_eq_zero_iff.1 h.symm).symm
  | case2 => simp at h
  | case3 _ _ _ _ ih => simp [ih (by simpa using h)]

end OneBit
