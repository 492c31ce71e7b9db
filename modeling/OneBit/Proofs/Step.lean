import OneBit.Arena
import OneBit.Proofs.Outcome

/-!
# Steps on an arena

What the small steps of the operators do when they succeed. `Node.Connects` says which tensors a node
of one input and one output finds in an arena.
-/

namespace OneBit

/-- Each of two different tensors is in one of the two parts, at the position looked at. -/
theorem Arena.apart_eq_ok {arena : Arena} {i j : Nat} {s t : Tensor} (hi : arena[i]? = some s)
    (hj : arena[j]? = some t) (hne : i ≠ j) : arena.apart i j = .ok (s, t) := by
  have hilt := (List.getElem?_eq_some_iff.1 hi).1
  have hjlt := (List.getElem?_eq_some_iff.1 hj).1
  rw [apart, if_neg (Nat.not_le.2 hilt), if_neg (Nat.not_le.2 hjlt), if_neg hne]
  by_cases hlt : i < j
  · have hlow : elementAt (arena.take j) i = .ok s :=
      elementAt_eq_ok_iff.2 (by rw [List.getElem?_take_of_lt hlt, hi])
    have hhigh : elementAt (arena.drop j) 0 = .ok t :=
      elementAt_eq_ok_iff.2 (by rw [List.getElem?_drop, Nat.add_zero, hj])
    simp only [if_pos hlt, cutAt_eq_ok (Nat.le_of_lt hjlt), hlow, hhigh, ok_bind, pure_eq_ok]
  · have hlow : elementAt (arena.take i) j = .ok t :=
      elementAt_eq_ok_iff.2 (by rw [List.getElem?_take_of_lt (by omega), hj])
    have hhigh : elementAt (arena.drop i) 0 = .ok s :=
      elementAt_eq_ok_iff.2 (by rw [List.getElem?_drop, Nat.add_zero, hi])
    simp only [if_neg hlt, cutAt_eq_ok (Nat.le_of_lt hilt), hlow, hhigh, ok_bind, pure_eq_ok]

namespace Step

variable {α : Type} {arena : Arena} {i j : Nat} {s t : Tensor}

theorem on_eq_runOn (step : Step α) (arena : Arena) : step.on arena = runOn step arena := rfl

@[simp] theorem runOn_replace (i : Nat) (t : Tensor) (arena : Arena) :
    runOn (replace i t) arena = (.ok (), arena.set i t) := rfl

theorem runOn_tensor (h : arena[i]? = some t) : runOn (tensor i) arena = (.ok t, arena) := by
  rw [tensor, runOn_bind_ok (runOn_get arena), h]
  rfl

theorem runOn_inputOutput (hi : arena[i]? = some s) (hj : arena[j]? = some t) (hne : i ≠ j) :
    runOn (inputOutput i j) arena = (.ok (s, t), arena) := by
  rw [inputOutput, runOn_bind_ok (runOn_get arena), runOn_lift, Arena.apart_eq_ok hi hj hne]

/-- A call that succeeds hands on the buffer it left. -/
theorem runOn_fillBuffer {call : BufferM α Unit} {old new : List α} {write : List α → Step Unit}
    (h : runOn call old = (.ok (), new)) :
    runOn (fillBuffer call old write) arena = runOn (write new) arena := by
  rw [fillBuffer, BufferM.on_eq_runOn, h]
  simp only [runOn_bind, runOn_lift]
  split <;> simp_all

end Step

namespace Node

/-- Of a node with the right numbers of inputs and outputs, every index asked for is there. -/
theorem unary_eq (node : Node) : node.unary =
    match node.inputs, node.outputs with
    | [input], [output] => .ok (input, output)
    | [_], outputs => .error (.arity .outputs 1 outputs.length)
    | inputs, _ => .error (.arity .inputs 1 inputs.length) := by
  obtain ⟨inputs, outputs⟩ := node
  rcases inputs with _ | ⟨a, _ | ⟨b, inputs⟩⟩
  · rfl
  · rcases outputs with _ | ⟨o, _ | ⟨p, outputs⟩⟩
    · rfl
    · rfl
    · simp [unary, expectArity]
  · simp [unary, expectArity]

theorem ternary_eq (node : Node) : node.ternary =
    match node.inputs, node.outputs with
    | [a, b, c], [output] => .ok ((a, b, c), output)
    | [_, _, _], outputs => .error (.arity .outputs 1 outputs.length)
    | inputs, _ => .error (.arity .inputs 3 inputs.length) := by
  obtain ⟨inputs, outputs⟩ := node
  rcases inputs with _ | ⟨a, _ | ⟨b, _ | ⟨c, _ | ⟨d, inputs⟩⟩⟩⟩
  · rfl
  · rfl
  · rfl
  · rcases outputs with _ | ⟨o, _ | ⟨p, outputs⟩⟩
    · rfl
    · rfl
    · simp [ternary, expectArity]
  · simp [ternary, expectArity]

end Node

/-- A node of one input and one output, and the two different tensors it names in an arena. -/
structure Node.Connects (node : Node) (arena : Arena) (source target : Nat)
    (input output : Tensor) : Prop where
  inputs : node.inputs = [source]
  outputs : node.outputs = [target]
  input_at : arena[source]? = some input
  output_at : arena[target]? = some output
  ne : source ≠ target

namespace Node.Connects

variable {node : Node} {arena : Arena} {source target : Nat} {input output : Tensor}

/-- The node of an arena of two tensors. -/
theorem pair (input output : Tensor) :
    Node.Connects ⟨[0], [1]⟩ [input, output] 0 1 input output :=
  ⟨rfl, rfl, rfl, rfl, Nat.zero_ne_one⟩

/-- A node names its tensors. -/
theorem unique {source' target' : Nat} {input' output' : Tensor}
    (h : node.Connects arena source target input output)
    (h' : node.Connects arena source' target' input' output') :
    input' = input ∧ output' = output := by
  obtain rfl : source = source' := by simpa using h.inputs.symm.trans h'.inputs
  obtain rfl : target = target' := by simpa using h.outputs.symm.trans h'.outputs
  exact ⟨Option.some.inj (h'.input_at.symm.trans h.input_at),
    Option.some.inj (h'.output_at.symm.trans h.output_at)⟩

theorem unary (h : node.Connects arena source target input output) :
    node.unary = .ok (source, target) := by
  rw [Node.unary_eq, h.inputs, h.outputs]

/-- The input may be exchanged. -/
theorem setInput (h : node.Connects arena source target input output) (t : Tensor) :
    node.Connects (arena.set source t) source target t output where
  inputs := h.inputs
  outputs := h.outputs
  input_at := by
    obtain ⟨hlt, -⟩ := List.getElem?_eq_some_iff.1 h.input_at
    rw [List.getElem?_set_self hlt]
  output_at := by rw [List.getElem?_set_ne h.ne, h.output_at]
  ne := h.ne

/-- The output may be exchanged. -/
theorem set (h : node.Connects arena source target input output) (t : Tensor) :
    node.Connects (arena.set target t) source target input t where
  inputs := h.inputs
  outputs := h.outputs
  input_at := by rw [List.getElem?_set_ne h.ne.symm, h.input_at]
  output_at := by
    obtain ⟨hlt, -⟩ := List.getElem?_eq_some_iff.1 h.output_at
    rw [List.getElem?_set_self hlt]
  ne := h.ne

theorem runOn_inputOutput (h : node.Connects arena source target input output) :
    runOn (Step.inputOutput source target) arena = (.ok (input, output), arena) :=
  Step.runOn_inputOutput h.input_at h.output_at h.ne

end Node.Connects

end OneBit
