import OneBit.Proofs.Operator.Error

/-!
# Tensors on both sides of a node

* `Operator.runOn_call_frame` : a call changes no tensor but the output of its node;
* `Operator.runOn_call_of_aliased` : an operator of one input refuses a node that would write what it
  reads;
* `Operator.inputs_unchanged_or_refused` : a segment product does not look for such nodes, and
  `Operator.invoke_segmentProduct_aliased` is one that it runs.
-/

namespace OneBit

open Ieee

/-! ## Nodes that keep their inputs apart -/

/-- No tensor is both an input and an output. -/
def Node.Unaliased (node : Node) : Prop :=
  ∀ i ∈ node.inputs, i ∉ node.outputs

instance (node : Node) : Decidable node.Unaliased :=
  inferInstanceAs (Decidable (∀ i ∈ node.inputs, i ∉ node.outputs))

namespace Node

variable {node : Node} {arena : Arena}

theorem Connects.unaliased {source target : Nat} {input output : Tensor}
    (h : node.Connects arena source target input output) : node.Unaliased := by
  intro i hin hout
  rw [h.inputs, List.mem_singleton] at hin
  rw [h.outputs, List.mem_singleton] at hout
  exact h.ne (hin.symm.trans hout)

namespace Gathers

variable {target target' : Nat} {a b c output a' b' c' output' : Tensor}

/-- The output may be exchanged when it is none of the inputs. -/
theorem set (h : node.Gathers arena target a b c output) (hnode : node.Unaliased) (t : Tensor) :
    node.Gathers (arena.set target t) target a b c t where
  inputs := by
    rw [← h.inputs]
    refine List.map_congr_left fun i hi => List.getElem?_set_ne ?_
    rintro rfl
    exact hnode target hi (by rw [h.outputs, List.mem_singleton])
  outputs := h.outputs
  output_at := by
    obtain ⟨hlt, -⟩ := List.getElem?_eq_some_iff.1 h.output_at
    rw [List.getElem?_set_self hlt]

end Gathers

/-- A node of one input and one output that share a tensor has no decision, whatever the operator. -/
theorem onUnary_of_aliased (f : Tensor → Tensor → Except TensorError Tensor)
    (h : ¬node.Unaliased) (arena : Arena) :
    ∃ e, node.onUnary f arena = .error e ∧
      ∀ i < arena.length, node.inputs = [i] → node.outputs = [i] → e = .aliasedTensor i := by
  cases hdecision : node.onUnary f arena with
  | ok update =>
    obtain ⟨source, input, output, hconnects, -⟩ := onUnary_eq_ok_iff.1 hdecision
    exact absurd hconnects.unaliased h
  | error e =>
    refine ⟨e, rfl, fun i hi hin hout => ?_⟩
    have hpair : arena.pair i i = .error (.aliasedTensor i) := by
      simp [Arena.pair, Arena.tensor, List.getElem?_eq_getElem hi]
    rw [onUnary, unary_eq_ok_iff.2 ⟨hin, hout⟩] at hdecision
    simp only [ok_bind, hpair, error_bind, Except.error.injEq] at hdecision
    exact hdecision.symm

end Node

namespace Operator

variable {op : Operator} {node : Node} {arena : Arena}

/-! ## Calls -/

/-- A call changes no tensor but the output of its node. -/
theorem runOn_call_frame (op : Operator) (call : Call) (node : Node) (arena : Arena) {i : Nat}
    (h : i ∉ node.outputs) : (runOn (op.call call node) arena).2[i]? = arena[i]? := by
  rcases runOn_call_cases op call node arena with hsame | ⟨target, new, hwrites, hset⟩
  · rw [hsame]
  · have hne : target ≠ i := by
      rintro rfl
      exact h (by rw [hwrites.outputs, List.mem_singleton])
    rw [hset, List.getElem?_set_ne hne]

/-- Every other operator has one input. -/
theorem exists_onUnary (hop : op ≠ .unsortedSegmentProd) :
    ∃ f g, (∀ node arena, op.prepared node arena = node.onUnary f arena) ∧
      ∀ node arena, op.evaluated node arena = node.onUnary g arena := by
  cases op with
  | quantize layout threshold => exact ⟨_, _, fun _ _ => rfl, fun _ _ => rfl⟩
  | dequantize layout => exact ⟨_, _, fun _ _ => rfl, fun _ _ => rfl⟩
  | unsortedSegmentProd => exact absurd rfl hop

/-- An operator of one input refuses a node that would write what it reads. -/
theorem runOn_call_of_aliased (hop : op ≠ .unsortedSegmentProd) (h : ¬node.Unaliased) (call : Call)
    (arena : Arena) :
    ∃ e, runOn (op.call call node) arena = (.error e, arena) ∧
      ∀ i < arena.length, node.inputs = [i] → node.outputs = [i] → e = .aliasedTensor i := by
  obtain ⟨f, g, hprepared, hevaluated⟩ := exists_onUnary hop
  obtain ⟨e, he, halias⟩ := Node.onUnary_of_aliased f h arena
  obtain ⟨e', he', halias'⟩ := Node.onUnary_of_aliased g h arena
  cases call with
  | prepare => exact ⟨e, by rw [Operator.call, runOn_prepare, hprepared, he]; rfl, halias⟩
  | eval => exact ⟨e', by rw [Operator.call, runOn_eval, hevaluated, he']; rfl, halias'⟩
  | invoke => exact ⟨e, by rw [Operator.call, runOn_invoke, hprepared, he], halias⟩

/-- Unless it is a segment product on an aliased node, a call that succeeds leaves the inputs as they
were, and a call on an aliased node is refused. A segment product never is for that reason. -/
theorem inputs_unchanged_or_refused (op : Operator) (call : Call) (node : Node) (arena : Arena) :
    (op ≠ .unsortedSegmentProd ∨ node.Unaliased →
      (runOn (op.call call node) arena).1 = .ok () →
        ∀ i ∈ node.inputs, (runOn (op.call call node) arena).2[i]? = arena[i]?) ∧
    (op ≠ .unsortedSegmentProd → ¬node.Unaliased →
      ∃ e, runOn (op.call call node) arena = (.error e, arena) ∧
        ∀ i < arena.length, node.inputs = [i] → node.outputs = [i] → e = .aliasedTensor i) ∧
    (op = .unsortedSegmentProd →
      ∀ i, (runOn (op.call call node) arena).1 ≠ .error (.aliasedTensor i)) := by
  refine ⟨fun h hok i hi => ?_, fun hop h => runOn_call_of_aliased hop h call arena, ?_⟩
  · by_cases hnode : node.Unaliased
    · exact runOn_call_frame op call node arena (hnode i hi)
    · obtain ⟨e, hrun, -⟩ := runOn_call_of_aliased (h.resolve_right hnode) hnode call arena
      rw [hrun] at hok
      cases hok
  · rintro rfl i hrun
    cases raises_call unsortedSegmentProd call node arena _ hrun with
    | accurate h => exact h
    | aliased h => exact h rfl

/-- A word and room for two elements. -/
def wordArena : Arena :=
  [{ shape := [1, 1], data := .int32 [2] }, { shape := [1, 2], data := .bool [false, false] }]

theorem inputs_unchanged_or_refused_wordArena :
    (runOn ((dequantize .full).call .invoke ⟨[0], [1]⟩) wordArena).2[0]? = wordArena[0]? ∧
      ∃ e, runOn ((dequantize .full).call .eval ⟨[0], [0]⟩) wordArena = (.error e, wordArena) ∧
        e = .aliasedTensor 0 := by
  refine ⟨?_, ?_⟩
  · exact (inputs_unchanged_or_refused (dequantize .full) .invoke ⟨[0], [1]⟩ wordArena).1
      (.inl (by decide)) (by decide) 0 (by decide)
  · obtain ⟨e, hrun, halias⟩ :=
      (inputs_unchanged_or_refused (dequantize .full) .eval ⟨[0], [0]⟩ wordArena).2.1
        (by decide) (by decide)
    exact ⟨e, hrun, halias 0 (by decide) rfl rfl⟩

/-- Two rows, their ids and the number of segments. -/
def aliasedArena : Arena :=
  [{ shape := [2], data := .int32 [3, 5] },
    { shape := [2], data := .int32 [0, 1], allocation := .constant },
    { shape := [], data := .int32 [2], allocation := .constant }]

theorem invoke_segmentProduct_aliased :
    runOn (unsortedSegmentProd.invoke ⟨[0, 1, 2], [0]⟩) aliasedArena =
      (.ok (), aliasedArena.set 0 { shape := [2], data := .int32 [0, 0] }) := by
  decide

end Operator

end OneBit
