import OneBit.Proofs.Operator.Alias

/-!
# What a failure leaves behind

* `Operator.eq_of_failed_step` : a step that fails leaves the arena as it was;
* `Operator.failed_invoke_iff` : an `invoke` that fails between its two steps leaves at most a mark that
  the shape of the output is open, except for a segment product whose output `prepare` has sized
  though there is not an id for each row, or no room for the products (`Node.SizedEarly`).
-/

namespace OneBit

open Ieee

/-! ## Segment products sized too early -/

namespace UnsortedSegmentProd

variable {data ids count output new : Tensor} {shape : Shape}

/-- `prepare` gives the output `n` rows, which changes it, but there is not an id for each row of the
data, or no room for the products. It compares only the first dimension of the ids with the number of
rows. -/
structure SizedEarly (data ids count output : Tensor) (n : Nat) : Prop where
  typed : Typed data ids count output
  static : Static data ids count
  shape_eq : outputShape data ids count = .ok (n :: data.shape.tail)
  changed : output.resize (n :: data.shape.tail) ≠ output
  miscounted : ¬Counted data ids n

/-- Resizing leaves the allocation alone, so it cannot pass for a deferral. -/
theorem resize_ne_setDynamic (h : output.resize shape ≠ output) :
    output.resize shape ≠ output.setDynamic := by
  intro heq
  have hdynamic : output.allocation = .dynamic := congrArg Tensor.allocation heq
  have hset : output.setDynamic = output := by rw [Tensor.setDynamic, ← hdynamic]
  exact h (heq.trans hset)

end UnsortedSegmentProd

/-- A node whose output `prepare` sizes too early. -/
def Node.SizedEarly (node : Node) (arena : Arena) : Prop :=
  ∃ target data ids count output n, node.Gathers arena target data ids count output ∧
    UnsortedSegmentProd.SizedEarly data ids count output n

/-- At most the output of the node has changed, and of it only the allocation, to `dynamic`. -/
def Node.AtMostDefers (node : Node) (before after : Arena) : Prop :=
  after = before ∨ ∃ target output, node.outputs = [target] ∧ before[target]? = some output ∧
    after = before.set target output.setDynamic

namespace Operator

variable {op : Operator} {node : Node} {arena after : Arena} {e : TensorError}

/-! ## One step -/

/-- A step that fails leaves the arena as it was. -/
theorem eq_of_failed_step (op : Operator) (node : Node) (arena : Arena)
    (h : runOn (op.prepare node) arena = (.error e, after) ∨
      runOn (op.eval node) arena = (.error e, after)) : after = arena := by
  have hcommit {x : Update} (h : arena.commit x = (.error e, after)) : after = arena := by
    cases x with
    | ok update => cases h
    | error e => exact (congrArg Prod.snd h).symm
  rcases h with h | h
  · exact hcommit ((runOn_prepare op node arena).symm.trans h)
  · exact hcommit ((runOn_eval op node arena).symm.trans h)

/-- Two numbers, two ids for each of them, and an output of the right shape. -/
def pairedIdsArena : Arena :=
  [{ shape := [2], data := .int32 [3, 5] },
    { shape := [2, 2], data := .int32 [0, 1, 0, 1], allocation := .constant },
    { shape := [], data := .int32 [2], allocation := .constant },
    { shape := [2], data := .int32 [7, 7] }]

theorem eq_of_failed_step_pairedIds :
    (runOn (unsortedSegmentProd.eval ⟨[0, 1, 2], [3]⟩) pairedIdsArena).1 =
        .error (.bufferSize 4 2) ∧
      (runOn (unsortedSegmentProd.eval ⟨[0, 1, 2], [3]⟩) pairedIdsArena).2 = pairedIdsArena := by
  have hrun : (runOn (unsortedSegmentProd.eval ⟨[0, 1, 2], [3]⟩) pairedIdsArena).1 =
      .error (.bufferSize 4 2) := by decide
  exact ⟨hrun, eq_of_failed_step unsortedSegmentProd ⟨[0, 1, 2], [3]⟩ pairedIdsArena
    (.inr (Prod.ext hrun rfl))⟩

/-! ## Both steps -/

/-- An `invoke` fails in its first step or in its second. -/
theorem failed_invoke_cases (h : runOn (op.invoke node) arena = (.error e, after)) :
    after = arena ∨ ∃ target new, op.prepared node arena = .ok (target, new) ∧
      op.evaluated node (arena.set target new) = .error e ∧ after = arena.set target new := by
  rw [runOn_invoke] at h
  cases hprepared : op.prepared node arena with
  | error e' =>
    simp only [hprepared, Prod.mk.injEq] at h
    exact .inl h.2.symm
  | ok update =>
    obtain ⟨target, new⟩ := update
    simp only [hprepared, runOn_eval] at h
    cases hevaluated : op.evaluated node (arena.set target new) with
    | ok update => simp [hevaluated, Arena.commit] at h
    | error e' =>
      simp only [hevaluated, Arena.commit, Prod.mk.injEq, Except.error.injEq] at h
      obtain ⟨rfl, rfl⟩ := h
      exact .inr ⟨target, new, rfl, hevaluated, rfl⟩

theorem failed_quantize {layout : Layout} {threshold : Binary32}
    (harena : ∀ t ∈ arena, t.WellFormed ∧ t.shape.elementCount < sizeLimit)
    (h : runOn ((quantize layout threshold).invoke node) arena = (.error e, after)) :
    after = arena := by
  rcases failed_invoke_cases h with hafter | ⟨target, new, hprepared, -⟩
  · exact hafter
  · -- The second step repeats the checks of the first, and the shape it asks for is the one just given.
    obtain ⟨source, input, output, hconnects, hnew⟩ := Node.onUnary_eq_ok_iff.1 hprepared
    obtain ⟨_, hcheck, -⟩ := bind_eq_ok_iff.1 hnew
    obtain ⟨wf, fits⟩ := harena _ (List.mem_of_getElem? hconnects.input_at)
    rw [Quantize.runOn_invoke hconnects hcheck wf fits] at h
    cases h

theorem failed_dequantize {layout : Layout}
    (h : runOn ((dequantize layout).invoke node) arena = (.error e, after)) : after = arena := by
  rcases failed_invoke_cases h with hafter | ⟨target, new, hprepared, -, hafter⟩
  · exact hafter
  · obtain ⟨source, input, output, hconnects, hnew⟩ := Node.onUnary_eq_ok_iff.1 hprepared
    rw [hafter, Dequantize.eq_of_prepared hnew, Arena.set_of_getElem? hconnects.output_at]

/-- The run of a segment product whose output is sized too early. -/
theorem runOn_invoke_of_sizedEarly {target n : Nat} {data ids count output : Tensor}
    (hnode : node.Unaliased) (hgathers : node.Gathers arena target data ids count output)
    (h : UnsortedSegmentProd.SizedEarly data ids count output n) :
    ∃ e, runOn (unsortedSegmentProd.invoke node) arena =
      (.error e, arena.set target (output.resize (n :: data.shape.tail))) := by
  have hprepared : unsortedSegmentProd.prepared node arena =
      .ok (target, output.resize (n :: data.shape.tail)) := by
    refine Node.onTernary_eq_ok_iff.2 ⟨data, ids, count, output, hgathers, ?_⟩
    exact UnsortedSegmentProd.prepared_eq_ok_iff.2
      ⟨h.typed, .inr ⟨h.static, _, h.shape_eq, rfl⟩⟩
  rw [runOn_invoke, hprepared]
  simp only [runOn_eval]
  cases hevaluated : unsortedSegmentProd.evaluated node
      (arena.set target (output.resize (n :: data.shape.tail))) with
  | error e => exact ⟨e, rfl⟩
  | ok update =>
    obtain ⟨target', new⟩ := update
    obtain ⟨_, _, _, _, hgathers', hnew⟩ := Node.onTernary_eq_ok_iff.1 hevaluated
    obtain ⟨rfl, rfl, rfl, rfl, rfl⟩ := (hgathers.set hnode _).unique hgathers'
    obtain ⟨m, hshaped, hm⟩ := UnsortedSegmentProd.outputShape_eq_ok_iff.1 h.shape_eq
    obtain rfl : n = m := (List.cons.inj hm).1
    exact absurd ((UnsortedSegmentProd.evaluated_resize_iff h.typed hshaped).1 ⟨new, hnew⟩)
      h.miscounted

/-- A segment product that fails has deferred the shape of its output, or it was sized too early. -/
theorem failed_segmentProduct (hnode : node.Unaliased)
    (h : runOn (unsortedSegmentProd.invoke node) arena = (.error e, after))
    (hearly : ¬node.SizedEarly arena) : node.AtMostDefers arena after := by
  rcases failed_invoke_cases h with hafter | ⟨target, new, hprepared, hevaluated, rfl⟩
  · exact .inl hafter
  · obtain ⟨data, ids, count, output, hgathers, hnew⟩ := Node.onTernary_eq_ok_iff.1 hprepared
    obtain ⟨htyped, ⟨-, rfl⟩ | ⟨hstatic, shape, hshape, rfl⟩⟩ :=
      UnsortedSegmentProd.prepared_eq_ok_iff.1 hnew
    · exact .inr ⟨target, output, hgathers.outputs, hgathers.output_at, rfl⟩
    · obtain ⟨n, hshaped, rfl⟩ := UnsortedSegmentProd.outputShape_eq_ok_iff.1 hshape
      have hmiscounted : ¬UnsortedSegmentProd.Counted data ids n := by
        -- With an id for each row, the second step would have succeeded.
        intro hcounted
        obtain ⟨new, hnew⟩ := (UnsortedSegmentProd.evaluated_resize_iff htyped hshaped).2 hcounted
        have hok : unsortedSegmentProd.evaluated node
            (arena.set target (output.resize (n :: data.shape.tail))) = .ok (target, new) :=
          Node.onTernary_eq_ok_iff.2 ⟨data, ids, count, _, hgathers.set hnode _, hnew⟩
        rw [hok] at hevaluated
        cases hevaluated
      have hsame : output.resize (n :: data.shape.tail) = output := by
        by_cases hchanged : output.resize (n :: data.shape.tail) = output
        · exact hchanged
        · exact absurd ⟨target, data, ids, count, output, n, hgathers,
            htyped, hstatic, hshape, hchanged, hmiscounted⟩ hearly
      exact .inl (by rw [hsame, Arena.set_of_getElem? hgathers.output_at])

/-- An `invoke` that fails, on a node that does not write what it reads, changes no tensor but for a
mark that the shape of the output is open. The one exception is a segment product whose output is
sized too early. Tensors in memory have 64-bit sizes. -/
theorem failed_invoke_iff (op : Operator) (hnode : node.Unaliased)
    (harena : ∀ t ∈ arena, t.WellFormed ∧ t.shape.elementCount < sizeLimit)
    (h : runOn (op.invoke node) arena = (.error e, after)) :
    node.AtMostDefers arena after ↔ ¬(op = .unsortedSegmentProd ∧ node.SizedEarly arena) := by
  constructor
  · rintro hdefers ⟨rfl, target, data, ids, count, output, n, hgathers, hearly⟩
    obtain ⟨e', hrun⟩ := runOn_invoke_of_sizedEarly hnode hgathers hearly
    obtain rfl : arena.set target (output.resize (n :: data.shape.tail)) = after :=
      congrArg Prod.snd (hrun.symm.trans h)
    have hlt := (List.getElem?_eq_some_iff.1 hgathers.output_at).1
    have hnew : (arena.set target (output.resize (n :: data.shape.tail)))[target]? =
        some (output.resize (n :: data.shape.tail)) := List.getElem?_set_self hlt
    rcases hdefers with hsame | ⟨target', output', houtputs, hat, hset⟩
    · rw [hsame, hgathers.output_at, Option.some.injEq] at hnew
      exact hearly.changed hnew.symm
    · obtain rfl : target = target' := by simpa using hgathers.outputs.symm.trans houtputs
      obtain rfl : output = output' := Option.some.inj (hgathers.output_at.symm.trans hat)
      rw [hset, List.getElem?_set_self hlt, Option.some.injEq] at hnew
      exact UnsortedSegmentProd.resize_ne_setDynamic hearly.changed hnew.symm
  · intro hearly
    cases op with
    | quantize layout threshold => exact .inl (failed_quantize harena h)
    | dequantize layout => exact .inl (failed_dequantize h)
    | unsortedSegmentProd => exact failed_segmentProduct hnode h fun hnot => hearly ⟨rfl, hnot⟩

/-- A word, and two int8 elements that nothing says how to scale. -/
def unscaledArena : Arena :=
  [{ shape := [1, 1], data := .int32 [2] }, { shape := [1, 2], data := .int8 [4, 6] }]

theorem failed_invoke_iff_unscaled :
    (runOn ((dequantize .full).invoke ⟨[0], [1]⟩) unscaledArena).1 =
        .error (.missingQuantization .int8) ∧
      (⟨[0], [1]⟩ : Node).AtMostDefers unscaledArena
        (runOn ((dequantize .full).invoke ⟨[0], [1]⟩) unscaledArena).2 := by
  have hrun : (runOn ((dequantize .full).invoke ⟨[0], [1]⟩) unscaledArena).1 =
      .error (.missingQuantization .int8) := by decide
  exact ⟨hrun, (failed_invoke_iff (dequantize .full) (by decide) (by decide)
    (Prod.ext hrun rfl)).2 fun h => nomatch h.1⟩

/-- The output is sized, and then there are four ids for two numbers. -/
theorem invoke_segmentProduct_pairedIds :
    runOn (unsortedSegmentProd.invoke ⟨[0, 1, 2], [3]⟩) pairedIdsArena =
      (.error (.bufferSize 4 2), pairedIdsArena.set 3 { shape := [2], data := .int32 [0, 0] }) := by
  decide

end Operator

end OneBit
