import OneBit.Proofs.Operator.Alias

/-!
# How memory is planned

The shape of a segment product is settled before evaluation where all that it depends on is known by
then, and otherwise during evaluation. Both come to the same:

* `Operator.invoked` : what the two steps of an operator decide, one after the other;
* `UnsortedSegmentProd.settled` : the output of a segment product by a function that knows no allocation;
* `Operator.runOn_invoke_replanned` : on arenas that differ only in how memory is planned, the outcomes
  are equal, and so is what was written.
-/

namespace OneBit

open Ieee

/-! ## Tensors without their planning -/

/-- The tensor with the allocation it has when nothing is said about its memory. -/
def Tensor.unplanned (t : Tensor) : Tensor :=
  { t with allocation := .arena }

/-- The same tensors, each with its memory planned in its own way. -/
def Arena.Replanned (a b : Arena) : Prop :=
  a.map Tensor.unplanned = b.map Tensor.unplanned

theorem Arena.tensor_map (r : Tensor → Tensor) (arena : Arena) (i : Nat) :
    Arena.tensor (arena.map r) i = r <$> arena.tensor i := by
  rw [Arena.tensor, Arena.tensor, List.getElem?_map]
  cases arena[i]? <;> rfl

namespace Arena.Replanned

variable {a b : Arena}

theorem wellFormed (h : Replanned a b) (ha : ∀ t ∈ a, t.WellFormed) : ∀ t ∈ b, t.WellFormed := by
  intro t ht
  have hmem : t.unplanned ∈ a.map Tensor.unplanned := by
    rw [h]
    exact List.mem_map_of_mem ht
  obtain ⟨s, hs, heq⟩ := List.mem_map.1 hmem
  have wf : s.unplanned.WellFormed := ha s hs
  rw [heq] at wf
  exact wf

theorem set (h : Replanned a b) (i : Nat) {s t : Tensor} (ht : s.unplanned = t.unplanned) :
    Replanned (a.set i s) (b.set i t) := by
  rw [Replanned, List.map_set, List.map_set, h, ht]

end Arena.Replanned

/-! ## Two decisions in a row -/

namespace Node

variable {node : Node} {arena : Arena}

theorem gather_map (r : Tensor → Tensor) (node : Node) (arena : Arena) :
    node.gather (arena.map r) =
      (fun (target, a, b, c, output) => (target, r a, r b, r c, r output)) <$> node.gather arena := by
  simp only [gather, Arena.tensor_map, map_bind, bind_map_left, map_pure]

/-- Where the first step wrote none of the inputs, the second goes on from its output. -/
theorem onTernary_bind (hnode : node.Unaliased)
    (f g : Tensor → Tensor → Tensor → Tensor → Except TensorError Tensor) :
    (do let (target, t) ← node.onTernary f arena
        node.onTernary g (arena.set target t)) =
      node.onTernary (fun a b c output => f a b c output >>= g a b c) arena := by
  rw [onTernary_eq_gather, onTernary_eq_gather]
  cases hgather : node.gather arena with
  | error e => rfl
  | ok tensors =>
    obtain ⟨target, a, b, c, output⟩ := tensors
    simp only [ok_bind, bind_assoc, pure_bind]
    congr 1
    funext t
    have hgathers := (gather_eq_ok_iff.1 hgather).set hnode t
    rw [onTernary_eq_gather, gather_eq_ok_iff.2 hgathers, ok_bind]

end Node

/-- What the two steps of an operator decide, one after the other. -/
def Operator.invoked (op : Operator) (node : Node) (arena : Arena) : Update := do
  let (target, t) ← op.prepared node arena
  op.evaluated node (arena.set target t)

theorem Operator.runOn_invoke_fst (op : Operator) (node : Node) (arena : Arena) :
    (runOn (op.invoke node) arena).1 = (fun _ => ()) <$> op.invoked node arena := by
  rw [runOn_invoke, invoked]
  rcases op.prepared node arena with e | ⟨target, t⟩
  · rfl
  · simp only [ok_bind, runOn_eval]
    cases op.evaluated node (arena.set target t) <;> rfl

theorem Operator.runOn_invoke_of_invoked {op : Operator} {node : Node} {arena : Arena} {target : Nat}
    {new : Tensor} (h : op.invoked node arena = .ok (target, new)) :
    runOn (op.invoke node) arena = (.ok (), arena.set target new) := by
  obtain ⟨⟨target', t⟩, hprepared, hevaluated⟩ := bind_eq_ok_iff.1 h
  obtain ⟨rfl, -⟩ := (writes_of_prepared hprepared).set (writes_of_evaluated hevaluated)
  exact runOn_invoke_eq_ok_iff.2 ⟨target, t, new, hprepared, hevaluated, rfl⟩

/-! ## Segment products -/

namespace UnsortedSegmentProd

variable {data ids count output : Tensor}

/-- The output that both steps together leave, with nothing said about its memory. -/
def settled (data ids count output : Tensor) : Except TensorError Tensor := do
  if data.dtype ≠ .int32 ∧ data.dtype ≠ .float32 then throw (.unsupportedType data.dtype)
  if ids.dtype ≠ .int32 then throw (.unsupportedType ids.dtype)
  if count.dtype ≠ .int32 then throw (.unsupportedType count.dtype)
  if output.dtype ≠ data.dtype then throw (.unsupportedType output.dtype)
  let shape ← outputShape data ids count
  let values ← segmentProducts data ids shape
  return { output with shape, data := values, allocation := .arena }

/-- On an output that has the right shape already or is free to take it, `eval` writes the products. -/
theorem evaluated_eq (ids count : Tensor) (wf : output.WellFormed) (hdtype : output.dtype = data.dtype)
    (hsized : output.allocation = .dynamic ∨ outputShape data ids count = .ok output.shape) :
    evaluated data ids count output = (do
      let shape ← outputShape data ids count
      let values ← segmentProducts data ids shape
      return { output with shape, data := values }) := by
  rw [evaluated, if_neg (Classical.not_not.2 hdtype)]
  cases hshape : outputShape data ids count with
  | error e => rfl
  | ok shape =>
    have hcheck : ¬(output.allocation ≠ .dynamic ∧ output.shape ≠ shape) := by
      rintro ⟨hfixed, hne⟩
      have hsized := hsized.resolve_left hfixed
      rw [hshape] at hsized
      exact hne (Except.ok.inj hsized).symm
    simp only [ok_bind, if_neg hcheck]
    cases hvalues : segmentProducts data ids shape with
    | error e => rfl
    | ok values =>
      obtain ⟨hvalues, hlength⟩ := segmentProducts_eq_ok hshape hvalues
      exact Tensor.fill_sizedTo_eq_ok wf (hdtype.trans hvalues) hlength

/-- A check that comes first in both steps together. -/
theorem map_guard_bind {p : Prop} [Decidable p] {e : TensorError}
    {k k' : PUnit → Except TensorError Tensor} {x y : Except TensorError Tensor}
    {g : Tensor → Except TensorError Tensor} (h : ¬p → Tensor.unplanned <$> (x >>= g) = y) :
    Tensor.unplanned <$> ((if p then throw e >>= k else x) >>= g) =
      if p then throw e >>= k' else y := by
  by_cases hp : p
  · rw [if_pos hp, if_pos hp]
    rfl
  · rw [if_neg hp, if_neg hp, h hp]

/-- Nothing that is decided depends on how memory is planned. -/
theorem settled_unplanned (data ids count output : Tensor) :
    settled data.unplanned ids.unplanned count.unplanned output.unplanned =
      settled data ids count output :=
  rfl

/-- Whether the shape is settled before evaluation or during it, the same checks are made on the inputs
in the same order, and the same products are written. -/
theorem unplanned_evaluated (wf : output.WellFormed) :
    Tensor.unplanned <$> (prepared data ids count output >>= evaluated data ids count) =
      settled data ids count output := by
  refine map_guard_bind fun _ => map_guard_bind fun _ => map_guard_bind fun _ => ?_
  refine map_guard_bind fun hdtype => ?_
  have hdtype : output.dtype = data.dtype := Classical.not_not.1 hdtype
  split
  · have wf' : output.setDynamic.WellFormed := wf
    have heval := evaluated_eq ids count wf' hdtype (.inl rfl)
    simp only [pure_bind, heval, map_bind, map_pure]
    rfl
  · cases hshape : outputShape data ids count with
    | error e => rfl
    | ok shape =>
      have heval := evaluated_eq ids count (Tensor.wellFormed_resize output shape)
        ((Tensor.dtype_resize output shape).trans hdtype) (.inr hshape)
      simp only [ok_bind, pure_bind, heval, hshape, map_bind, map_pure]
      rfl

end UnsortedSegmentProd

namespace Operator

variable {node : Node} {arena other : Arena}

theorem invoked_segmentProduct (hnode : node.Unaliased) :
    unsortedSegmentProd.invoked node arena =
      node.onTernary (fun data ids count output =>
        UnsortedSegmentProd.prepared data ids count output >>=
          UnsortedSegmentProd.evaluated data ids count) arena :=
  Node.onTernary_bind hnode _ _

/-- Planning aside, a segment product is decided by tensors without it. -/
theorem unplanned_invoked (hnode : node.Unaliased) (harena : ∀ t ∈ arena, t.WellFormed) :
    (fun (target, new) => (target, Tensor.unplanned new)) <$> unsortedSegmentProd.invoked node arena =
      node.onTernary UnsortedSegmentProd.settled (arena.map Tensor.unplanned) := by
  rw [invoked_segmentProduct hnode, Node.onTernary_eq_gather, Node.onTernary_eq_gather,
    Node.gather_map]
  cases hgather : node.gather arena with
  | error e => rfl
  | ok tensors =>
    obtain ⟨target, data, ids, count, output⟩ := tensors
    have hgathers := Node.gather_eq_ok_iff.1 hgather
    have wf := harena output (List.mem_of_getElem? hgathers.output_at)
    show _ = (do return (target, ← UnsortedSegmentProd.settled data.unplanned ids.unplanned
      count.unplanned output.unplanned))
    rw [UnsortedSegmentProd.settled_unplanned, ← UnsortedSegmentProd.unplanned_evaluated wf]
    simp only [ok_bind]
    generalize UnsortedSegmentProd.prepared data ids count output >>=
      UnsortedSegmentProd.evaluated data ids count = decision
    cases decision <;> rfl

/-- On a node that does not write what it reads, a segment product comes out the same however the memory
of the tensors is planned, and leaves the same tensors but for their planning. -/
theorem runOn_invoke_replanned (hnode : node.Unaliased) (harena : ∀ t ∈ arena, t.WellFormed)
    (h : arena.Replanned other) :
    (runOn (unsortedSegmentProd.invoke node) arena).1 =
        (runOn (unsortedSegmentProd.invoke node) other).1 ∧
      ((runOn (unsortedSegmentProd.invoke node) arena).1 = .ok () →
        (runOn (unsortedSegmentProd.invoke node) arena).2.Replanned
          (runOn (unsortedSegmentProd.invoke node) other).2) := by
  have hdecisions : (fun (target, new) => (target, Tensor.unplanned new)) <$>
      unsortedSegmentProd.invoked node arena =
        (fun (target, new) => (target, Tensor.unplanned new)) <$>
          unsortedSegmentProd.invoked node other := by
    rw [unplanned_invoked hnode harena, unplanned_invoked hnode (h.wellFormed harena), h]
  cases hfirst : unsortedSegmentProd.invoked node arena with
  | error e =>
    cases hsecond : unsortedSegmentProd.invoked node other with
    | error e' =>
      rw [hfirst, hsecond] at hdecisions
      obtain rfl : e = e' := Except.error.inj hdecisions
      rw [runOn_invoke_fst, runOn_invoke_fst, hfirst, hsecond]
      refine ⟨rfl, fun h => ?_⟩
      cases h
    | ok update =>
      rw [hfirst, hsecond] at hdecisions
      cases hdecisions
  | ok update =>
    obtain ⟨target, new⟩ := update
    cases hsecond : unsortedSegmentProd.invoked node other with
    | error e =>
      rw [hfirst, hsecond] at hdecisions
      cases hdecisions
    | ok update =>
      obtain ⟨target', new'⟩ := update
      rw [hfirst, hsecond] at hdecisions
      obtain ⟨rfl, hnew⟩ : target = target' ∧ new.unplanned = new'.unplanned :=
        Prod.mk.inj (Except.ok.inj hdecisions)
      rw [runOn_invoke_of_invoked hfirst, runOn_invoke_of_invoked hsecond]
      exact ⟨rfl, fun _ => h.set target hnew⟩

/-- Three rows of one, their ids and the number of segments, and an output that has no shape yet. -/
def plannedArena (planning : Allocation) : Arena :=
  [{ shape := [3], data := .int32 [2, 5, 7] },
    { shape := [3], data := .int32 [0, 1, 0], allocation := planning },
    { shape := [], data := .int32 [2], allocation := planning },
    { shape := [], data := .int32 [9] }]

/-- Known beforehand, the ids size the output before evaluation; otherwise it is marked dynamic. -/
theorem runOn_invoke_replanned_planned :
    let early := runOn (unsortedSegmentProd.invoke ⟨[0, 1, 2], [3]⟩) (plannedArena .constant)
    let late := runOn (unsortedSegmentProd.invoke ⟨[0, 1, 2], [3]⟩) (plannedArena .dynamic)
    early.2[3]? = some { shape := [2], data := .int32 [14, 5] } ∧ early.2 ≠ late.2 ∧
      late.1 = .ok () ∧ early.2.Replanned late.2 := by
  intro early late
  have hok : early.1 = .ok () := by decide
  have hnode : Node.Unaliased ⟨[0, 1, 2], [3]⟩ := by decide
  have harena : ∀ t ∈ plannedArena .constant, t.WellFormed := by decide
  have hplanned : (plannedArena .constant).Replanned (plannedArena .dynamic) := rfl
  obtain ⟨houtcome, harenas⟩ := runOn_invoke_replanned hnode harena hplanned
  exact ⟨by decide, by decide, houtcome.symm.trans hok, harenas hok⟩

end Operator

end OneBit
