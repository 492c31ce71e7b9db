import OneBit.Proofs.Operator.Alias

/-!
# What a call touches

* `Arena.AgreeOn` : the same tensors at some indices;
* `Operator.runOn_call_congr` : a call takes notice of the tensors that its node lists and of no others;
* `Operator.Permits` : what each call may change of the output of its node;
* `Operator.runOn_call_footprint` : both together;
* `Operator.runOn_call_comm` : calls on nodes that do not write what the other lists may be exchanged.
-/

namespace OneBit

open Ieee

/-! ## Arenas that agree -/

/-- The same tensors at these indices; out of range in the one is out of range in the other. -/
def Arena.AgreeOn (indices : List Nat) (a b : Arena) : Prop :=
  ∀ i ∈ indices, a[i]? = b[i]?

/-- All tensors that a node lists. -/
def Node.indices (node : Node) : List Nat :=
  node.inputs ++ node.outputs

namespace Arena.AgreeOn

variable {indices : List Nat} {a b : Arena}

theorem tensor (h : AgreeOn indices a b) {i : Nat} (hi : i ∈ indices) : a.tensor i = b.tensor i := by
  rw [Arena.tensor, h i hi, Arena.tensor]

theorem set (h : AgreeOn indices a b) (target : Nat) (t : Tensor) :
    AgreeOn indices (a.set target t) (b.set target t) := by
  intro i hi
  by_cases htarget : target = i
  · subst htarget
    rw [List.getElem?_set_self', List.getElem?_set_self', h target hi]
  · rw [List.getElem?_set_ne htarget, List.getElem?_set_ne htarget, h i hi]

theorem commit (h : AgreeOn indices a b) (x : Update) :
    (a.commit x).1 = (b.commit x).1 ∧ AgreeOn indices (a.commit x).2 (b.commit x).2 := by
  rcases x with e | ⟨target, t⟩
  · exact ⟨rfl, h⟩
  · exact ⟨rfl, h.set target t⟩

end Arena.AgreeOn

namespace Node

variable {node : Node} {a b : Arena}

theorem onUnary_congr {f : Tensor → Tensor → Except TensorError Tensor}
    (h : a.AgreeOn node.indices b) : node.onUnary f a = node.onUnary f b := by
  unfold onUnary
  cases hnode : node.unary with
  | error e => rfl
  | ok indices =>
    obtain ⟨source, target⟩ := indices
    obtain ⟨hin, hout⟩ := unary_eq_ok_iff.1 hnode
    have hsource : a.tensor source = b.tensor source := h.tensor (by simp [indices, hin])
    have htarget : a.tensor target = b.tensor target := h.tensor (by simp [indices, hout])
    simp only [ok_bind, Arena.pair, hsource, htarget]

theorem onTernary_congr {f : Tensor → Tensor → Tensor → Tensor → Except TensorError Tensor}
    (h : a.AgreeOn node.indices b) : node.onTernary f a = node.onTernary f b := by
  unfold onTernary
  cases hnode : node.ternary with
  | error e => rfl
  | ok indices =>
    obtain ⟨⟨first, second, third⟩, target⟩ := indices
    obtain ⟨hin, hout⟩ := ternary_eq_ok_iff.1 hnode
    have hfirst : a.tensor first = b.tensor first := h.tensor (by simp [indices, hin])
    have hsecond : a.tensor second = b.tensor second := h.tensor (by simp [indices, hin])
    have hthird : a.tensor third = b.tensor third := h.tensor (by simp [indices, hin])
    have htarget : a.tensor target = b.tensor target := h.tensor (by simp [indices, hout])
    simp only [ok_bind, hfirst, hsecond, hthird, htarget]

end Node

namespace Operator

variable {op : Operator} {call : Call} {node : Node} {a b : Arena}

theorem prepared_congr (op : Operator) (h : a.AgreeOn node.indices b) :
    op.prepared node a = op.prepared node b := by
  cases op with
  | quantize layout threshold => exact Node.onUnary_congr (f := Quantize.prepared layout) h
  | dequantize layout => exact Node.onUnary_congr (f := Dequantize.prepared layout) h
  | unsortedSegmentProd => exact Node.onTernary_congr (f := UnsortedSegmentProd.prepared) h

theorem evaluated_congr (op : Operator) (h : a.AgreeOn node.indices b) :
    op.evaluated node a = op.evaluated node b := by
  cases op with
  | quantize layout threshold =>
    exact Node.onUnary_congr (f := Quantize.evaluated layout threshold) h
  | dequantize layout => exact Node.onUnary_congr (f := Dequantize.evaluated layout) h
  | unsortedSegmentProd => exact Node.onTernary_congr (f := UnsortedSegmentProd.evaluated) h

theorem runOn_eval_congr (op : Operator) (h : a.AgreeOn node.indices b) :
    (runOn (op.eval node) a).1 = (runOn (op.eval node) b).1 ∧
      (runOn (op.eval node) a).2.AgreeOn node.indices (runOn (op.eval node) b).2 := by
  rw [runOn_eval, runOn_eval, evaluated_congr op h]
  exact h.commit _

/-- On arenas that agree on what the node lists, a call comes out the same, and they still agree. -/
theorem runOn_call_congr (op : Operator) (call : Call) (h : a.AgreeOn node.indices b) :
    (runOn (op.call call node) a).1 = (runOn (op.call call node) b).1 ∧
      (runOn (op.call call node) a).2.AgreeOn node.indices (runOn (op.call call node) b).2 := by
  cases call with
  | prepare =>
    rw [Operator.call, runOn_prepare, runOn_prepare, prepared_congr op h]
    exact h.commit _
  | eval => exact runOn_eval_congr op h
  | invoke =>
    rw [Operator.call, runOn_invoke, runOn_invoke, prepared_congr op h]
    rcases op.prepared node b with e | ⟨target, t⟩
    · exact ⟨rfl, h⟩
    · exact runOn_eval_congr op (h.set target t)

end Operator

/-! ## What a write leaves alone -/

theorem Tensor.eq_of_write {t new : Tensor} {values : TensorData} (h : t.write values = .ok new) :
    new = { t with data := new.data } := by
  unfold Tensor.write at h
  split at h
  · cases h
    rfl
  · cases h

theorem Tensor.eq_of_fill {t new : Tensor} {values : TensorData} (h : t.fill values = .ok new) :
    new = { t with data := new.data } := by
  unfold Tensor.fill at h
  split at h
  · split at h
    · cases h
      rfl
    · cases h
  · cases h

theorem Quantize.eq_of_evaluated {layout : Layout} {threshold : Binary32} {input output new : Tensor}
    (h : evaluated layout threshold input output = .ok new) :
    new = { output with data := new.data } := by
  simp only [evaluated, bind_eq_ok_iff, guard_eq_ok_iff] at h
  obtain ⟨-, -, packed, -, -, -, -, words, -, hwrite⟩ := h
  exact Tensor.eq_of_write hwrite

theorem Dequantize.eq_of_evaluated {layout : Layout} {input output new : Tensor}
    (h : evaluated layout input output = .ok new) : new = { output with data := new.data } := by
  simp only [evaluated, bind_eq_ok_iff] at h
  obtain ⟨-, -, ⟨rows, cols⟩, -, words, -, h⟩ := h
  split at h
  · obtain ⟨values, -, hnew⟩ := bind_eq_ok_iff.1 h
    cases hnew
    rfl
  · split at h
    · obtain ⟨levels, -, h⟩ := bind_eq_ok_iff.1 h
      obtain ⟨values, -, hnew⟩ := bind_eq_ok_iff.1 h
      cases hnew
      rfl
    · cases h
  · obtain ⟨values, -, hnew⟩ := bind_eq_ok_iff.1 h
    cases hnew
    rfl
  · cases h

/-- Only an output that is free to take a shape is given one. -/
theorem UnsortedSegmentProd.eq_of_evaluated {data ids count output new : Tensor}
    (h : evaluated data ids count output = .ok new) :
    new = { output with shape := new.shape, data := new.data } ∧
      (new.shape = output.shape ∨ output.allocation = .dynamic) := by
  simp only [evaluated, guard_eq_ok_iff, bind_eq_ok_iff] at h
  obtain ⟨-, shape, -, hcheck, values, -, hfill⟩ := h
  have hnew := Tensor.eq_of_fill hfill
  have hshape : new.shape = shape := by rw [hnew, Tensor.shape_sizedTo]
  refine ⟨?_, ?_⟩
  · unfold Tensor.sizedTo at hnew
    split at hnew
    · rw [hnew]
      rfl
    · rw [hnew]
  · by_cases hdynamic : output.allocation = .dynamic
    · exact .inr hdynamic
    · rw [hshape]
      exact .inl (Classical.not_not.1 fun hne => hcheck ⟨hdynamic, Ne.symm hne⟩)

/-! ## What each call may change -/

/-- Whether a call may give its output another shape. -/
def Operator.mayReshape : Operator → Call → Tensor → Prop
  | .quantize _ _, .eval, _ => False
  | .quantize _ _, _, _ => True
  | .dequantize _, _, _ => False
  | .unsortedSegmentProd, .eval, output => output.allocation = .dynamic
  | .unsortedSegmentProd, _, _ => True

/-- What a call may change of its output. Only a segment product plans memory: where it cannot size the
output before evaluation, it marks it dynamic. -/
structure Operator.Permits (op : Operator) (call : Call) (old new : Tensor) : Prop where
  dtype : new.dtype = old.dtype
  quantization : new.quantization = old.quantization
  allocation : new.allocation = old.allocation ∨
    op = .unsortedSegmentProd ∧ call ≠ .eval ∧ new.allocation = .dynamic
  shape : new.shape = old.shape ∨ op.mayReshape call old

namespace Operator

variable {op : Operator} {node : Node} {arena : Arena} {target : Nat} {old mid new : Tensor}

namespace Permits

theorem refl (op : Operator) (call : Call) (t : Tensor) : op.Permits call t t :=
  ⟨rfl, rfl, .inl rfl, .inl rfl⟩

/-- Evaluation leaves the allocation as preparation left it. -/
theorem invoke (hprepare : op.Permits .prepare old mid) (heval : op.Permits .eval mid new) :
    op.Permits .invoke old new where
  dtype := heval.dtype.trans hprepare.dtype
  quantization := heval.quantization.trans hprepare.quantization
  allocation := by
    have hkept : new.allocation = mid.allocation := heval.allocation.resolve_right fun h => h.2.1 rfl
    rw [hkept]
    rcases hprepare.allocation with h | ⟨hop, -, hdynamic⟩
    · exact .inl h
    · exact .inr ⟨hop, by decide, hdynamic⟩
  shape := by
    cases op with
    | quantize layout threshold => exact .inr trivial
    | dequantize layout =>
      have hevaluated : new.shape = mid.shape := heval.shape.resolve_right id
      have hprepared : mid.shape = old.shape := hprepare.shape.resolve_right id
      exact .inl (hevaluated.trans hprepared)
    | unsortedSegmentProd => exact .inr trivial

end Permits

theorem permits_of_prepared (h : op.prepared node arena = .ok (target, new)) :
    ∃ old, arena[target]? = some old ∧ op.Permits .prepare old new := by
  cases op with
  | quantize layout threshold =>
    obtain ⟨source, input, output, hconnects, hnew⟩ := Node.onUnary_eq_ok_iff.1 h
    have hcontinues := Quantize.continues_of_prepared hnew
    simp only [Quantize.prepared, bind_eq_ok_iff] at hnew
    obtain ⟨-, -, packed, -, hnew⟩ := hnew
    cases hnew
    exact ⟨output, hconnects.output_at, hcontinues.dtype, rfl, .inl rfl, .inr trivial⟩
  | dequantize layout =>
    obtain ⟨source, input, output, hconnects, hnew⟩ := Node.onUnary_eq_ok_iff.1 h
    rw [Dequantize.eq_of_prepared hnew]
    exact ⟨output, hconnects.output_at, .refl _ _ output⟩
  | unsortedSegmentProd =>
    obtain ⟨data, ids, count, output, hgathers, hnew⟩ := Node.onTernary_eq_ok_iff.1 h
    have hcontinues := UnsortedSegmentProd.continues_of_prepared hnew
    refine ⟨output, hgathers.output_at, ?_⟩
    obtain ⟨-, ⟨-, rfl⟩ | ⟨-, shape, -, rfl⟩⟩ := UnsortedSegmentProd.prepared_eq_ok_iff.1 hnew
    · exact ⟨hcontinues.dtype, rfl, .inr ⟨rfl, by decide, rfl⟩, .inl rfl⟩
    · exact ⟨hcontinues.dtype, rfl, .inl rfl, .inr trivial⟩

theorem permits_of_evaluated (h : op.evaluated node arena = .ok (target, new)) :
    ∃ old, arena[target]? = some old ∧ op.Permits .eval old new := by
  cases op with
  | quantize layout threshold =>
    obtain ⟨source, input, output, hconnects, hnew⟩ := Node.onUnary_eq_ok_iff.1 h
    have hcontinues := Quantize.continues_of_evaluated hnew
    rw [Quantize.eq_of_evaluated hnew] at hcontinues ⊢
    exact ⟨output, hconnects.output_at, hcontinues.dtype, rfl, .inl rfl, .inl rfl⟩
  | dequantize layout =>
    obtain ⟨source, input, output, hconnects, hnew⟩ := Node.onUnary_eq_ok_iff.1 h
    have hcontinues := Dequantize.continues_of_evaluated hnew
    rw [Dequantize.eq_of_evaluated hnew] at hcontinues ⊢
    exact ⟨output, hconnects.output_at, hcontinues.dtype, rfl, .inl rfl, .inl rfl⟩
  | unsortedSegmentProd =>
    obtain ⟨data, ids, count, output, hgathers, hnew⟩ := Node.onTernary_eq_ok_iff.1 h
    have hcontinues := UnsortedSegmentProd.continues_of_evaluated hnew
    obtain ⟨heq, hshape⟩ := UnsortedSegmentProd.eq_of_evaluated hnew
    refine ⟨output, hgathers.output_at, hcontinues.dtype, ?_, ?_, hshape⟩
    · rw [heq]
    · exact .inl (by rw [heq])

theorem permits_commit {call : Call} {x : Update} {i : Nat}
    (h : ∀ {target new}, x = .ok (target, new) →
      ∃ old, arena[target]? = some old ∧ op.Permits call old new)
    (hold : arena[i]? = some old) :
    ∃ new, (arena.commit x).2[i]? = some new ∧ op.Permits call old new := by
  rcases x with e | ⟨target, new⟩
  · exact ⟨old, hold, .refl op call old⟩
  · obtain ⟨old', hold', hpermits⟩ := h rfl
    by_cases hi : target = i
    · subst hi
      obtain rfl : old = old' := Option.some.inj (hold.symm.trans hold')
      have hlt : target < arena.length := (List.getElem?_eq_some_iff.1 hold).1
      exact ⟨new, List.getElem?_set_self hlt, hpermits⟩
    · have hsame : (arena.set target new)[i]? = some old := by rw [List.getElem?_set_ne hi, hold]
      exact ⟨old, hsame, .refl op call old⟩

theorem permits_prepare (op : Operator) (node : Node) {i : Nat} (hold : arena[i]? = some old) :
    ∃ new, (arena.commit (op.prepared node arena)).2[i]? = some new ∧ op.Permits .prepare old new :=
  permits_commit permits_of_prepared hold

theorem permits_eval (op : Operator) (node : Node) {i : Nat} (hold : arena[i]? = some old) :
    ∃ new, (arena.commit (op.evaluated node arena)).2[i]? = some new ∧ op.Permits .eval old new :=
  permits_commit permits_of_evaluated hold

/-- Every tensor is there after a call, changed at most as permitted. -/
theorem runOn_call_permits (op : Operator) (call : Call) (node : Node) {i : Nat}
    (hold : arena[i]? = some old) :
    ∃ new, (runOn (op.call call node) arena).2[i]? = some new ∧ op.Permits call old new := by
  cases call with
  | prepare =>
    rw [Operator.call, runOn_prepare]
    exact permits_prepare op node hold
  | eval =>
    rw [Operator.call, runOn_eval]
    exact permits_eval op node hold
  | invoke =>
    obtain ⟨mid, hmid, hprepare⟩ := permits_prepare op node hold
    rw [Operator.call, runOn_invoke]
    cases hprepared : op.prepared node arena with
    | error e => exact ⟨old, hold, (Permits.refl op .prepare old).invoke (.refl op .eval old)⟩
    | ok update =>
      rw [hprepared] at hmid
      obtain ⟨new, hnew, heval⟩ := permits_eval op node hmid
      refine ⟨new, ?_, hprepare.invoke heval⟩
      simp only [runOn_eval]
      exact hnew

/-! ## Footprints -/

/-- A call on any node, whatever comes of it, keeps the number of tensors and changes none of them but
the first output, and that one only as the operator permits. The outcome and the output depend on the
tensors that the node lists and on no others; an index out of range is all that they know of the number
of tensors. -/
theorem runOn_call_footprint (op : Operator) (call : Call) (node : Node) (arena : Arena) :
    (runOn (op.call call node) arena).2.length = arena.length ∧
    (∀ i : Nat, node.outputs[0]? ≠ some i →
      (runOn (op.call call node) arena).2[i]? = arena[i]?) ∧
    (∀ (i : Nat) (old : Tensor), arena[i]? = some old →
      ∃ new, (runOn (op.call call node) arena).2[i]? = some new ∧ op.Permits call old new) ∧
    ∀ other : Arena, other.AgreeOn node.indices arena →
      (runOn (op.call call node) other).1 = (runOn (op.call call node) arena).1 ∧
      ∀ i ∈ node.outputs,
        (runOn (op.call call node) other).2[i]? = (runOn (op.call call node) arena).2[i]? := by
  refine ⟨?_, fun i hi => ?_, fun i old hold => runOn_call_permits op call node hold,
    fun other hother => ?_⟩
  · rcases runOn_call_cases op call node arena with hsame | ⟨target, new, -, hset⟩
    · rw [hsame]
    · rw [hset, List.length_set]
  · rcases runOn_call_cases op call node arena with hsame | ⟨target, new, hwrites, hset⟩
    · rw [hsame]
    · have hne : target ≠ i := by
        rintro rfl
        exact hi (by rw [hwrites.outputs]; rfl)
      rw [hset, List.getElem?_set_ne hne]
  · obtain ⟨houtcome, hafter⟩ := runOn_call_congr op call hother
    exact ⟨houtcome, fun i hi => hafter i (List.mem_append_right _ hi)⟩

/-- Two rows of one, their ids and their number, which are not known before evaluation, an output, and a
tensor that no node lists. -/
def bystanderArena : Arena :=
  [{ shape := [2], data := .int32 [3, 5] }, { shape := [2], data := .int32 [0, 0] },
    { shape := [], data := .int32 [1] }, { shape := [], data := .int32 [9] },
    { shape := [1], data := .bool [true] }]

/-- The output is marked dynamic and takes a shape of one dimension; with another bystander it is the
same. -/
theorem runOn_call_footprint_bystander :
    let after := (runOn (unsortedSegmentProd.call .invoke ⟨[0, 1, 2], [3]⟩) bystanderArena).2
    let other := bystanderArena.set 4 { shape := [], data := .float32 [Binary32.one] }
    after[4]? = bystanderArena[4]? ∧
      after[3]? = some { shape := [1], data := .int32 [15], allocation := .dynamic } ∧
      (∃ new, after[3]? = some new ∧
        unsortedSegmentProd.Permits .invoke { shape := [], data := .int32 [9] } new) ∧
      (runOn (unsortedSegmentProd.call .invoke ⟨[0, 1, 2], [3]⟩) other).2[3]? = after[3]? := by
  obtain ⟨-, hframe, hpermits, hcongr⟩ :=
    runOn_call_footprint unsortedSegmentProd .invoke ⟨[0, 1, 2], [3]⟩ bystanderArena
  refine ⟨hframe 4 (by decide), by decide, hpermits 3 _ rfl, (hcongr _ ?_).2 3 (by decide)⟩
  intro i hi
  rw [List.getElem?_set_ne]
  rintro rfl
  exact absurd hi (by decide)

end Operator

/-! ## Independent nodes -/

/-- Neither node writes what the other reads or writes. -/
def Node.Independent (node₁ node₂ : Node) : Prop :=
  (∀ i ∈ node₁.outputs, i ∉ node₂.inputs ∧ i ∉ node₂.outputs) ∧
    ∀ i ∈ node₂.outputs, i ∉ node₁.inputs ∧ i ∉ node₁.outputs

instance (node₁ node₂ : Node) : Decidable (node₁.Independent node₂) :=
  inferInstanceAs (Decidable (_ ∧ _))

theorem Node.Independent.symm {node₁ node₂ : Node} (h : node₁.Independent node₂) :
    node₂.Independent node₁ :=
  ⟨h.2, h.1⟩

namespace Operator

variable {node₁ node₂ : Node}

/-- What a call leaves looks to an independent node as it did before. -/
theorem runOn_call_agreeOn (op : Operator) (call : Call) (arena : Arena)
    (h : node₁.Independent node₂) :
    (runOn (op.call call node₁) arena).2.AgreeOn node₂.indices arena := by
  intro i hi
  refine runOn_call_frame op call node₁ arena fun hout => ?_
  obtain ⟨hinputs, houtputs⟩ := h.1 i hout
  rcases List.mem_append.1 hi with hi | hi
  · exact hinputs hi
  · exact houtputs hi

/-- Two calls on independent nodes may be exchanged: each comes out as it does alone, and the arena is the
same in the end. They may both fail, and a failure may have left its mark on the output. -/
theorem runOn_call_comm (op₁ op₂ : Operator) (call₁ call₂ : Call) (arena : Arena)
    (h : node₁.Independent node₂) :
    let first := runOn (op₁.call call₁ node₁) arena
    let second := runOn (op₂.call call₂ node₂) arena
    let afterFirst := runOn (op₂.call call₂ node₂) first.2
    let afterSecond := runOn (op₁.call call₁ node₁) second.2
    afterFirst.1 = second.1 ∧ afterSecond.1 = first.1 ∧ afterFirst.2 = afterSecond.2 := by
  intro first second afterFirst afterSecond
  obtain ⟨houtcome₂, hagree₂⟩ := runOn_call_congr op₂ call₂ (runOn_call_agreeOn op₁ call₁ arena h)
  obtain ⟨houtcome₁, hagree₁⟩ := runOn_call_congr op₁ call₁ (runOn_call_agreeOn op₂ call₂ arena h.symm)
  refine ⟨houtcome₂, houtcome₁, List.ext_getElem? fun i => ?_⟩
  -- Each output is written by one of the calls, as it is alone, and left as it is by the other.
  by_cases hi₂ : i ∈ node₂.outputs
  · have hi₁ : i ∉ node₁.outputs := (h.2 i hi₂).2
    calc afterFirst.2[i]? = second.2[i]? := hagree₂ i (List.mem_append_right _ hi₂)
      _ = afterSecond.2[i]? := (runOn_call_frame op₁ call₁ node₁ second.2 hi₁).symm
  · have hskip : afterFirst.2[i]? = first.2[i]? := runOn_call_frame op₂ call₂ node₂ first.2 hi₂
    by_cases hi₁ : i ∈ node₁.outputs
    · exact hskip.trans (hagree₁ i (List.mem_append_right _ hi₁)).symm
    · calc afterFirst.2[i]? = first.2[i]? := hskip
        _ = arena[i]? := runOn_call_frame op₁ call₁ node₁ arena hi₁
        _ = second.2[i]? := (runOn_call_frame op₂ call₂ node₂ arena hi₂).symm
        _ = afterSecond.2[i]? := (runOn_call_frame op₁ call₁ node₁ second.2 hi₁).symm

/-- Two numbers that are rows for one node and words for the other, four ids for the two rows, and the
outputs of both nodes. -/
def sharedInputArena : Arena :=
  [{ shape := [2], data := .int32 [3, 5] },
    { shape := [2, 2], data := .int32 [0, 1, 0, 1], allocation := .constant },
    { shape := [], data := .int32 [2], allocation := .constant },
    { shape := [2], data := .int32 [7, 7] }, { shape := [3], data := .bool [true, true, true] }]

/-- The segment product fails with its output sized, the words are unpacked, in either order. -/
theorem runOn_call_comm_sharedInput :
    let first := runOn (unsortedSegmentProd.call .invoke ⟨[0, 1, 2], [3]⟩) sharedInputArena
    let second := runOn ((dequantize ⟨2, by decide, by decide⟩).call .invoke ⟨[0], [4]⟩)
      sharedInputArena
    let afterFirst := runOn ((dequantize ⟨2, by decide, by decide⟩).call .invoke ⟨[0], [4]⟩) first.2
    let afterSecond := runOn (unsortedSegmentProd.call .invoke ⟨[0, 1, 2], [3]⟩) second.2
    Node.Independent ⟨[0, 1, 2], [3]⟩ ⟨[0], [4]⟩ ∧ afterFirst.1 = .ok () ∧
      afterSecond.1 = .error (.bufferSize 4 2) ∧ first.2 ≠ sharedInputArena ∧
      afterFirst.2 = afterSecond.2 := by
  intro first second afterFirst afterSecond
  have hindependent : Node.Independent ⟨[0, 1, 2], [3]⟩ ⟨[0], [4]⟩ := by decide
  obtain ⟨hsecond, hfirst, harena⟩ := runOn_call_comm unsortedSegmentProd
    (dequantize ⟨2, by decide, by decide⟩) .invoke .invoke sharedInputArena hindependent
  have hok : second.1 = .ok () := by decide
  have herror : first.1 = .error (.bufferSize 4 2) := by decide
  exact ⟨hindependent, hsecond.trans hok, hfirst.trans herror, by decide, harena⟩

end Operator

end OneBit
