import OneBit.Proofs.Operator.Footprint

/-!
# Running a node twice

The output that a node finds may be the one it left. Its first step may wipe it, size it or mark it
again, but what is written then depends on the inputs alone.

* `Tensor.write_again`, `Tensor.fill_again` : elements that were written can be written again;
* `Settles` : two steps in a row that leave their own result as it is;
* `Operator.runOn_invoke_again` : after an `invoke` that succeeded, another one and an `eval` alone
  both succeed and change nothing.
-/

namespace OneBit

open Ieee

/-! ## Writing the same elements again -/

theorem overwrite_overwrite {α : Type} (old new : List α) :
    overwrite (overwrite old new) new = overwrite old new := by
  fun_induction overwrite old new with
  | case1 new => rfl
  | case2 x old => rfl
  | case3 y old x new ih => rw [overwrite, ih]

theorem TensorData.overwrite?_again {old new data : TensorData}
    (h : old.overwrite? new = some data) :
    data.overwrite? new = some data := by
  cases old <;> cases new <;> cases h <;> rw [overwrite?, overwrite_overwrite]

/-- A buffer that a call filled can be filled again. -/
theorem BufferM.Replaces.filled_again {α : Type} {call : BufferM α Unit}
    {check : Nat → Except TensorError Unit} {buffer left new : List α} (h : call.Replaces check new)
    (hcall : call.AllOrNothing buffer) (hfilled : call.filled buffer = .ok left) :
    call.filled left = .ok left := by
  have hlength := hcall.length_filled hfilled
  obtain ⟨hcheck, hleft⟩ := h.filled_eq_ok_iff.1 hfilled
  apply h.filled_eq_ok_iff.2
  rw [hlength]
  exact ⟨hcheck, hleft⟩

/-- Unpacking again into the tensor that was unpacked into makes the same tensor. -/
theorem filled_unpackInto_again {α : Type} {layout : Layout} {levels : Levels α}
    {words : List UInt32} {rows cols : Nat} {old : List α} {tensorOf : List α → Tensor} {new : Tensor}
    (h : (do return tensorOf (← (unpackInto layout levels words rows cols).filled old)) =
      Except.ok new) :
    ∃ values, new = tensorOf values ∧
      (do return tensorOf (← (unpackInto layout levels words rows cols).filled values)) =
        Except.ok new := by
  obtain ⟨values, hvalues, hnew⟩ := bind_eq_ok_iff.1 h
  have hagain := (unpackInto_replaces layout levels words rows cols).filled_again
    (unpackInto_allOrNothing layout levels words rows cols old) hvalues
  exact ⟨values, (Except.ok.inj hnew).symm, bind_eq_ok_iff.2 ⟨values, hagain, hnew⟩⟩

namespace Tensor

variable {t new : Tensor} {values : TensorData}

theorem write_again (h : t.write values = .ok new) : new.write values = .ok new := by
  unfold Tensor.write at h
  split at h
  · rename_i data hdata
    cases h
    rw [Tensor.write, TensorData.overwrite?_again hdata]
  · cases h

theorem fill_again (h : t.fill values = .ok new) : new.fill values = .ok new := by
  unfold Tensor.fill at h
  split at h
  · split at h
    · cases h
      exact fill_eq_ok rfl rfl
    · cases h
  · cases h

/-- Of what was written into a tensor that had been given a shape, giving it that shape again leaves
nothing. -/
theorem resize_again (t : Tensor) (shape : Shape) {data : TensorData} (h : data.dtype = t.dtype) :
    ({ t.resize shape with data } : Tensor).resize shape = t.resize shape := by
  show ({ t with shape, data := .zeros data.dtype shape.flatSize } : Tensor) = t.resize shape
  rw [h, resize]

end Tensor

/-! ## Two steps that settle -/

/-- Two steps, one after the other, that find nothing to change in what they left, and neither does
the second alone. -/
def Settles (f g : Tensor → Except TensorError Tensor) : Prop :=
  ∀ {output mid new : Tensor}, f output = .ok mid → g mid = .ok new →
    (∃ again, f new = .ok again ∧ g again = .ok new) ∧ g new = .ok new

namespace Quantize

variable {layout : Layout} {threshold : Binary32} {input output new : Tensor}

/-- The check looks at the type of the output and at its rank. -/
theorem checkTypes_congr (hdtype : new.dtype = output.dtype) (hrank : new.rank = output.rank) :
    checkTypes input new = checkTypes input output := by
  rw [checkTypes, checkTypes, hdtype, hrank]

theorem evaluated_again (h : evaluated layout threshold input output = .ok new) :
    evaluated layout threshold input new = .ok new := by
  have hdtype := (continues_of_evaluated h).dtype
  have hshape : new.shape = output.shape := by rw [eq_of_evaluated h]
  have hcheck : checkTypes input new = checkTypes input output :=
    checkTypes_congr hdtype (by rw [Tensor.rank, hshape, Tensor.rank])
  simp only [evaluated, bind_eq_ok_iff, guard_eq_ok_iff] at h ⊢
  obtain ⟨checked, hchecked, packed, hpacked, hsized, size, hsize, words, hwords, hwrite⟩ := h
  rw [hcheck, hshape]
  exact ⟨checked, hchecked, packed, hpacked, hsized, size, hsize, words, hwords,
    Tensor.write_again hwrite⟩

theorem settles (layout : Layout) (threshold : Binary32) (input : Tensor) :
    Settles (prepared layout input) (evaluated layout threshold input) := by
  intro output mid new hmid hnew
  have hagain := evaluated_again hnew
  refine ⟨⟨mid, ?_, hnew⟩, hagain⟩
  simp only [prepared, bind_eq_ok_iff] at hmid ⊢
  obtain ⟨checked, -, packed, hpacked, hmid⟩ := hmid
  cases hmid
  obtain ⟨again, hchecked, -⟩ := bind_eq_ok_iff.1 hagain
  have hdtype : new.dtype = output.dtype :=
    (continues_of_evaluated hnew).dtype.trans (Tensor.dtype_resize output packed)
  -- The words that were written go with the resizing, as what was there before them did.
  have hresize : new.resize packed = output.resize packed := by
    rw [eq_of_evaluated hnew]
    exact Tensor.resize_again output packed hdtype
  exact ⟨again, hchecked, packed, hpacked, by rw [hresize, pure_eq_ok]⟩

end Quantize

namespace Dequantize

variable {layout : Layout} {input output new : Tensor}

/-- The check looks at the type of the output and at its shape. -/
theorem check_congr (hdtype : new.dtype = output.dtype) (hshape : new.shape = output.shape) :
    check layout input new = check layout input output := by
  rw [check, check, hdtype, hshape]

theorem evaluated_again (h : evaluated layout input output = .ok new) :
    evaluated layout input new = .ok new := by
  have hcheck : check layout input new = check layout input output :=
    check_congr (continues_of_evaluated h).dtype (by rw [eq_of_evaluated h])
  simp only [evaluated, bind_eq_ok_iff] at h ⊢
  obtain ⟨checked, hchecked, ⟨rows, cols⟩, hsize, words, hwords, h⟩ := h
  obtain ⟨shape, data, quantization, allocation⟩ := output
  cases data with
  | float32 old =>
    obtain ⟨values, rfl, hagain⟩ := filled_unpackInto_again h
    exact ⟨checked, hcheck.trans hchecked, (rows, cols), hsize, words, hwords, hagain⟩
  | int8 old =>
    cases quantization with
    | none => cases h
    | some q =>
      obtain ⟨levels, hlevels, h⟩ := bind_eq_ok_iff.1 h
      obtain ⟨values, rfl, hagain⟩ := filled_unpackInto_again h
      exact ⟨checked, hcheck.trans hchecked, (rows, cols), hsize, words, hwords,
        bind_eq_ok_iff.2 ⟨levels, hlevels, hagain⟩⟩
  | bool old =>
    obtain ⟨values, rfl, hagain⟩ := filled_unpackInto_again h
    exact ⟨checked, hcheck.trans hchecked, (rows, cols), hsize, words, hwords, hagain⟩
  | int32 old => cases h

theorem settles (layout : Layout) (input : Tensor) :
    Settles (prepared layout input) (evaluated layout input) := by
  intro output mid new hmid hnew
  have hagain := evaluated_again hnew
  obtain ⟨checked, hchecked, -⟩ := bind_eq_ok_iff.1 hagain
  refine ⟨⟨new, ?_, hagain⟩, hagain⟩
  rw [prepared, hchecked]
  rfl

end Dequantize

namespace UnsortedSegmentProd

variable {data ids count output new : Tensor}

/-- What is left has the shape that the inputs ask for. -/
theorem outputShape_of_evaluated (h : evaluated data ids count output = .ok new) :
    outputShape data ids count = .ok new.shape := by
  simp only [evaluated, guard_eq_ok_iff, bind_eq_ok_iff] at h
  obtain ⟨-, shape, hshape, -, values, -, hfill⟩ := h
  rw [Tensor.eq_of_fill hfill, Tensor.shape_sizedTo, hshape]

theorem evaluated_again (h : evaluated data ids count output = .ok new) :
    evaluated data ids count new = .ok new := by
  have hdtype := (continues_of_evaluated h).dtype
  have hnew := outputShape_of_evaluated h
  simp only [evaluated, guard_eq_ok_iff, bind_eq_ok_iff] at h ⊢
  obtain ⟨htyped, shape, hshape, -, values, hvalues, hfill⟩ := h
  rw [hshape] at hnew
  obtain rfl : shape = new.shape := Except.ok.inj hnew
  have hsized : new.sizedTo new.shape = new := if_neg fun hne => hne rfl
  refine ⟨hdtype.symm ▸ htyped, new.shape, hshape, fun hne => hne.2 rfl, values, hvalues, ?_⟩
  rw [hsized]
  exact Tensor.fill_again hfill

theorem settles (data ids count : Tensor) :
    Settles (prepared data ids count) (evaluated data ids count) := by
  intro output mid new hmid hnew
  have hagain := evaluated_again hnew
  obtain ⟨htyped, hplanned⟩ := prepared_eq_ok_iff.1 hmid
  have hdtype : new.dtype = output.dtype :=
    (continues_of_evaluated hnew).dtype.trans (continues_of_prepared hmid).dtype
  have htyped : Typed data ids count new :=
    { htyped with output_dtype := hdtype.trans htyped.output_dtype }
  obtain ⟨heq, -⟩ := eq_of_evaluated hnew
  refine ⟨?_, hagain⟩
  rcases hplanned with ⟨hdeferred, rfl⟩ | ⟨hstatic, shape, hshape, rfl⟩
  · -- The mark that was set is still there, and the shape that was taken stays.
    have hmarked : new.setDynamic = new := by
      rw [heq]
      rfl
    exact ⟨new, prepared_eq_ok_iff.2 ⟨htyped, .inl ⟨hdeferred, hmarked.symm⟩⟩, hagain⟩
  · -- The products go with the resizing, and are computed again.
    obtain rfl : shape = new.shape :=
      Except.ok.inj (hshape.symm.trans (outputShape_of_evaluated hnew))
    have hresize : new.resize new.shape = output.resize new.shape :=
      calc new.resize new.shape
        _ = ({ output.resize new.shape with data := new.data } : Tensor).resize new.shape :=
          congrArg (Tensor.resize · new.shape) heq
        _ = output.resize new.shape := Tensor.resize_again output new.shape hdtype
    exact ⟨_, prepared_eq_ok_iff.2 ⟨htyped, .inr ⟨hstatic, _, hshape, hresize.symm⟩⟩, hnew⟩

end UnsortedSegmentProd

/-! ## Calls -/

namespace Node

variable {node : Node} {arena : Arena} {target : Nat} {mid new : Tensor}

/-- A node finds the output that it left, and its input as it was. -/
theorem onUnary_again {f g : Tensor → Tensor → Except TensorError Tensor}
    (hsettles : ∀ input, Settles (f input) (g input))
    (hf : node.onUnary f arena = .ok (target, mid))
    (hg : node.onUnary g (arena.set target mid) = .ok (target, new)) :
    (∃ again, node.onUnary f (arena.set target new) = .ok (target, again) ∧
        node.onUnary g (arena.set target again) = .ok (target, new)) ∧
      node.onUnary g (arena.set target new) = .ok (target, new) := by
  obtain ⟨source, input, output, hconnects, hmid⟩ := onUnary_eq_ok_iff.1 hf
  obtain ⟨source', input', mid', hconnects', hnew⟩ := onUnary_eq_ok_iff.1 hg
  obtain ⟨rfl, rfl⟩ := (hconnects.set mid).unique hconnects'
  have decides {h : Tensor → Tensor → Except TensorError Tensor} {t t' : Tensor}
      (ht : h input' t = .ok t') : node.onUnary h (arena.set target t) = .ok (target, t') :=
    onUnary_eq_ok_iff.2 ⟨source, input', t, hconnects.set t, ht⟩
  obtain ⟨⟨again, hfirst, hsecond⟩, halone⟩ := hsettles input' hmid hnew
  exact ⟨⟨again, decides hfirst, decides hsecond⟩, decides halone⟩

theorem onTernary_again {f g : Tensor → Tensor → Tensor → Tensor → Except TensorError Tensor}
    (hnode : node.Unaliased) (hsettles : ∀ a b c, Settles (f a b c) (g a b c))
    (hf : node.onTernary f arena = .ok (target, mid))
    (hg : node.onTernary g (arena.set target mid) = .ok (target, new)) :
    (∃ again, node.onTernary f (arena.set target new) = .ok (target, again) ∧
        node.onTernary g (arena.set target again) = .ok (target, new)) ∧
      node.onTernary g (arena.set target new) = .ok (target, new) := by
  obtain ⟨a, b, c, output, hgathers, hmid⟩ := onTernary_eq_ok_iff.1 hf
  obtain ⟨a', b', c', mid', hgathers', hnew⟩ := onTernary_eq_ok_iff.1 hg
  obtain ⟨-, rfl, rfl, rfl, rfl⟩ := (hgathers.set hnode mid).unique hgathers'
  have decides {h : Tensor → Tensor → Tensor → Tensor → Except TensorError Tensor}
      {t t' : Tensor} (ht : h a' b' c' t = .ok t') :
      node.onTernary h (arena.set target t) = .ok (target, t') :=
    onTernary_eq_ok_iff.2 ⟨a', b', c', t, hgathers.set hnode t, ht⟩
  obtain ⟨⟨again, hfirst, hsecond⟩, halone⟩ := hsettles a' b' c' hmid hnew
  exact ⟨⟨again, decides hfirst, decides hsecond⟩, decides halone⟩

end Node

namespace Operator

variable {op : Operator} {node : Node} {arena after : Arena} {target : Nat} {mid new : Tensor}

/-- The steps of an operator decide the same on what they left. -/
theorem decides_again (hnode : node.Unaliased)
    (hprepared : op.prepared node arena = .ok (target, mid))
    (hevaluated : op.evaluated node (arena.set target mid) = .ok (target, new)) :
    (∃ again, op.prepared node (arena.set target new) = .ok (target, again) ∧
        op.evaluated node (arena.set target again) = .ok (target, new)) ∧
      op.evaluated node (arena.set target new) = .ok (target, new) := by
  cases op with
  | quantize layout threshold =>
    exact Node.onUnary_again (Quantize.settles layout threshold) hprepared hevaluated
  | dequantize layout => exact Node.onUnary_again (Dequantize.settles layout) hprepared hevaluated
  | unsortedSegmentProd =>
    exact Node.onTernary_again hnode UnsortedSegmentProd.settles hprepared hevaluated

/-- On a node that does not write what it reads, an `invoke` that succeeded can be run again, and so
can `eval` alone: both succeed and leave every tensor exactly as it is, its shape, elements,
parameters and planning. -/
theorem runOn_invoke_again (hnode : node.Unaliased)
    (h : runOn (op.invoke node) arena = (.ok (), after)) :
    runOn (op.invoke node) after = (.ok (), after) ∧
      runOn (op.eval node) after = (.ok (), after) := by
  obtain ⟨target, mid, new, hprepared, hevaluated, rfl⟩ := runOn_invoke_eq_ok_iff.1 h
  obtain ⟨⟨again, hfirst, hsecond⟩, halone⟩ := decides_again hnode hprepared hevaluated
  have hset (t : Tensor) : (arena.set target new).set target t = arena.set target t :=
    List.set_set ..
  constructor
  · apply runOn_invoke_eq_ok_iff.2
    exact ⟨target, again, new, hfirst, by rw [hset, hsecond], (hset new).symm⟩
  · rw [runOn_eval, halone, Arena.commit, hset]

/-- Three rows of two, their ids and the number of segments, none of them known before evaluation,
and an output of another shape. -/
def staleArena : Arena :=
  [{ shape := [3, 2], data := .int32 [2, 3, 5, 7, 11, 13] },
    { shape := [3], data := .int32 [1, -1, 1] }, { shape := [], data := .int32 [2] },
    { shape := [3], data := .int32 [9, 9, 9] }]

/-- The first run marks the output dynamic and gives it another shape; the second finds both done.
-/
theorem runOn_invoke_again_stale :
    let after := staleArena.set 3
      { shape := [2, 2], data := .int32 [1, 1, 22, 39], allocation := .dynamic }
    Node.Unaliased ⟨[0, 1, 2], [3]⟩ ∧
      runOn (unsortedSegmentProd.invoke ⟨[0, 1, 2], [3]⟩) staleArena = (.ok (), after) ∧
      runOn (unsortedSegmentProd.invoke ⟨[0, 1, 2], [3]⟩) after = (.ok (), after) ∧
      runOn (unsortedSegmentProd.eval ⟨[0, 1, 2], [3]⟩) after = (.ok (), after) := by
  intro after
  have hnode : Node.Unaliased ⟨[0, 1, 2], [3]⟩ := by decide
  have hrun : runOn (unsortedSegmentProd.invoke ⟨[0, 1, 2], [3]⟩) staleArena = (.ok (), after) := by
    decide
  exact ⟨hnode, hrun, runOn_invoke_again hnode hrun⟩

end Operator

end OneBit
