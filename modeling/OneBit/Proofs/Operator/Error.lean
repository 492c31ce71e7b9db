import OneBit.Proofs.Error
import OneBit.Proofs.Operator.Call

/-!
# How calls of operators fail

`Operator.raises_call` : a call fails with an accurate error, because of a tensor on both sides of
its node, because a tensor has another number of elements than its shape counts, because its output
would have more of them than 64 bits count, or because of two tensors without dimensions. Nothing
else stops a call, so on well-formed tensors none does while its output fits
(`Operator.call_ne_outOfBounds`).
-/

namespace OneBit

open Ieee

open TensorError (Accurate)

variable {α : Type} {kind : TensorError → Prop}

theorem raises_elementAt {xs : List α} {i : Nat} (h : i < xs.length) :
    Raises kind (elementAt xs i) := by
  rw [elementAt_eq_ok h]
  exact .ok _

/-! ## Nodes -/

namespace Node

variable {node : Node} {arena : Arena}

theorem raises_expectArity (node : Node) (inputs outputs : Nat) :
    Raises Accurate (node.expectArity inputs outputs) := by
  refine .guard (fun h => Ne.symm h) fun _ => ?_
  split
  · exact .error (Ne.symm ‹_›)
  · exact .ok ()

theorem expectArity_eq_ok {inputs outputs : Nat} (h : node.expectArity inputs outputs = .ok ()) :
    node.inputs.length = inputs ∧ node.outputs.length = outputs := by
  simp only [expectArity, guard_eq_ok_iff, not_not] at h
  split at h
  · cases h.2
  · exact ⟨h.1, not_not.1 ‹_›⟩

theorem raises_unary (node : Node) : Raises Accurate node.unary := by
  refine .bind (raises_expectArity node 1 1) fun _ h => ?_
  obtain ⟨hin, hout⟩ := expectArity_eq_ok h
  refine .bind (raises_elementAt (by omega)) fun _ _ => ?_
  exact .bind (raises_elementAt (by omega)) fun _ _ => .ok _

theorem raises_ternary (node : Node) : Raises Accurate node.ternary := by
  refine .bind (raises_expectArity node 3 1) fun _ h => ?_
  obtain ⟨hin, hout⟩ := expectArity_eq_ok h
  refine .bind (raises_elementAt (by omega)) fun _ _ => ?_
  refine .bind (raises_elementAt (by omega)) fun _ _ => ?_
  refine .bind (raises_elementAt (by omega)) fun _ _ => ?_
  exact .bind (raises_elementAt (by omega)) fun _ _ => .ok _

theorem raises_tensor (arena : Arena) (i : Nat) : Raises Accurate (arena.tensor i) := by
  unfold Arena.tensor
  split
  · exact .ok _
  · exact .error trivial

/-- A node of one input and one output can also name one tensor twice. -/
theorem raises_onUnary {f : Tensor → Tensor → Except TensorError Tensor}
    (accurate : ∀ e, e.Accurate → kind e) (aliased : ∀ i, kind (.aliasedTensor i))
    (hf : ∀ {source target input output},
      node.Connects arena source target input output → Raises kind (f input output)) :
    Raises kind (node.onUnary f arena) := by
  refine .bind ((raises_unary node).mono accurate) fun (source, target) hnode => ?_
  obtain ⟨hin, hout⟩ := unary_eq_ok_iff.1 hnode
  have hread : Raises kind (arena.pair source target) := by
    refine .bind ((raises_tensor arena source).mono accurate) fun _ _ => ?_
    refine .bind ((raises_tensor arena target).mono accurate) fun _ _ => ?_
    exact .guard (fun _ => aliased target) fun _ => .ok _
  refine .bind hread fun (input, output) hpair => ?_
  obtain ⟨hinput, houtput, hne⟩ := Arena.pair_eq_ok_iff.1 hpair
  exact .bind (hf ⟨hin, hout, hinput, houtput, hne⟩) fun _ _ => .ok _

theorem raises_gather (node : Node) (arena : Arena) : Raises Accurate (node.gather arena) := by
  refine .bind (raises_ternary node) fun ((first, second, third), target) _ => ?_
  refine .bind (raises_tensor arena first) fun _ _ => .bind (raises_tensor arena second) fun _ _ => ?_
  refine .bind (raises_tensor arena third) fun _ _ => ?_
  exact .bind (raises_tensor arena target) fun _ _ => .ok _

theorem raises_onTernary {f : Tensor → Tensor → Tensor → Tensor → Except TensorError Tensor}
    (accurate : ∀ e, e.Accurate → kind e)
    (hf : ∀ {target a b c output},
      node.Gathers arena target a b c output → Raises kind (f a b c output)) :
    Raises kind (node.onTernary f arena) := by
  rw [onTernary_eq_gather]
  refine .bind ((raises_gather node arena).mono accurate) fun (target, a, b, c, output) hgather => ?_
  exact .bind (hf (gather_eq_ok_iff.1 hgather)) fun _ _ => .ok _

end Node

theorem Tensor.raises_int32s (t : Tensor) : Raises Accurate t.int32s := by
  unfold Tensor.int32s
  split
  · exact .ok _
  · exact .error trivial

/-! ## Quantizing and dequantizing -/

namespace Operator

/-- The types that an operator of one input converts between. -/
def Converts : Operator → DType → DType → Prop
  | quantize _ _, input, output => input.isBinarizable ∧ output = .int32
  | dequantize _, input, output => input = .int32 ∧ output.isBinarizable
  | unsortedSegmentProd, _, _ => False

/-- Two tensors of types that the operator converts between, neither with a dimension. -/
structure TakesScalars (op : Operator) (input output : Tensor) : Prop where
  converts : op.Converts input.dtype output.dtype
  input_shape : input.shape = []
  output_shape : output.shape = []

/-- A node between two such tensors. -/
def MeetsScalars (op : Operator) (node : Node) (arena : Arena) : Prop :=
  ∃ source target input output, node.Connects arena source target input output ∧
    op.TakesScalars input output

end Operator

namespace Quantize

variable {layout : Layout} {threshold : Binary32} {input output : Tensor}

theorem raises_checkTypes (accurate : ∀ e, e.Accurate → kind e)
    (scalars : (Operator.quantize layout threshold).TakesScalars input output →
      kind (.rankMismatch 0 0)) : Raises kind (checkTypes input output) := by
  refine .guard (fun _ => accurate _ trivial) fun hinput => ?_
  refine .guard (fun _ => accurate _ trivial) fun houtput => ?_
  split
  · rename_i hrank
    have hconverts : (Operator.quantize layout threshold).Converts input.dtype output.dtype :=
      ⟨by simpa using hinput, not_not.1 houtput⟩
    exact .error (kind_rankMismatch accurate (fun h h' => scalars ⟨hconverts, h, h'⟩)
      (hrank.imp_left List.length_eq_zero_iff.1))
  · exact .ok ()

theorem raises_prepared (accurate : ∀ e, e.Accurate → kind e)
    (scalars : (Operator.quantize layout threshold).TakesScalars input output →
      kind (.rankMismatch 0 0)) : Raises kind (prepared layout input output) :=
  .bind (raises_checkTypes accurate scalars) fun _ _ =>
    .bind ((layout.raises_packedShape _).mono accurate) fun _ _ => .ok _

theorem raises_words (layout : Layout) (threshold : Binary32) (input : Tensor) (rows cols : Nat) :
    Raises Accurate (words layout threshold input rows cols) := by
  unfold words
  split
  · exact raises_pack _ _ _ _ _
  · exact raises_pack _ _ _ _ _
  · exact raises_pack _ _ _ _ _
  · exact .error trivial

theorem raises_evaluated (accurate : ∀ e, e.Accurate → kind e)
    (scalars : (Operator.quantize layout threshold).TakesScalars input output →
      kind (.rankMismatch 0 0)) : Raises kind (evaluated layout threshold input output) := by
  refine .bind (raises_checkTypes accurate scalars) fun _ _ => ?_
  refine .bind ((layout.raises_packedShape _).mono accurate) fun packed _ => ?_
  refine .guard (fun h => accurate _ (Ne.symm h)) fun _ => ?_
  refine .bind ((Shape.raises_rowsCols _).mono accurate) fun (rows, cols) _ => ?_
  refine .bind ((raises_words layout threshold input rows cols).mono accurate) fun words _ => ?_
  unfold Tensor.write
  split
  · exact .ok _
  · exact .error (accurate _ trivial)

end Quantize

namespace Dequantize

variable {layout : Layout} {input output : Tensor}

theorem raises_check (accurate : ∀ e, e.Accurate → kind e)
    (scalars : (Operator.dequantize layout).TakesScalars input output → kind (.rankMismatch 0 0)) :
    Raises kind (check layout input output) := by
  refine .guard (fun _ => accurate _ trivial) fun hinput => ?_
  refine .guard (fun _ => accurate _ trivial) fun houtput => ?_
  have hconverts : (Operator.dequantize layout).Converts input.dtype output.dtype :=
    ⟨not_not.1 hinput, by simpa using houtput⟩
  exact layout.raises_checkUnpacked accurate fun h h' => scalars ⟨hconverts, h, h'⟩

theorem raises_evaluated (accurate : ∀ e, e.Accurate → kind e)
    (scalars : (Operator.dequantize layout).TakesScalars input output → kind (.rankMismatch 0 0)) :
    Raises kind (evaluated layout input output) := by
  have unpacked {α : Type} (levels : Levels α) (words : List UInt32) (rows cols : Nat)
      (values : List α) : Raises kind ((unpackInto layout levels words rows cols).filled values) :=
    BufferM.raises_filled ((raises_unpackInto layout levels words rows cols values).mono accurate)
  refine .bind (raises_check accurate scalars) fun _ _ => ?_
  refine .bind ((Shape.raises_rowsCols _).mono accurate) fun (rows, cols) _ => ?_
  refine .bind (input.raises_int32s.mono accurate) fun words _ => ?_
  split
  · exact .bind (unpacked _ _ _ _ _) fun _ _ => .ok _
  · split
    · refine .bind ?_ fun _ _ => .bind (unpacked _ _ _ _ _) fun _ _ => .ok _
      unfold Levels.int8
      split
      · exact .ok _
      · exact .error (accurate _ trivial)
    · exact .error (accurate _ trivial)
  · exact .bind (unpacked _ _ _ _ _) fun _ _ => .ok _
  · exact .error (accurate _ trivial)

end Dequantize

/-! ## Products by segment -/

namespace UnsortedSegmentProd

variable {data ids count output : Tensor}

/-- The one number of a tensor that is a scalar or a list of one is there. -/
theorem raises_segmentCount (accurate : ∀ e, e.Accurate → kind e)
    (malformed : ¬count.WellFormed → ∀ length index, kind (.outOfBounds length index)) :
    Raises kind (segmentCount count) := by
  rw [segmentCount, isSingle_eq_ok]
  refine .guard (fun _ => accurate _ trivial) fun hsingle => ?_
  refine .bind (count.raises_int32s.mono accurate) fun values hvalues => ?_
  refine .bind ?_ fun n _ => .guard (fun _ => accurate _ trivial) fun _ => .ok n
  by_cases wf : count.WellFormed
  · have hsize : values.length = 1 := by
      rw [Tensor.WellFormed, Tensor.int32s_eq_ok_iff.1 hvalues] at wf
      have hshape : count.shape = [] ∨ count.shape = [1] :=
        Decidable.or_iff_not_imp_left.2 (by simpa using hsingle)
      refine wf.trans ?_
      rcases hshape with h | h <;> rw [h] <;> rfl
    exact raises_elementAt (by omega)
  · unfold elementAt
    split
    · exact .ok _
    · exact .error (malformed wf _ _)

theorem raises_outputShape (accurate : ∀ e, e.Accurate → kind e)
    (malformed : ¬count.WellFormed → ∀ length index, kind (.outOfBounds length index)) :
    Raises kind (outputShape data ids count) := by
  rw [outputShape_eq]
  refine .bind (raises_segmentCount accurate malformed) fun n _ => ?_
  split
  · rename_i rows rowShape found rest _ hids
    refine .guard (fun hne => accurate _ fun heq => ?_) fun _ => ?_
    · rw [hids] at heq
      exact hne (List.cons.inj heq).1.symm
    · refine .bind (ids.raises_int32s.mono accurate) fun values _ => ?_
      exact .guard (fun hle => accurate _ hle) fun _ => .ok _
  · exact .error (accurate _ nofun)

theorem raises_prepared (accurate : ∀ e, e.Accurate → kind e)
    (malformed : ¬count.WellFormed → ∀ length index, kind (.outOfBounds length index)) :
    Raises kind (prepared data ids count output) := by
  refine .guard (fun _ => accurate _ trivial) fun _ => .guard (fun _ => accurate _ trivial) fun _ => ?_
  refine .guard (fun _ => accurate _ trivial) fun _ => .guard (fun _ => accurate _ trivial) fun _ => ?_
  split
  · exact .ok _
  · exact .bind (raises_outputShape accurate malformed) fun shape _ => .ok _

theorem raises_segmentProducts (accurate : ∀ e, e.Accurate → kind e)
    (hshape : outputShape data ids count = .ok shape)
    (oversized : ¬shape.elementCount < sizeLimit → ∀ length index, kind (.outOfBounds length index)) :
    Raises kind (segmentProducts data ids shape) := by
  obtain ⟨n, hshaped, rfl⟩ := outputShape_eq_ok_iff.1 hshape
  obtain ⟨rows, rowShape, hdata⟩ := List.exists_cons_of_length_pos hshaped.data_rank
  rw [hdata, List.tail_cons] at oversized ⊢
  have room : Raises kind (roomFor n (Shape.flatSize rowShape)) := by
    by_cases fits : Shape.elementCount (n :: rowShape) < sizeLimit
    · rw [roomFor_eq_ok_iff.2 ⟨Shape.mul_flatSize_lt fits, rfl⟩]
      exact .ok _
    · unfold roomFor
      split
      · exact .ok _
      · exact .error (oversized fits _ _)
  have products {α : Type} (factor : Factor α) (values : List α) (ids : List Int32) :
      Raises kind (products factor values (Shape.flatSize rowShape) ids n) :=
    .bind room fun _ _ =>
      BufferM.raises_filled ((OneBit.raises_segmentProduct _ _ _ _ _ _).mono accurate)
  have hids := ids.raises_int32s.mono accurate
  unfold segmentProducts
  rw [hdata]
  simp only
  split
  · exact .bind hids fun _ _ => .bind (products _ _ _) fun _ _ => .ok _
  · exact .bind hids fun _ _ => .bind (products _ _ _) fun _ _ => .ok _
  · exact .error (accurate _ trivial)

/-- The products fill the output, so that all of them are copied. -/
theorem raises_evaluated (accurate : ∀ e, e.Accurate → kind e)
    (malformed : ¬(count.WellFormed ∧ output.WellFormed) →
      ∀ length index, kind (.outOfBounds length index))
    (oversized : ∀ shape, outputShape data ids count = .ok shape →
      ¬shape.elementCount < sizeLimit → ∀ length index, kind (.outOfBounds length index)) :
    Raises kind (evaluated data ids count output) := by
  refine .guard (fun _ => accurate _ trivial) fun _ => ?_
  refine .bind (raises_outputShape accurate fun h => malformed fun h' => h h'.1) fun shape hshape => ?_
  refine .guard (fun h => accurate _ (Ne.symm h.2)) fun _ => ?_
  refine .bind (raises_segmentProducts accurate hshape (oversized shape hshape)) fun values hvalues => ?_
  unfold Tensor.fill
  split
  · split
    · exact .ok _
    · rename_i hsize
      refine .error (malformed (fun h => hsize ?_) _ _)
      rw [Tensor.size, (Tensor.Continues.sizedTo output shape).wellFormed h.2, Tensor.shape_sizedTo,
        (segmentProducts_eq_ok hshape hvalues).2]
  · exact .error (accurate _ trivial)

/-- An output that fits before it is prepared fits after: the shape is another only when the output
lies over the count, and then it has no rows. -/
theorem elementCount_lt_of_prepared {target target' : Nat} {node : Node} {arena : Arena}
    {new data' ids' count' output' : Tensor} {shape : Shape}
    (hgathers : node.Gathers arena target data ids count output)
    (hnew : prepared data ids count output = .ok new)
    (hgathers' : node.Gathers (arena.set target new) target' data' ids' count' output')
    (fits : ∀ shape, outputShape data ids count = .ok shape → shape.elementCount < sizeLimit)
    (hshape : outputShape data' ids' count' = .ok shape) : shape.elementCount < sizeLimit := by
  obtain ⟨hdata, hids, hcount⟩ := hgathers.of_set hgathers'
  obtain ⟨-, ⟨-, rfl⟩ | ⟨-, sized, hsized, rfl⟩⟩ := prepared_eq_ok_iff.1 hnew
  · -- The mark that a shape is open is not looked at.
    rcases hdata with rfl | ⟨rfl, rfl⟩ <;> rcases hids with rfl | ⟨rfl, rfl⟩ <;>
      rcases hcount with rfl | ⟨rfl, rfl⟩ <;> exact fits shape hshape
  · obtain ⟨n, hshaped, rfl⟩ := outputShape_eq_ok_iff.1 hshape
    obtain ⟨m, hshaped', rfl⟩ := outputShape_eq_ok_iff.1 hsized
    have htail : data'.shape.tail = data.shape.tail := by
      rcases hdata with rfl | ⟨rfl, rfl⟩
      · rfl
      · rfl
    obtain ⟨values, hvalues, hn⟩ := hshaped.count_value
    rcases hcount with rfl | ⟨rfl, rfl⟩
    · obtain ⟨values', hvalues', hm⟩ := hshaped'.count_value
      obtain rfl : values = values' := by simpa using hvalues.symm.trans hvalues'
      obtain rfl : n = m := by simpa using hn.symm.trans hm
      exact htail ▸ fits _ hsized
    · -- The count was overwritten with zeros.
      have hzero : n = 0 := by
        have hzeros : TensorData.zeros count.dtype _ = .int32 values := hvalues
        cases hdtype : count.dtype <;> rw [hdtype] at hzeros <;> cases hzeros
        obtain ⟨v, hv, hvn⟩ := Option.map_eq_some_iff.1 hn
        obtain rfl : v = 0 := List.eq_of_mem_replicate (List.mem_of_getElem? hv)
        simpa using hvn.symm
      rw [hzero, Shape.elementCount_cons, Nat.zero_mul]
      decide

end UnsortedSegmentProd

/-! ## Calls -/

/-- 64 bits count the elements of the output, if it is a segment product that the node asks for. -/
def Operator.OutputFits (op : Operator) (node : Node) (arena : Arena) : Prop :=
  op = .unsortedSegmentProd → ∀ target data ids count output shape,
    node.Gathers arena target data ids count output →
      UnsortedSegmentProd.outputShape data ids count = .ok shape → shape.elementCount < sizeLimit

/-- How a call of an operator on a node fails. -/
inductive Operator.Failure (op : Operator) (node : Node) (arena : Arena) : TensorError → Prop
  | accurate {e : TensorError} (h : e.Accurate) : Failure op node arena e
  /-- A tensor on both sides of the node, for which a segment product does not look. -/
  | aliased {i : Nat} (h : op ≠ .unsortedSegmentProd) : Failure op node arena (.aliasedTensor i)
  /-- A tensor does not have as many elements as its shape counts. -/
  | malformed {length index : Nat} (h : ∃ t ∈ arena, ¬t.WellFormed) :
    Failure op node arena (.outOfBounds length index)
  /-- No buffer is as large as the output would be. -/
  | oversized {length index : Nat} (h : ¬op.OutputFits node arena) :
    Failure op node arena (.outOfBounds length index)
  /-- Neither tensor has the dimension that is asked for. -/
  | scalars (h : op.MeetsScalars node arena) : Failure op node arena (.rankMismatch 0 0)

namespace Operator

variable {op : Operator} {node : Node} {arena : Arena}

theorem raises_prepared (op : Operator) (node : Node) (arena : Arena) :
    Raises (op.Failure node arena) (op.prepared node arena) := by
  cases op with
  | quantize layout threshold =>
    refine Node.raises_onUnary (fun _ => .accurate) (fun _ => .aliased nofun) fun hconnects => ?_
    exact Quantize.raises_prepared (fun _ => .accurate) fun h => .scalars ⟨_, _, _, _, hconnects, h⟩
  | dequantize layout =>
    refine Node.raises_onUnary (fun _ => .accurate) (fun _ => .aliased nofun) fun hconnects => ?_
    refine .bind ?_ fun _ _ => .ok _
    exact Dequantize.raises_check (fun _ => .accurate) fun h => .scalars ⟨_, _, _, _, hconnects, h⟩
  | unsortedSegmentProd =>
    refine Node.raises_onTernary (fun _ => .accurate) fun hgathers => ?_
    exact UnsortedSegmentProd.raises_prepared (fun _ => .accurate) fun h _ _ =>
      .malformed ⟨_, hgathers.mem.2.2, h⟩

theorem raises_evaluated (op : Operator) (node : Node) (arena : Arena) :
    Raises (op.Failure node arena) (op.evaluated node arena) := by
  cases op with
  | quantize layout threshold =>
    refine Node.raises_onUnary (fun _ => .accurate) (fun _ => .aliased nofun) fun hconnects => ?_
    exact Quantize.raises_evaluated (fun _ => .accurate) fun h => .scalars ⟨_, _, _, _, hconnects, h⟩
  | dequantize layout =>
    refine Node.raises_onUnary (fun _ => .accurate) (fun _ => .aliased nofun) fun hconnects => ?_
    exact Dequantize.raises_evaluated (fun _ => .accurate) fun h =>
      .scalars ⟨_, _, _, _, hconnects, h⟩
  | unsortedSegmentProd =>
    refine Node.raises_onTernary (fun _ => .accurate) fun {target data ids count output} hgathers => ?_
    refine UnsortedSegmentProd.raises_evaluated (fun _ => .accurate) (fun h _ _ => .malformed ?_)
      fun shape hshape h _ _ => .oversized fun hfits => ?_
    · by_cases wf : count.WellFormed
      · exact ⟨output, List.mem_of_getElem? hgathers.output_at, fun h' => h ⟨wf, h'⟩⟩
      · exact ⟨count, hgathers.mem.2.2, wf⟩
    · exact h (hfits rfl target data ids count output shape hgathers hshape)

/-- Carrying out a decision raises no other error. -/
theorem raises_commit {kind : TensorError → Prop} {x : Update} (hx : Raises kind x) :
    Raises kind (arena.commit x).1 := by
  cases x with
  | ok update => exact .ok ()
  | error e => exact .error (hx e rfl)

theorem raises_prepare (op : Operator) (node : Node) (arena : Arena) :
    Raises (op.Failure node arena) (runOn (op.prepare node) arena).1 := by
  rw [runOn_prepare]
  exact raises_commit (raises_prepared op node arena)

theorem raises_eval (op : Operator) (node : Node) (arena : Arena) :
    Raises (op.Failure node arena) (runOn (op.eval node) arena).1 := by
  rw [runOn_eval]
  exact raises_commit (raises_evaluated op node arena)

/-- A node that was prepared has dimensions on both sides. -/
theorem not_meetsScalars_of_prepared {target : Nat} {new : Tensor}
    (h : op.prepared node arena = .ok (target, new)) :
    ¬op.MeetsScalars node (arena.set target new) := by
  rintro ⟨_, _, _, _, hconnects', hscalars⟩
  cases op with
  | quantize layout threshold =>
    obtain ⟨source, input, output, hconnects, hnew⟩ := Node.onUnary_eq_ok_iff.1 h
    obtain ⟨_, hcheck, -⟩ := bind_eq_ok_iff.1 hnew
    obtain ⟨-, -, hshape, -⟩ := Quantize.checkTypes_eq_ok_iff.1 hcheck
    obtain ⟨rfl, -⟩ := (hconnects.set new).unique hconnects'
    exact hshape hscalars.input_shape
  | dequantize layout =>
    obtain ⟨source, input, output, hconnects, hnew⟩ := Node.onUnary_eq_ok_iff.1 h
    obtain ⟨_, hcheck, -⟩ := bind_eq_ok_iff.1 hnew
    obtain ⟨-, -, hshape, -⟩ := Dequantize.check_eq_ok_iff.1 hcheck
    obtain ⟨-, rfl⟩ := (hconnects.set new).unique hconnects'
    rw [Dequantize.eq_of_prepared hnew] at hscalars
    exact hshape hscalars.output_shape
  | unsortedSegmentProd => exact hscalars.converts

/-- One shape is asked about, that of the tensors the node names. -/
theorem OutputFits.of_gathers {target : Nat} {data ids count output : Tensor} {shape : Shape}
    (hgathers : node.Gathers arena target data ids count output)
    (hshape : UnsortedSegmentProd.outputShape data ids count = .ok shape)
    (fits : shape.elementCount < sizeLimit) : op.OutputFits node arena := by
  intro _ target' data' ids' count' output' shape' hgathers' hshape'
  obtain ⟨rfl, rfl, rfl, rfl, rfl⟩ := hgathers.unique hgathers'
  obtain rfl : shape = shape' := Except.ok.inj (hshape.symm.trans hshape')
  exact fits

theorem OutputFits.of_prepared {target : Nat} {new : Tensor} (h : op.OutputFits node arena)
    (hprepared : op.prepared node arena = .ok (target, new)) :
    op.OutputFits node (arena.set target new) := by
  rintro rfl target' data' ids' count' output' shape hgathers' hshape
  obtain ⟨data, ids, count, output, hgathers, hnew⟩ := Node.onTernary_eq_ok_iff.1 hprepared
  exact UnsortedSegmentProd.elementCount_lt_of_prepared hgathers hnew hgathers'
    (fun shape => h rfl target data ids count output shape hgathers) hshape

/-- What fails after the first step would have failed before. -/
theorem Failure.of_prepared {target : Nat} {new : Tensor} {e : TensorError}
    (hprepared : op.prepared node arena = .ok (target, new))
    (h : op.Failure node (arena.set target new) e) : op.Failure node arena e := by
  cases h with
  | accurate h => exact .accurate h
  | aliased h => exact .aliased h
  | malformed h =>
    obtain ⟨t, ht, hmalformed⟩ := h
    obtain ⟨old, hold, hcontinues⟩ := (writes_of_prepared hprepared).continues
    rcases List.mem_or_eq_of_mem_set ht with ht | rfl
    · exact .malformed ⟨t, ht, hmalformed⟩
    · exact .malformed ⟨old, List.mem_of_getElem? hold, hmalformed ∘ hcontinues.wellFormed⟩
  | oversized h => exact .oversized fun hfits => h (hfits.of_prepared hprepared)
  | scalars h => exact absurd h (not_meetsScalars_of_prepared hprepared)

theorem raises_call (op : Operator) (call : Call) (node : Node) (arena : Arena) :
    Raises (op.Failure node arena) (runOn (op.call call node) arena).1 := by
  cases call with
  | prepare => exact raises_prepare op node arena
  | eval => exact raises_eval op node arena
  | invoke =>
    rw [Operator.call, runOn_invoke]
    cases hprepared : op.prepared node arena with
    | error e => exact .error (raises_prepared op node arena e hprepared)
    | ok update =>
      obtain ⟨target, new⟩ := update
      exact (raises_eval op node (arena.set target new)).mono fun _ => .of_prepared hprepared

/-- On tensors with as many elements as their shapes count, no call on any node stops: none reads,
cuts, copies or shifts out of range, and none cuts into pieces of length zero. Tensors in memory have
64-bit sizes, and the output of a segment product is to have one too. -/
theorem call_ne_outOfBounds (op : Operator) (call : Call) (node : Node)
    (harena : ∀ t ∈ arena, t.WellFormed) (hfits : op.OutputFits node arena) (length index : Nat) :
    (runOn (op.call call node) arena).1 ≠ .error (.outOfBounds length index) := by
  intro hrun
  cases raises_call op call node arena _ hrun with
  | accurate h => exact h
  | malformed h =>
    obtain ⟨t, ht, hmalformed⟩ := h
    exact hmalformed (harena t ht)
  | oversized h => exact h hfits

/-- Two rows of no elements, ids in two dimensions with a negative one among them, an output that was
sized for another count, and words for no columns. -/
def recountedArena : Arena :=
  [{ shape := [2, 0], data := .int32 [] },
    { shape := [2, 2], data := .int32 [0, -1, 1, 2], allocation := .constant },
    { shape := [1], data := .int32 [3], allocation := .constant },
    { shape := [2, 0], data := .int32 [], allocation := .dynamic },
    { shape := [2, 0], data := .bool [] }]

theorem call_ne_outOfBounds_recounted :
    (∀ t ∈ recountedArena, t.WellFormed) ∧
      unsortedSegmentProd.OutputFits ⟨[0, 1, 2], [3]⟩ recountedArena ∧
      (runOn (unsortedSegmentProd.call .eval ⟨[0, 1, 2], [3]⟩) recountedArena).1 ≠
        .error (.outOfBounds 0 0) ∧
      (runOn ((quantize .full Binary32.zero).call .invoke ⟨[4], [3]⟩) recountedArena).1 ≠
        .error (.outOfBounds 0 0) ∧
      (runOn ((dequantize .full).call .invoke ⟨[3], [4]⟩) recountedArena).1 ≠
        .error (.outOfBounds 0 0) := by
  have harena : ∀ t ∈ recountedArena, t.WellFormed := by decide
  have hfits : unsortedSegmentProd.OutputFits ⟨[0, 1, 2], [3]⟩ recountedArena :=
    .of_gathers ⟨rfl, rfl, rfl⟩ rfl (by decide)
  exact ⟨harena, hfits, call_ne_outOfBounds unsortedSegmentProd .eval _ harena hfits 0 0,
    call_ne_outOfBounds (quantize .full Binary32.zero) .invoke _ harena nofun 0 0,
    call_ne_outOfBounds (dequantize .full) .invoke _ harena nofun 0 0⟩

/-- A count without its number is read out of range. -/
example : (runOn (unsortedSegmentProd.eval ⟨[0, 1, 2], [3]⟩)
    (recountedArena.set 2 { shape := [], data := .int32 [] })).1 = .error (.outOfBounds 0 0) := by
  decide

/-- A product of no rows that would have 2⁷⁰ elements stops. -/
example : (runOn (unsortedSegmentProd.eval ⟨[0, 1, 2], [3]⟩)
    [{ shape := [0, 2 ^ 40], data := .int32 [] }, { shape := [0], data := .int32 [] },
      { shape := [], data := .int32 [1073741824] },
      { shape := [0, 0], data := .int32 [], allocation := .dynamic }]).1 =
      .error (.outOfBounds sizeLimit (2 ^ 70)) := by
  decide

end Operator

end OneBit
