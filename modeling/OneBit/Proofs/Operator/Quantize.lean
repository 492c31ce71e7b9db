import OneBit.Operator
import OneBit.Proofs.Operator.Bits
import OneBit.Proofs.Update

/-!
# What quantizing writes

On a node whose tensors pass the type check, quantizing succeeds and leaves exactly the packed words
of the input in the output, in the packed shape: `Quantize.runOn_invoke`.

On any node at all, each step is the single update that `Quantize.prepared` or `Quantize.evaluated`
decides.
-/

namespace OneBit

open Ieee

namespace Quantize

variable {layout : Layout} {threshold : Binary32} {node : Node} {arena : Arena}
  {source target : Nat} {input output : Tensor}

theorem words_eq_ok (wf : input.WellFormed) (dense : input.dtype.isBinarizable)
    (rank : input.shape ≠ []) (fits : input.shape.elementCount < sizeLimit) :
    words layout threshold input input.shape.rows input.shape.cols =
      .ok (input.packedWords layout threshold) := by
  have hlen := Tensor.length_data_eq_rows_mul_cols wf rank fits
  rw [Shape.elementCount_eq_rows_mul_cols rank fits] at fits
  unfold Tensor.dtype TensorData.dtype at dense
  unfold TensorData.length at hlen
  unfold words Tensor.packedWords Tensor.bits Tensor.zeroPoint
  cases h : input.data with
  | float32 values => simp only [h] at hlen ⊢; rw [pack_eq_ok _ _ fits hlen, packRows_map]
  | int8 values => simp only [h] at hlen ⊢; rw [pack_eq_ok _ _ fits hlen, packRows_map]
  | bool values => simp only [h] at hlen ⊢; rw [pack_eq_ok _ _ fits hlen, packRows_map]
  | int32 values => simp [h, DType.isBinarizable] at dense

/-! ## Running a node -/

theorem checkTypes_eq_ok_iff : checkTypes input output = .ok () ↔
    input.dtype.isBinarizable ∧ output.dtype = .int32 ∧ input.shape ≠ [] ∧
      input.rank = output.rank := by
  unfold checkTypes Tensor.rank
  rw [← List.length_pos_iff]
  by_cases h1 : input.dtype.isBinarizable <;> by_cases h2 : output.dtype = .int32 <;>
    simp [h1, h2]
  intro _
  exact List.length_pos_iff.symm

theorem runOn_prepare (h : node.Connects arena source target input output)
    (ok : checkTypes input output = .ok ()) :
    runOn (prepare layout node) arena =
      (.ok (), arena.set target (output.resize (layout.packed input.shape))) := by
  obtain ⟨-, -, rank, -⟩ := checkTypes_eq_ok_iff.1 ok
  simp only [prepare, runOn_bind, runOn_lift, h.unary, h.runOn_inputOutput, ok,
    layout.packedShape_eq_ok rank, Step.runOn_replace]

/-- The output of a successful run. -/
def written (layout : Layout) (threshold : Binary32) (input output : Tensor) : Tensor :=
  { output with
    shape := layout.packed input.shape
    data := .int32 ((input.packedWords layout threshold).map UInt32.toInt32) }

theorem runOn_eval (h : node.Connects arena source target input output)
    (ok : checkTypes input output = .ok ()) (sized : output.shape = layout.packed input.shape)
    (wfIn : input.WellFormed) (wfOut : output.WellFormed)
    (fits : input.shape.elementCount < sizeLimit) :
    runOn (eval layout threshold node) arena =
      (.ok (), arena.set target (written layout threshold input output)) := by
  obtain ⟨dense, int32, rank, -⟩ := checkTypes_eq_ok_iff.1 ok
  have hwrite : output.write (.int32 ((input.packedWords layout threshold).map UInt32.toInt32)) =
      .ok (written layout threshold input output) := by
    obtain ⟨old, hdata⟩ := Tensor.exists_int32_of_dtype int32
    have hold : old.length = ((input.packedWords layout threshold).map UInt32.toInt32).length := by
      rw [List.length_map, Tensor.length_packedWords,
        ← Tensor.length_data_packed wfOut sized rank fits, hdata]
      rfl
    simp only [Tensor.write, hdata, TensorData.overwrite?, overwrite_eq_new hold, written, ← sized]
  simp only [eval, runOn_bind, runOn_lift, h.unary, h.runOn_inputOutput, ok,
    layout.packedShape_eq_ok rank, sized, ne_eq, not_true_eq_false, if_false,
    Shape.rowsCols_eq_ok rank, words_eq_ok wfIn dense rank fits, hwrite, Step.runOn_replace]

/-- Quantizing succeeds on every node whose tensors pass the type check, and writes the packed words
over whatever the output held. -/
theorem runOn_invoke (h : node.Connects arena source target input output)
    (ok : checkTypes input output = .ok ()) (wf : input.WellFormed)
    (fits : input.shape.elementCount < sizeLimit) :
    runOn ((Operator.quantize layout threshold).invoke node) arena =
      (.ok (), arena.set target (written layout threshold input output)) := by
  obtain ⟨dense, int32, rank, ranks⟩ := checkTypes_eq_ok_iff.1 ok
  have ok' : checkTypes input (output.resize (layout.packed input.shape)) = .ok () :=
    checkTypes_eq_ok_iff.2 ⟨dense, by rw [Tensor.dtype_resize, int32], rank,
      (layout.length_packed rank).symm⟩
  rw [Operator.invoke, Operator.prepare, Operator.eval, runOn_bind_ok (runOn_prepare h ok),
    runOn_eval (h.set _) ok' rfl wf (Tensor.wellFormed_resize _ _) fits, List.set_set]
  rfl

/-! ## The output as a function of the tensors -/

/-- The output that `prepare` leaves. -/
def prepared (layout : Layout) (input output : Tensor) : Except TensorError Tensor := do
  checkTypes input output
  return output.resize (← layout.packedShape input.shape)

/-- The output that `eval` leaves. -/
def evaluated (layout : Layout) (threshold : Binary32) (input output : Tensor) :
    Except TensorError Tensor := do
  checkTypes input output
  let packed ← layout.packedShape input.shape
  if output.shape ≠ packed then throw (.shapeMismatch packed output.shape)
  let (rows, cols) ← input.shape.rowsCols
  let words ← words layout threshold input rows cols
  output.write (.int32 (words.map UInt32.toInt32))

theorem runOn_prepare_eq (layout : Layout) (node : Node) (arena : Arena) :
    runOn (prepare layout node) arena = arena.commit (node.onUnary (prepared layout) arena) := by
  refine Step.runOn_bind_eq_commit (runOn_lift _ _) fun (source, target) _ => ?_
  refine Step.runOn_bind_eq_commit (Step.runOn_inputOutput_eq _ _ _) fun (input, output) _ => ?_
  refine Step.runOn_check_eq_put fun _ _ => ?_
  exact Step.runOn_check_eq_put fun packed _ => rfl

theorem runOn_eval_eq (layout : Layout) (threshold : Binary32) (node : Node) (arena : Arena) :
    runOn (eval layout threshold node) arena =
      arena.commit (node.onUnary (evaluated layout threshold) arena) := by
  refine Step.runOn_bind_eq_commit (runOn_lift _ _) fun (source, target) _ => ?_
  refine Step.runOn_bind_eq_commit (Step.runOn_inputOutput_eq _ _ _) fun (input, output) _ => ?_
  refine Step.runOn_check_eq_put fun _ _ => ?_
  refine Step.runOn_check_eq_put fun packed _ => ?_
  refine Step.runOn_guard_eq_put fun _ => ?_
  refine Step.runOn_check_eq_put fun (rows, cols) _ => ?_
  refine Step.runOn_check_eq_put fun words _ => ?_
  exact Step.runOn_bind_eq_commit (runOn_lift _ _) fun new _ => rfl

theorem continues_of_prepared {new : Tensor} (h : prepared layout input output = .ok new) :
    output.Continues new := by
  simp only [prepared, bind_eq_ok_iff] at h
  obtain ⟨-, -, packed, -, hnew⟩ := h
  cases hnew
  exact .resize output packed

theorem continues_of_evaluated {new : Tensor}
    (h : evaluated layout threshold input output = .ok new) : output.Continues new := by
  simp only [evaluated, bind_eq_ok_iff, guard_eq_ok_iff] at h
  obtain ⟨-, -, packed, -, -, -, -, words, -, hwrite⟩ := h
  exact .write hwrite

end Quantize

end OneBit
