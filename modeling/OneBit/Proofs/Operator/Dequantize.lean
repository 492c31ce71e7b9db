import OneBit.Operator
import OneBit.Proofs.Operator.Bits
import OneBit.Proofs.Update

/-!
# What dequantizing writes

On a node that passes the check, dequantizing succeeds when the type of the output has levels, and
gives each element the level of the bit stored for it: `Dequantize.runOn_invoke`.

On any node at all, each step is the single update that `Dequantize.prepared` or
`Dequantize.evaluated` decides.
-/

namespace OneBit

open Ieee

namespace Dequantize

variable {layout : Layout} {node : Node} {arena : Arena} {source target : Nat}
  {input output : Tensor} {words : List Int32}

theorem check_eq_ok_iff : check layout input output = .ok () ↔
    input.dtype = .int32 ∧ output.dtype.isBinarizable ∧ output.shape ≠ [] ∧
      input.shape = layout.packed output.shape := by
  rw [check, guard_eq_ok_iff, guard_eq_ok_iff, layout.checkUnpacked_eq_ok_iff]
  simp

theorem runOn_prepare (h : node.Connects arena source target input output) :
    runOn (prepare layout node) arena = (check layout input output, arena) := by
  simp only [prepare, runOn_bind, runOn_lift, h.unary, h.runOn_inputOutput]

theorem runOn_eval (h : node.Connects arena source target input output)
    (ok : check layout input output = .ok ()) (hwords : input.data = .int32 words)
    (wfIn : input.WellFormed) (wfOut : output.WellFormed)
    (fits : output.shape.elementCount < sizeLimit) {data : TensorData}
    (hdata : TensorData.ofBits output.dtype output.quantization
      (storedBits layout output.shape.rows output.shape.cols (words.map Int32.toUInt32)) =
        .ok data) :
    runOn (eval layout node) arena = (.ok (), arena.set target { output with data }) := by
  obtain ⟨-, -, rank, hshape⟩ := check_eq_ok_iff.1 ok
  have full : (words.map Int32.toUInt32).length =
      output.shape.rows * layout.packedSize output.shape.cols := by
    rw [List.length_map, ← Tensor.length_data_packed wfIn hshape rank fits, hwords]
    rfl
  have room := Tensor.length_data_eq_rows_mul_cols wfOut rank fits
  have hints : input.int32s = .ok words := by rw [Tensor.int32s, hwords]
  rw [Shape.elementCount_eq_rows_mul_cols rank fits] at fits
  simp only [eval, runOn_bind, runOn_lift, h.unary, h.runOn_inputOutput, ok,
    Shape.rowsCols_eq_ok rank, hints]
  unfold Tensor.dtype TensorData.dtype at hdata
  cases hout : output.data with
  | float32 values =>
    simp only [hout, TensorData.ofBits, Except.ok.injEq] at hdata room ⊢
    rw [Step.runOn_fillBuffer (runOn_unpackInto layout _ fits full room), Step.runOn_replace, hdata]
  | int8 values =>
    simp only [hout] at hdata room ⊢
    cases hq : output.quantization with
    | none => simp [hq, TensorData.ofBits] at hdata
    | some q =>
      simp only [hq, TensorData.ofBits, bind_eq_ok_iff] at hdata
      obtain ⟨levels, hlevels, hdata⟩ := hdata
      simp only [hlevels, runOn_bind, runOn_lift]
      rw [Step.runOn_fillBuffer (runOn_unpackInto layout _ fits full room), Step.runOn_replace,
        ← Except.ok.inj hdata]
  | bool values =>
    simp only [hout, TensorData.ofBits, Except.ok.injEq] at hdata room ⊢
    rw [Step.runOn_fillBuffer (runOn_unpackInto layout _ fits full room), Step.runOn_replace, hdata]
  | int32 values => simp [hout, TensorData.ofBits] at hdata

theorem runOn_invoke (h : node.Connects arena source target input output)
    (ok : check layout input output = .ok ()) (hwords : input.data = .int32 words)
    (wfIn : input.WellFormed) (wfOut : output.WellFormed)
    (fits : output.shape.elementCount < sizeLimit) {data : TensorData}
    (hdata : TensorData.ofBits output.dtype output.quantization
      (storedBits layout output.shape.rows output.shape.cols (words.map Int32.toUInt32)) =
        .ok data) :
    runOn ((Operator.dequantize layout).invoke node) arena =
      (.ok (), arena.set target { output with data }) := by
  rw [Operator.invoke, Operator.prepare, Operator.eval, runOn_bind, runOn_prepare h, ok]
  exact runOn_eval h ok hwords wfIn wfOut fits hdata

/-! ## The output as a function of the tensors -/

/-- The output that `prepare` leaves, which is the one it found. -/
def prepared (layout : Layout) (input output : Tensor) : Except TensorError Tensor := do
  check layout input output
  return output

/-- The output that `eval` leaves. -/
def evaluated (layout : Layout) (input output : Tensor) : Except TensorError Tensor := do
  check layout input output
  let (rows, cols) ← output.shape.rowsCols
  let words := (← input.int32s).map Int32.toUInt32
  match output.data with
  | .float32 values =>
    return { output with
      data := .float32 (← (unpackInto layout Levels.float32 words rows cols).filled values) }
  | .int8 values =>
    let some quantization := output.quantization | throw (.missingQuantization .int8)
    let levels ← Levels.int8 quantization
    return { output with
      data := .int8 (← (unpackInto layout levels words rows cols).filled values) }
  | .bool values =>
    return { output with
      data := .bool (← (unpackInto layout Levels.bool words rows cols).filled values) }
  | .int32 _ => throw (.unsupportedType .int32)

theorem runOn_prepare_eq (layout : Layout) (node : Node) (arena : Arena) :
    runOn (prepare layout node) arena = arena.commit (node.onUnary (prepared layout) arena) := by
  refine Step.runOn_bind_eq_commit (runOn_lift _ _) fun (source, target) _ => ?_
  refine Step.runOn_bind_eq_commit (Step.runOn_inputOutput_eq _ _ _) fun (input, output) h => ?_
  obtain ⟨-, hout, -⟩ := Arena.pair_eq_ok_iff.1 h
  show runOn (liftM (check layout input output)) arena = arena.put target (prepared layout input output)
  rw [runOn_lift, prepared]
  cases check layout input output with
  | error e => rfl
  | ok _ => exact Prod.ext rfl (Arena.set_of_getElem? hout).symm

theorem runOn_eval_eq (layout : Layout) (node : Node) (arena : Arena) :
    runOn (eval layout node) arena = arena.commit (node.onUnary (evaluated layout) arena) := by
  refine Step.runOn_bind_eq_commit (runOn_lift _ _) fun (source, target) _ => ?_
  refine Step.runOn_bind_eq_commit (Step.runOn_inputOutput_eq _ _ _) fun (input, output) h => ?_
  obtain ⟨-, hout, -⟩ := Arena.pair_eq_ok_iff.1 h
  refine Step.runOn_check_eq_put fun _ _ => ?_
  refine Step.runOn_check_eq_put fun (rows, cols) _ => ?_
  refine Step.runOn_check_eq_put fun words _ => ?_
  obtain ⟨shape, data, quantization, allocation⟩ := output
  cases data with
  | float32 values =>
    exact Step.runOn_fillBuffer_eq_put (unpackInto_allOrNothing _ _ _ _ _ _) hout
  | int8 values =>
    cases quantization with
    | none => rfl
    | some q =>
      refine Step.runOn_check_eq_put fun levels _ => ?_
      exact Step.runOn_fillBuffer_eq_put (unpackInto_allOrNothing _ _ _ _ _ _) hout
  | bool values =>
    exact Step.runOn_fillBuffer_eq_put (unpackInto_allOrNothing _ _ _ _ _ _) hout
  | int32 values => rfl

theorem eq_of_prepared {new : Tensor} (h : prepared layout input output = .ok new) :
    new = output := by
  simp only [prepared, bind_eq_ok_iff, pure_eq_ok, Except.ok.injEq] at h
  obtain ⟨-, -, rfl⟩ := h
  rfl

theorem continues_of_evaluated {new : Tensor} (h : evaluated layout input output = .ok new) :
    output.Continues new := by
  simp only [evaluated, bind_eq_ok_iff] at h
  obtain ⟨-, -, ⟨rows, cols⟩, -, words, -, h⟩ := h
  obtain ⟨shape, data, quantization, allocation⟩ := output
  cases data with
  | float32 values => exact .filled (unpackInto_allOrNothing _ _ _ _ _ _) h fun hb => .data rfl hb
  | int8 values =>
    cases quantization with
    | none => cases h
    | some q =>
      obtain ⟨levels, -, h⟩ := bind_eq_ok_iff.1 h
      exact .filled (unpackInto_allOrNothing _ _ _ _ _ _) h fun hb => .data rfl hb
  | bool values => exact .filled (unpackInto_allOrNothing _ _ _ _ _ _) h fun hb => .data rfl hb
  | int32 values => cases h

end Dequantize

end OneBit
