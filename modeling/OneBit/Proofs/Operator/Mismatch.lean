import OneBit.Proofs.Operator.Error

/-!
# Mismatches that are none

A mismatch is reported with what was expected and what was found.

* `Operator.runOn_call_of_scalars` : an operator of one input that meets two tensors without
  dimensions reports that rank 0 was expected and rank 0 found;
* `mismatches_genuine_iff` : every other mismatch is genuine, whichever call reports it and whatever
  it was given.
-/

namespace OneBit

open Ieee

open TensorError (Accurate Genuine)

/-! ## Tensors without dimensions -/

theorem Quantize.checkTypes_of_scalars {layout : Layout} {threshold : Binary32}
    {input output : Tensor} (h : (Operator.quantize layout threshold).TakesScalars input output) :
    checkTypes input output = .error (.rankMismatch 0 0) := by
  obtain ⟨⟨hinput, houtput⟩, hin, hout⟩ := h
  simp [checkTypes, Tensor.rank, hinput, houtput, hin, hout]

theorem Dequantize.check_of_scalars {layout : Layout} {input output : Tensor}
    (h : (Operator.dequantize layout).TakesScalars input output) :
    check layout input output = .error (.rankMismatch 0 0) := by
  obtain ⟨⟨hinput, houtput⟩, hin, hout⟩ := h
  simp [check, Layout.checkUnpacked_eq, hinput, houtput, hin, hout]

namespace Operator

variable {op : Operator} {node : Node} {arena : Arena}

/-- Both steps begin with the check that fails. -/
theorem decided_of_scalars (h : op.MeetsScalars node arena) :
    op.prepared node arena = .error (.rankMismatch 0 0) ∧
      op.evaluated node arena = .error (.rankMismatch 0 0) := by
  obtain ⟨source, target, input, output, hconnects, hscalars⟩ := h
  cases op with
  | quantize layout threshold =>
    have hcheck := Quantize.checkTypes_of_scalars hscalars
    constructor
    · apply Node.onUnary_eq_error hconnects
      rw [Quantize.prepared, hcheck, error_bind]
    · apply Node.onUnary_eq_error hconnects
      rw [Quantize.evaluated, hcheck, error_bind]
  | dequantize layout =>
    have hcheck := Dequantize.check_of_scalars hscalars
    constructor
    · apply Node.onUnary_eq_error hconnects
      rw [Dequantize.prepared, hcheck, error_bind]
    · apply Node.onUnary_eq_error hconnects
      rw [Dequantize.evaluated, hcheck, error_bind]
  | unsortedSegmentProd => exact hscalars.converts.elim

theorem runOn_call_of_scalars (h : op.MeetsScalars node arena) (call : Call) :
    runOn (op.call call node) arena = (.error (.rankMismatch 0 0), arena) := by
  obtain ⟨hprepared, hevaluated⟩ := decided_of_scalars h
  cases call with
  | prepare =>
    rw [Operator.call, runOn_prepare, hprepared]
    rfl
  | eval =>
    rw [Operator.call, runOn_eval, hevaluated]
    rfl
  | invoke => rw [Operator.call, runOn_invoke, hprepared]

theorem raises_genuine_call_iff (op : Operator) (call : Call) (node : Node) (arena : Arena) :
    Raises Genuine (runOn (op.call call node) arena).1 ↔ ¬op.MeetsScalars node arena := by
  constructor
  · intro hgenuine hscalars
    have hrun := congrArg Prod.fst (runOn_call_of_scalars hscalars call)
    exact hgenuine _ hrun rfl
  · intro hscalars e he
    cases raises_call op call node arena e he with
    | accurate h => exact h.genuine
    | aliased => trivial
    | malformed => trivial
    | oversized => trivial
    | scalars h => exact absurd h hscalars

end Operator

theorem Layout.raises_genuine_checkUnpacked_iff (layout : Layout) (packed unpacked : Shape) :
    Raises Genuine (layout.checkUnpacked packed unpacked) ↔ ¬(packed = [] ∧ unpacked = []) := by
  constructor
  · rintro hgenuine ⟨rfl, rfl⟩
    exact hgenuine (.rankMismatch 0 0) (layout.checkUnpacked_eq [] []) rfl
  · intro h
    exact layout.raises_checkUnpacked (fun _ => Accurate.genuine) fun hpacked hunpacked =>
      absurd ⟨hpacked, hunpacked⟩ h

/-! ## Every call -/

theorem Tensor.raises_ofData (shape : Shape) (data : TensorData) :
    Raises Genuine (Tensor.ofData shape data) := by
  unfold Tensor.ofData
  split
  · exact .ok _
  · exact .error (Ne.symm ‹_›)

/-- Whatever the arguments, the two values that a mismatch reports differ, and an id that is out of
range is not below the number of segments. The one exception are ranks where neither side has a
dimension: an operator of one input between such tensors, and the check of two such shapes, report
that 0 was expected and 0 found. `bit` stands for any rule from elements to bits. -/
theorem mismatches_genuine_iff {α : Type} (layout : Layout) :
    (∀ (op : Operator) (call : Call) (node : Node) (arena : Arena),
      Raises Genuine (runOn (op.call call node) arena).1 ↔ ¬op.MeetsScalars node arena) ∧
    (∀ packed unpacked : Shape,
      Raises Genuine (layout.checkUnpacked packed unpacked) ↔ ¬(packed = [] ∧ unpacked = [])) ∧
    (∀ shape : Shape, Raises Genuine (layout.packedShape shape) ∧ Raises Genuine shape.rowsCols ∧
      ∀ data : TensorData, Raises Genuine (Tensor.ofData shape data)) ∧
    (∀ (bit : α → Bool) (src : List α) (rows cols : Nat),
      Raises Genuine (pack layout bit src rows cols) ∧
      ∀ buffer : List UInt32,
        Raises Genuine (runOn (packInto layout bit src rows cols) buffer).1 ∧
        Raises Genuine (runOn (packRowInto layout bit src) buffer).1) ∧
    (∀ (levels : Levels α) (words : List UInt32) (rows cols : Nat),
      Raises Genuine (unpack layout levels words rows cols) ∧
      ∀ buffer : List α,
        Raises Genuine (runOn (unpackInto layout levels words rows cols) buffer).1) ∧
    ∀ (factor : Factor α) (data : List α) (rowLength : Nat) (ids : List Int32) (count : Nat)
      (out : List α),
      Raises Genuine (runOn (segmentProduct factor data rowLength ids count) out).1 := by
  have genuine {β : Type} {x : Except TensorError β} (h : Raises Accurate x) : Raises Genuine x :=
    h.mono fun _ => Accurate.genuine
  refine ⟨Operator.raises_genuine_call_iff, layout.raises_genuine_checkUnpacked_iff, ?_, ?_, ?_, ?_⟩
  · intro shape
    exact ⟨genuine (layout.raises_packedShape shape), genuine shape.raises_rowsCols,
      Tensor.raises_ofData shape⟩
  · intro bit src rows cols
    refine ⟨genuine (raises_pack layout bit src rows cols), fun buffer => ⟨?_, ?_⟩⟩
    · exact genuine (raises_packInto layout bit src rows cols buffer)
    · exact genuine (raises_packInto layout bit src 1 src.length buffer)
  · intro levels words rows cols
    refine ⟨genuine (raises_unpack layout levels words rows cols), fun buffer => ?_⟩
    exact genuine (raises_unpackInto layout levels words rows cols buffer)
  · intro factor data rowLength ids count out
    exact genuine (raises_segmentProduct factor data rowLength ids count out)

/-- A flag and a word, neither with a dimension. -/
def scalarArena : Arena :=
  [{ shape := [], data := .bool [true] }, { shape := [], data := .int32 [1] }]

theorem invoke_scalars_not_genuine :
    runOn ((Operator.quantize .full Binary32.zero).invoke ⟨[0], [1]⟩) scalarArena =
        (.error (.rankMismatch 0 0), scalarArena) ∧
      runOn ((Operator.dequantize .full).invoke ⟨[1], [0]⟩) scalarArena =
        (.error (.rankMismatch 0 0), scalarArena) ∧
      Layout.full.checkUnpacked [] [] = .error (.rankMismatch 0 0) ∧
      ¬(TensorError.rankMismatch 0 0).Genuine := by
  refine ⟨by decide, by decide, by decide, ?_⟩
  intro hgenuine
  exact hgenuine rfl

/-- Packing such a shape reports that one dimension was expected. -/
example : Layout.full.packedShape [] = .error (.rankMismatch 1 0) := rfl

end OneBit
