import OneBit.Proofs.Operator.Elementwise

/-!
# Quantizing what was dequantized

* `Tensor.atLevels` : an int8 tensor that holds the levels of stored bits;
* `Dequantize.runOn_invoke_int8` : dequantizing into an int8 tensor leaves such a tensor;
* `Tensor.packedWords_atLevels` : at faithful levels it packs to the words the bits were stored in,
  without their stray bits;
* `Operator.quantize_dequantize_int8` : the parameters for which the levels are faithful, and the words
  that come back through both operators.
-/

namespace OneBit

open Ieee

/-- The tensor with the levels of the bits that the words store for its elements. -/
def Tensor.atLevels (layout : Layout) (levels : Levels Int8) (words : List UInt32) (t : Tensor) :
    Tensor :=
  { t with data := .int8 ((storedBits layout t.shape.rows t.shape.cols words).map levels.value) }

variable {layout : Layout} {levels : Levels Int8} {q : Quantization}

namespace Tensor

variable {threshold : Binary32} {t : Tensor} {words : List UInt32}

theorem wellFormed_atLevels (rank : t.shape ≠ []) (fits : t.shape.elementCount < sizeLimit) :
    (t.atLevels layout levels words).WellFormed := by
  show (List.map _ _).length = t.shape.flatSize
  rw [List.length_map, length_storedBits, ← Shape.elementCount_eq_rows_mul_cols rank fits,
    Shape.flatSize_eq_elementCount fits]

/-- Elements at faithful levels have the bits that they stand for. -/
theorem bits_atLevels (hq : t.quantization = some q)
    (h : levels.Faithful (Bit.ofInt8 q.zeroPoint)) :
    (t.atLevels layout levels words).bits threshold =
      storedBits layout t.shape.rows t.shape.cols words := by
  have hzero : (t.atLevels layout levels words).zeroPoint = q.zeroPoint := by
    show (t.quantization.map Quantization.zeroPoint).getD 0 = q.zeroPoint
    rw [hq]
    rfl
  show List.map (Bit.ofInt8 (t.atLevels layout levels words).zeroPoint) _ = _
  rw [hzero, h.map_map_value]

theorem packedWords_atLevels (hq : t.quantization = some q)
    (h : levels.Faithful (Bit.ofInt8 q.zeroPoint))
    (full : words.length = t.shape.rows * layout.packedSize t.shape.cols) :
    (t.atLevels layout levels words).packedWords layout threshold =
      layout.trim t.shape.cols words := by
  rw [packedWords, bits_atLevels hq h]
  exact packRows_storedBits layout full

end Tensor

/-- Dequantizing into an int8 tensor whose parameters have levels leaves the levels of the stored
bits. -/
theorem Dequantize.runOn_invoke_int8 {node : Node} {arena : Arena} {source target : Nat}
    {input output : Tensor} {words : List Int32}
    (hconnects : node.Connects arena source target input output) (hwords : input.data = .int32 words)
    (hshape : layout.packedShape output.shape = .ok input.shape) (hdtype : output.dtype = .int8)
    (hq : output.quantization = some q) (h : Levels.int8 q = .ok levels) (wfIn : input.WellFormed)
    (wfOut : output.WellFormed) (fits : output.shape.elementCount < sizeLimit) :
    runOn ((Operator.dequantize layout).invoke node) arena =
      (.ok (), arena.set target (output.atLevels layout levels (words.map Int32.toUInt32))) := by
  obtain ⟨rank, hpacked⟩ := layout.packedShape_eq_ok_iff.1 hshape
  have hint32 : input.dtype = .int32 := by
    rw [Tensor.dtype, hwords]
    rfl
  have hcheck : check layout input output = .ok () :=
    check_eq_ok_iff.2 ⟨hint32, by rw [hdtype]; rfl, rank, hpacked⟩
  refine runOn_invoke hconnects hcheck hwords wfIn wfOut fits ?_
  rw [hdtype, hq, TensorData.ofBits, h]
  rfl

namespace Operator

/-- For int8 parameters that have levels: the upper level is not below the lower one, and they map back
to their bits exactly when they lie apart and the zero point is an int8 other than the lowest. Then
words that are dequantized into a tensor with these parameters, and quantized from there, come back with
only the bits that carry elements, wherever they are put, be it over the words themselves. -/
theorem quantize_dequantize_int8 (h : Levels.int8 q = .ok levels) :
    0 ≤ (Levels.offset q.scale).toInt ∧ levels.one.toInt ≤ levels.zero.toInt ∧
    (levels.Faithful (Bit.ofInt8 q.zeroPoint) ↔
      1 ≤ (Levels.offset q.scale).toInt ∧ -128 < q.zeroPoint.toInt ∧ q.zeroPoint.toInt ≤ 127) ∧
    (levels.Faithful (Bit.ofInt8 q.zeroPoint) →
      ∀ (layout : Layout) (threshold : Binary32) (arena : Arena) (node node' : Node)
        (source middle target : Nat) (packed dense output : Tensor) (words : List Int32),
        (∀ t ∈ arena, t.WellFormed ∧ t.shape.elementCount < sizeLimit) →
        node.Connects arena source middle packed dense → packed.data = .int32 words →
        layout.packedShape dense.shape = .ok packed.shape →
        dense.dtype = .int8 → dense.quantization = some q →
        node'.Connects arena middle target dense output →
        output.dtype = .int32 → output.rank = dense.rank →
          ∃ after, runOn ((dequantize layout).invoke node) arena = (.ok (), after) ∧
            runOn ((quantize layout threshold).invoke node') after =
              (.ok (), after.set target
                { output with
                  shape := packed.shape
                  data := .int32
                    ((layout.trim dense.shape.cols (words.map Int32.toUInt32)).map
                      UInt32.toInt32) })) := by
  have hscale := Levels.exists_int8_iff.1 ⟨levels, h⟩
  refine ⟨Levels.offset_nonneg hscale, Levels.one_le_zero h, Levels.faithful_int8_iff h, ?_⟩
  intro hfaithful layout threshold arena node node' source middle target packed dense output words
    harena hconnects hwords hshape hdtype hq hconnects' houtput hrank
  obtain ⟨wfIn, -⟩ := harena _ (List.mem_of_getElem? hconnects.input_at)
  obtain ⟨wfOut, fits⟩ := harena _ (List.mem_of_getElem? hconnects.output_at)
  obtain ⟨rank, hpacked⟩ := layout.packedShape_eq_ok_iff.1 hshape
  have full : (words.map Int32.toUInt32).length =
      dense.shape.rows * layout.packedSize dense.shape.cols := by
    rw [List.length_map, ← Tensor.length_data_packed wfIn hpacked rank fits, hwords]
    rfl
  refine ⟨_, Dequantize.runOn_invoke_int8 hconnects hwords hshape hdtype hq h wfIn wfOut fits, ?_⟩
  -- The second node finds the levels where the first one left them.
  have hbetween := hconnects'.setInput (dense.atLevels layout levels (words.map Int32.toUInt32))
  have hcheck : Quantize.checkTypes (dense.atLevels layout levels (words.map Int32.toUInt32))
      output = .ok () :=
    Quantize.checkTypes_eq_ok_iff.2 ⟨rfl, houtput, rank, hrank.symm⟩
  rw [Quantize.runOn_invoke hbetween hcheck (Tensor.wellFormed_atLevels rank fits) fits,
    Quantize.written, Tensor.packedWords_atLevels hq hfaithful full, hpacked]
  rfl

/-- Two words with stray bits, and room for five int8 elements around the highest zero point. -/
def edgeArena : Arena :=
  [{ shape := [1, 2], data := .int32 [-7, 18] },
    { shape := [1, 5], data := .int8 [0, 0, 0, 0, 0],
      quantization := some { scale := ⟨0x3F000000⟩, zeroPoint := 127 } }]

/-- At zero point 127 and scale one half the levels are 127 and 125. The words come back into the
tensor they came from, without the bits above the fourth and past the fifth column. -/
theorem quantize_dequantize_int8_edge :
    Levels.int8 { scale := ⟨0x3F000000⟩, zeroPoint := 127 } = .ok ⟨127, 125⟩ ∧
    ∃ after,
      runOn ((dequantize ⟨4, by decide, by decide⟩).invoke ⟨[0], [1]⟩) edgeArena = (.ok (), after) ∧
      runOn ((quantize ⟨4, by decide, by decide⟩ Binary32.zero).invoke ⟨[1], [0]⟩) after =
        (.ok (), after.set 0 { shape := [1, 2], data := .int32 [9, 0] }) := by
  have hlevels : Levels.int8 { scale := ⟨0x3F000000⟩, zeroPoint := 127 } = .ok ⟨127, 125⟩ := by
    decide
  have harena : ∀ t ∈ edgeArena, t.WellFormed ∧ t.shape.elementCount < sizeLimit := by decide
  refine ⟨hlevels, ?_⟩
  exact (quantize_dequantize_int8 hlevels).2.2.2 ⟨rfl, rfl⟩ ⟨4, by decide, by decide⟩ Binary32.zero
    edgeArena ⟨[0], [1]⟩ ⟨[1], [0]⟩ 0 1 0 _ _ _ [-7, 18] harena (.pair _ _) rfl rfl rfl rfl
    ⟨rfl, rfl, rfl, rfl, Nat.one_ne_zero⟩ rfl rfl

end Operator

end OneBit
