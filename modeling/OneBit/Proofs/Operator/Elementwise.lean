import OneBit.Proofs.Levels
import OneBit.Proofs.Operator.Call

/-!
# Quantizing and dequantizing, element by element

* `Tensor.BelowAt`, `Tensor.LevelAt` : which elements become bit 1, and the element that stands for a
  bit;
* `Operator.quantize_spec` : the nodes that are quantized, and every bit of the words they leave;
* `Operator.dequantize_spec` : the nodes that are dequantized, and every element of what they leave.

Tensors in memory have 64-bit sizes.
-/

namespace OneBit

open Ieee

theorem DType.isBinarizable_iff {dtype : DType} :
    dtype.isBinarizable = true ↔ dtype = .float32 ∨ dtype = .int8 ∨ dtype = .bool := by
  cases dtype <;> simp [isBinarizable]

theorem DType.ne_int32_iff {dtype : DType} :
    dtype ≠ .int32 ↔ dtype = .float32 ∨ dtype = .int8 ∨ dtype = .bool := by
  cases dtype <;> simp

/-! ## Quantizing -/

/-- The element at a position is below the threshold, below the zero point, or `false`. -/
def Tensor.BelowAt (threshold : Binary32) (t : Tensor) (k : Nat) : Prop :=
  match t.data with
  | .float32 values => ∃ x, values[k]? = some x ∧ x.value.Less threshold.value
  | .int8 values => ∃ x, values[k]? = some x ∧ x.toInt < t.zeroPoint.toInt
  | .bool values => values[k]? = some false
  | .int32 _ => False

theorem Tensor.bits_eq_true_iff {threshold : Binary32} {t : Tensor} {k : Nat} :
    (t.bits threshold)[k]?.getD false = true ↔ t.BelowAt threshold k := by
  unfold Tensor.bits Tensor.BelowAt
  cases t.data with
  | float32 values =>
    simp only [List.getElem?_map]
    cases values[k]? <;> simp [Bit.ofSingle, Binary32.lt_iff_less]
  | int8 values =>
    simp only [List.getElem?_map]
    cases values[k]? <;> simp [Bit.ofInt8]
  | bool values =>
    simp only [List.getElem?_map]
    rcases values[k]? with _ | _ | _
    · simp
    · exact iff_of_true rfl rfl
    · exact iff_of_false nofun nofun
  | int32 values => simp

namespace Quantize

variable {layout : Layout} {threshold : Binary32} {input output : Tensor} {node : Node}
  {arena : Arena}

/-- The types and ranks that quantizing takes. -/
structure Accepts (input output : Tensor) : Prop where
  input_dtype : input.dtype = .float32 ∨ input.dtype = .int8 ∨ input.dtype = .bool
  output_dtype : output.dtype = .int32
  rank_pos : 1 ≤ input.rank
  rank_eq : input.rank = output.rank

theorem accepts_iff : Accepts input output ↔ checkTypes input output = .ok () := by
  have hrank : 1 ≤ input.rank ↔ input.shape ≠ [] := List.length_pos_iff
  rw [checkTypes_eq_ok_iff, DType.isBinarizable_iff, ← hrank]
  constructor
  · intro h
    exact ⟨h.input_dtype, h.output_dtype, h.rank_pos, h.rank_eq⟩
  · rintro ⟨hinput, houtput, hpos, heq⟩
    exact ⟨hinput, houtput, hpos, heq⟩

/-- The first step looks at everything that is asked for. -/
theorem exists_accepts
    (h : (runOn ((Operator.quantize layout threshold).invoke node) arena).1 = .ok ()) :
    ∃ source target input output,
      node.Connects arena source target input output ∧ Accepts input output := by
  obtain ⟨target, t, new, hprepared, -, -⟩ := Operator.runOn_invoke_eq_ok_iff.1 (Prod.ext h rfl)
  obtain ⟨source, input, output, hconnects, hnew⟩ := Node.onUnary_eq_ok_iff.1 hprepared
  obtain ⟨_, hcheck, -⟩ := bind_eq_ok_iff.1 hnew
  exact ⟨source, target, input, output, hconnects, accepts_iff.2 hcheck⟩

/-- The bits of the words that quantizing writes. -/
theorem packedBit_written {row k i : Nat} (hr : row < input.shape.rows)
    (hk : k < input.shape.cols ⌈/⌉ layout.bits) (hi : i < 32) :
    packedBit ((input.packedWords layout threshold).map UInt32.toInt32)
        (row * (input.shape.cols ⌈/⌉ layout.bits) + k) i = true ↔
      i < layout.bits ∧ k * layout.bits + i < input.shape.cols ∧
        input.BelowAt threshold (row * input.shape.cols + (k * layout.bits + i)) := by
  rw [← layout.packedSize_eq_ceilDiv] at hk
  rw [← wordBit_map_toUInt32 layout input.shape.cols _ row k hi, Tensor.toUInt32_toInt32,
    Tensor.packedWords, wordBit_packRows layout id _ hr hk hi, ← Tensor.bits_eq_true_iff]
  simp [and_assoc]

end Quantize

/-! ## Dequantizing -/

/-- The element at a position stands for a bit, at the levels of its type and parameters. -/
def Tensor.LevelAt (t : Tensor) (k : Nat) (bit : Bool) : Prop :=
  match t.data with
  | .float32 values => values[k]? = some (if bit then Binary32.negOne else Binary32.one)
  | .int8 values => ∃ q levels, t.quantization = some q ∧ Levels.int8 q = .ok levels ∧
      values[k]? = some (levels.value bit)
  | .bool values => values[k]? = some !bit
  | .int32 _ => False

/-- There are elements of every type that packs, given a scale for int8. -/
theorem TensorData.exists_ofBits {dtype : DType} {quantization : Option Quantization}
    (hdtype : dtype = .float32 ∨ dtype = .int8 ∨ dtype = .bool)
    (hscale : dtype = .int8 → ∃ q significand exponent, quantization = some q ∧
      0 < significand ∧ q.scale.value = .finite false significand exponent) (bits : List Bool) :
    ∃ data, TensorData.ofBits dtype quantization bits = .ok data := by
  rcases hdtype with hfloat32 | hint8 | hbool
  · exact ⟨_, TensorData.ofBits_eq_ok_iff.2 (.inl ⟨hfloat32, rfl⟩)⟩
  · obtain ⟨q, significand, exponent, hq, hvalue⟩ := hscale hint8
    obtain ⟨levels, hlevels⟩ := Levels.exists_int8_iff.2 ⟨significand, exponent, hvalue⟩
    exact ⟨_, TensorData.ofBits_eq_ok_iff.2 (.inr (.inl ⟨hint8, q, levels, hq, hlevels, rfl⟩))⟩
  · exact ⟨_, TensorData.ofBits_eq_ok_iff.2 (.inr (.inr ⟨hbool, rfl⟩))⟩

theorem Tensor.levelAt_ofBits {t : Tensor} {dtype : DType} {bits : List Bool}
    (h : TensorData.ofBits dtype t.quantization bits = .ok t.data) {k : Nat} {bit : Bool}
    (hbit : bits[k]? = some bit) : t.LevelAt k bit := by
  rw [Tensor.LevelAt]
  obtain ⟨-, hdata⟩ | ⟨-, q, levels, hq, hlevels, hdata⟩ | ⟨-, hdata⟩ :=
    TensorData.ofBits_eq_ok_iff.1 h
  · simp only [hdata, List.getElem?_map, hbit]
    rfl
  · simp only [hdata, List.getElem?_map, hbit]
    exact ⟨q, levels, hq, hlevels, rfl⟩
  · simp only [hdata, List.getElem?_map, hbit]
    cases bit <;> rfl

namespace Dequantize

variable {layout : Layout} {input output : Tensor} {node : Node} {arena : Arena}
  {source target : Nat} {words words' : List Int32}

/-- The types, shapes and parameters that dequantizing takes. -/
structure Accepts (layout : Layout) (input output : Tensor) : Prop where
  input_dtype : input.dtype = .int32
  output_dtype : output.dtype = .float32 ∨ output.dtype = .int8 ∨ output.dtype = .bool
  shape : layout.packedShape output.shape = .ok input.shape
  scale : output.dtype = .int8 → ∃ q significand exponent, output.quantization = some q ∧
    0 < significand ∧ q.scale.value = .finite false significand exponent

/-- The levels are there for whatever words are accepted. -/
theorem Accepts.exists_ofBits (h : Accepts layout input output) (bits : List Bool) :
    ∃ data, TensorData.ofBits output.dtype output.quantization bits = .ok data :=
  TensorData.exists_ofBits h.output_dtype h.scale bits

theorem Accepts.check (h : Accepts layout input output) :
    Dequantize.check layout input output = .ok () := by
  obtain ⟨rank, hshape⟩ := layout.packedShape_eq_ok_iff.1 h.shape
  exact check_eq_ok_iff.2 ⟨h.input_dtype, DType.isBinarizable_iff.2 h.output_dtype, rank, hshape⟩

/-- The input has a word for every column of a row. -/
theorem Accepts.length_words (h : Accepts layout input output) (wf : input.WellFormed)
    (hwords : input.data = .int32 words) (fits : output.shape.elementCount < sizeLimit) :
    words.length = output.shape.rows * (output.shape.cols ⌈/⌉ layout.bits) := by
  obtain ⟨rank, hshape⟩ := layout.packedShape_eq_ok_iff.1 h.shape
  rw [← layout.packedSize_eq_ceilDiv, ← Tensor.length_data_packed wf hshape rank fits, hwords]
  rfl

/-- Both steps together look at everything that is asked for. -/
theorem Accepts.of_evaluated {new : Tensor} (h : evaluated layout input output = .ok new) :
    Accepts layout input output := by
  simp only [evaluated, bind_eq_ok_iff] at h
  obtain ⟨_, hcheck, _, -, _, -, h⟩ := h
  obtain ⟨hinput, houtput, rank, hshape⟩ := check_eq_ok_iff.1 hcheck
  refine ⟨hinput, DType.isBinarizable_iff.1 houtput, layout.packedShape_eq_ok_iff.2 ⟨rank, hshape⟩,
    fun hint8 => ?_⟩
  obtain ⟨_, data, quantization, _⟩ := output
  cases data with
  | int8 values =>
    cases quantization with
    | none => cases h
    | some q =>
      obtain ⟨levels, hlevels, -⟩ := bind_eq_ok_iff.1 h
      obtain ⟨significand, exponent, hscale⟩ := Levels.exists_int8_iff.1 ⟨levels, hlevels⟩
      exact ⟨q, significand, exponent, rfl, hscale⟩
  | _ => cases hint8

theorem exists_accepts (h : (runOn ((Operator.dequantize layout).invoke node) arena).1 = .ok ()) :
    ∃ source target input output,
      node.Connects arena source target input output ∧ Accepts layout input output := by
  obtain ⟨target, t, new, hprepared, hevaluated, -⟩ :=
    Operator.runOn_invoke_eq_ok_iff.1 (Prod.ext h rfl)
  obtain ⟨source, input, output, hconnects, hnew⟩ := Node.onUnary_eq_ok_iff.1 hprepared
  -- The first step leaves the arena as it is, so the second one looks at the same tensors.
  rw [eq_of_prepared hnew, Arena.set_of_getElem? hconnects.output_at] at hevaluated
  obtain ⟨source, input, output, hconnects, hnew⟩ := Node.onUnary_eq_ok_iff.1 hevaluated
  exact ⟨source, target, input, output, hconnects, .of_evaluated hnew⟩

/-- On tensors that are taken, dequantizing writes the elements that stand for the stored bits. -/
theorem Accepts.runOn_invoke (h : Accepts layout input output)
    (hconnects : node.Connects arena source target input output) (hwords : input.data = .int32 words)
    (wfIn : input.WellFormed) (wfOut : output.WellFormed)
    (fits : output.shape.elementCount < sizeLimit) :
    ∃ data, TensorData.ofBits output.dtype output.quantization
        (storedBits layout output.shape.rows output.shape.cols (words.map Int32.toUInt32)) =
          .ok data ∧
      runOn ((Operator.dequantize layout).invoke node) arena =
        (.ok (), arena.set target { output with data }) := by
  obtain ⟨data, hdata⟩ := h.exists_ofBits _
  exact ⟨data, hdata, Dequantize.runOn_invoke hconnects h.check hwords wfIn wfOut fits hdata⟩

/-- Other words, with the same bits where columns are stored, give the same elements. -/
theorem Accepts.runOn_invoke_congr (h : Accepts layout input output)
    (hconnects : node.Connects arena source target input output) (hwords : input.data = .int32 words)
    (wfIn : input.WellFormed) (wfOut : output.WellFormed)
    (fits : output.shape.elementCount < sizeLimit) {data : TensorData}
    (hdata : TensorData.ofBits output.dtype output.quantization
      (storedBits layout output.shape.rows output.shape.cols (words.map Int32.toUInt32)) = .ok data)
    (hlength : words'.length = words.length)
    (hbits : ∀ row < output.shape.rows, ∀ col < output.shape.cols,
      columnBit layout output.shape.cols words' row col =
        columnBit layout output.shape.cols words row col) :
    runOn ((Operator.dequantize layout).invoke node)
        (arena.set source { input with data := .int32 words' }) =
      (.ok (), (arena.set source { input with data := .int32 words' }).set target
        { output with data }) := by
  have haccepts : Accepts layout { input with data := .int32 words' } output :=
    ⟨rfl, h.output_dtype, h.shape, h.scale⟩
  have wf : Tensor.WellFormed { input with data := .int32 words' } := by
    rw [Tensor.WellFormed, hwords] at wfIn
    exact hlength.trans wfIn
  have hstored : storedBits layout output.shape.rows output.shape.cols (words'.map Int32.toUInt32) =
      storedBits layout output.shape.rows output.shape.cols (words.map Int32.toUInt32) :=
    storedBits_congr layout fun row hr col hc => by
      rw [storedBit_map_toUInt32, storedBit_map_toUInt32, hbits row hr col hc]
  exact Dequantize.runOn_invoke (hconnects.setInput _) haccepts.check rfl wf wfOut fits
    (hstored ▸ hdata)

end Dequantize

/-! ## The operators -/

namespace Operator

variable {arena : Arena}

/-- Quantizing succeeds on exactly the nodes whose tensors it takes. It packs the last dimension, and
a bit of a word is set exactly when the word carries an element there and it is below. -/
theorem quantize_spec (layout : Layout) (threshold : Binary32) (node : Node)
    (harena : ∀ t ∈ arena, t.WellFormed ∧ t.shape.elementCount < sizeLimit) :
    ((runOn ((quantize layout threshold).invoke node) arena).1 = .ok () ↔
      ∃ source target input output,
        node.Connects arena source target input output ∧ Quantize.Accepts input output) ∧
    ∀ source target input output, node.Connects arena source target input output →
      Quantize.Accepts input output → ∃ words : List Int32,
        runOn ((quantize layout threshold).invoke node) arena = (.ok (), arena.set target
          { output with
            shape := input.shape.dropLast ++ [input.shape.cols ⌈/⌉ layout.bits]
            data := .int32 words }) ∧
        words.length = input.shape.rows * (input.shape.cols ⌈/⌉ layout.bits) ∧
        ∀ row < input.shape.rows, ∀ k < input.shape.cols ⌈/⌉ layout.bits, ∀ i < 32,
          (packedBit words (row * (input.shape.cols ⌈/⌉ layout.bits) + k) i = true ↔
            i < layout.bits ∧ k * layout.bits + i < input.shape.cols ∧
              input.BelowAt threshold (row * input.shape.cols + (k * layout.bits + i))) := by
  have hrun {source target : Nat} {input output : Tensor}
      (h : node.Connects arena source target input output) (haccepts : Quantize.Accepts input output) :
      runOn ((quantize layout threshold).invoke node) arena =
        (.ok (), arena.set target (Quantize.written layout threshold input output)) := by
    obtain ⟨wf, fits⟩ := harena _ (List.mem_of_getElem? h.input_at)
    exact Quantize.runOn_invoke h (Quantize.accepts_iff.1 haccepts) wf fits
  refine ⟨⟨Quantize.exists_accepts, ?_⟩, ?_⟩
  · rintro ⟨source, target, input, output, hconnects, haccepts⟩
    rw [hrun hconnects haccepts]
  · intro source target input output hconnects haccepts
    refine ⟨(input.packedWords layout threshold).map UInt32.toInt32, ?_, ?_, ?_⟩
    · rw [hrun hconnects haccepts, Quantize.written, Layout.packed, layout.packedSize_eq_ceilDiv]
    · rw [List.length_map, Tensor.length_packedWords, layout.packedSize_eq_ceilDiv]
    · intro row hr k hk i hi
      exact Quantize.packedBit_written hr hk hi

/-- A row of five singles, among them a negative zero and one that is not a number. -/
def singlesArena : Arena :=
  [{ shape := [1, 5],
     data := .float32 [Binary32.negOne, Binary32.zero, ⟨0x80000000⟩, ⟨0x7FC00000⟩, Binary32.negOne] },
    { shape := [0, 3], data := .int32 [] }]

theorem quantize_spec_singles :
    ∃ words : List Int32,
      runOn ((quantize ⟨4, by decide, by decide⟩ Binary32.zero).invoke ⟨[0], [1]⟩) singlesArena =
        (.ok (), singlesArena.set 1 { shape := [1, 2], data := .int32 words }) ∧
      words.length = 2 ∧ packedBit words 0 4 = false := by
  have harena : ∀ t ∈ singlesArena, t.WellFormed ∧ t.shape.elementCount < sizeLimit := by decide
  obtain ⟨words, hrun, hlength, hbits⟩ :=
    (quantize_spec ⟨4, by decide, by decide⟩ Binary32.zero ⟨[0], [1]⟩ harena).2 0 1 _ _
      (.pair _ _) ⟨.inl rfl, rfl, by decide, rfl⟩
  refine ⟨words, hrun, hlength, Bool.eq_false_iff.2 fun hbit => ?_⟩
  have hwidth := ((hbits 0 (by decide) 0 (by decide) 4 (by decide)).1 hbit).1
  exact absurd hwidth (by decide)

/-- Dequantizing succeeds on exactly the nodes whose tensors it takes. Each element stands for one
bit of the input, and no other bit matters; all else of the output stays. -/
theorem dequantize_spec (layout : Layout) (node : Node)
    (harena : ∀ t ∈ arena, t.WellFormed ∧ t.shape.elementCount < sizeLimit) :
    ((runOn ((dequantize layout).invoke node) arena).1 = .ok () ↔
      ∃ source target input output,
        node.Connects arena source target input output ∧ Dequantize.Accepts layout input output) ∧
    ∀ source target input output words, node.Connects arena source target input output →
      Dequantize.Accepts layout input output → input.data = .int32 words → ∃ data,
        runOn ((dequantize layout).invoke node) arena =
          (.ok (), arena.set target { output with data }) ∧
        data.dtype = output.dtype ∧ data.length = output.shape.rows * output.shape.cols ∧
        words.length = output.shape.rows * (output.shape.cols ⌈/⌉ layout.bits) ∧
        (∀ row < output.shape.rows, ∀ col < output.shape.cols,
          Tensor.LevelAt { output with data } (row * output.shape.cols + col)
            (columnBit layout output.shape.cols words row col)) ∧
        ∀ words' : List Int32, words'.length = words.length →
          (∀ row < output.shape.rows, ∀ col < output.shape.cols,
            columnBit layout output.shape.cols words' row col =
              columnBit layout output.shape.cols words row col) →
          runOn ((dequantize layout).invoke node)
              (arena.set source { input with data := .int32 words' }) =
            (.ok (), (arena.set source { input with data := .int32 words' }).set target
              { output with data }) := by
  refine ⟨⟨Dequantize.exists_accepts, ?_⟩, ?_⟩
  · rintro ⟨source, target, input, output, hconnects, haccepts⟩
    obtain ⟨words, hwords⟩ := Tensor.exists_int32_of_dtype haccepts.input_dtype
    obtain ⟨wfIn, -⟩ := harena _ (List.mem_of_getElem? hconnects.input_at)
    obtain ⟨wfOut, fits⟩ := harena _ (List.mem_of_getElem? hconnects.output_at)
    obtain ⟨data, -, hrun⟩ := haccepts.runOn_invoke hconnects hwords wfIn wfOut fits
    rw [hrun]
  · intro source target input output words hconnects haccepts hwords
    obtain ⟨wfIn, -⟩ := harena _ (List.mem_of_getElem? hconnects.input_at)
    obtain ⟨wfOut, fits⟩ := harena _ (List.mem_of_getElem? hconnects.output_at)
    obtain ⟨data, hdata, hrun⟩ := haccepts.runOn_invoke hconnects hwords wfIn wfOut fits
    obtain ⟨hdtype, hlength⟩ := TensorData.dtype_ofBits hdata
    refine ⟨data, hrun, hdtype, hlength.trans (length_storedBits ..),
      haccepts.length_words wfIn hwords fits, ?_, ?_⟩
    · intro row hr col hc
      refine Tensor.levelAt_ofBits hdata ?_
      rw [getElem?_storedBits layout _ hr hc, storedBit_map_toUInt32]
    · intro words' hlength' hbits
      exact haccepts.runOn_invoke_congr hconnects hwords wfIn wfOut fits hdata hlength' hbits

/-- Two words with stray bits above the lowest four, and room for five int8 elements on a scale. -/
def strayArena : Arena :=
  [{ shape := [1, 2], data := .int32 [-7, 17] },
    { shape := [1, 5], data := .int8 [0, 0, 0, 0, 0], quantization := some { zeroPoint := 3 } }]

theorem dequantize_spec_stray :
    ∃ data, runOn ((dequantize ⟨4, by decide, by decide⟩).invoke ⟨[0], [1]⟩) strayArena =
        (.ok (), strayArena.set 1
          { shape := [1, 5], data, quantization := some { zeroPoint := 3 } }) ∧
      data.dtype = .int8 ∧ data.length = 5 := by
  have harena : ∀ t ∈ strayArena, t.WellFormed ∧ t.shape.elementCount < sizeLimit := by decide
  have hscale : Binary32.one.value = .finite false 8388608 (-23) := by decide
  obtain ⟨data, hrun, hdtype, hlength, -⟩ :=
    (dequantize_spec ⟨4, by decide, by decide⟩ ⟨[0], [1]⟩ harena).2 0 1 _ _ [-7, 17]
      (.pair _ _) ⟨rfl, .inr (.inl rfl), rfl, fun _ => ⟨_, _, _, rfl, by decide, hscale⟩⟩ rfl
  exact ⟨data, hrun, hdtype, hlength⟩

end Operator

end OneBit
