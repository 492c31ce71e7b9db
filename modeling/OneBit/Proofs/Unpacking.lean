import OneBit.Proofs.Command
import OneBit.Proofs.Operator.Elementwise

/-!
# Unpacking what can be read

The number of words in a header, the size of the packed shape and the check of the shape that is
unpacked into are computed apart. They agree on every container that was built or read, so that
nothing in a container stands in the way of unpacking it.

* `Container.Obtained` : the containers that there are;
* `Container.Whole.runOn_dequantize_iff` : the tensors that their words dequantize into;
* `Container.Obtained.unpacks` : with the sizes, the way back from the tensor of words, and the three
  things that the unpack command can fail on after it has read its input.
-/

namespace OneBit

open Ieee

/-- A container that was built from words in memory, or read from bytes. -/
inductive Container.Obtained : Container → Prop
  | built {layout : Layout} {dtype : DType} {shape : Shape} {words : List UInt32} {c : Container}
      (fits : words.length < sizeLimit) (h : ofWords layout dtype shape words = .ok c) : Obtained c
  | read {bytes rest : Bytes} {c : Container} (h : readUnverified bytes = .ok (c, rest)) : Obtained c

theorem Container.Obtained.exists_whole {c : Container} (h : c.Obtained) :
    ∃ layout, c.Whole layout := by
  cases h with
  | built fits h => exact ⟨_, whole_of_ofWords fits h⟩
  | read h => exact whole_of_readUnverified h

/-! ## Dequantizing -/

namespace Dequantize

variable {layout : Layout} {node : Node} {arena : Arena} {source target : Nat} {input output : Tensor}

/-- On the tensors of a node, dequantizing succeeds exactly when it takes them. -/
theorem runOn_invoke_eq_ok_iff (hconnects : node.Connects arena source target input output)
    (wfIn : input.WellFormed) (wfOut : output.WellFormed)
    (fits : output.shape.elementCount < sizeLimit) :
    (runOn ((Operator.dequantize layout).invoke node) arena).1 = .ok () ↔
      Accepts layout input output := by
  constructor
  · intro h
    obtain ⟨_, _, input', output', hconnects', haccepts⟩ := exists_accepts h
    obtain ⟨rfl, rfl⟩ := hconnects.unique hconnects'
    exact haccepts
  · intro haccepts
    obtain ⟨words, hwords⟩ := Tensor.exists_int32_of_dtype haccepts.input_dtype
    obtain ⟨data, -, hrun⟩ := haccepts.runOn_invoke hconnects hwords wfIn wfOut fits
    rw [hrun]

/-- Without levels there is nothing to write. -/
theorem runOn_invoke_of_levels_error {values : List Int8} {q : Quantization} {e : TensorError}
    (h : node.Connects arena source target input output) (ok : check layout input output = .ok ())
    (hdata : output.data = .int8 values) (hq : output.quantization = some q)
    (hlevels : Levels.int8 q = .error e) :
    runOn ((Operator.dequantize layout).invoke node) arena = (.error e, arena) := by
  obtain ⟨hinput, -, rank, -⟩ := check_eq_ok_iff.1 ok
  obtain ⟨words, hwords⟩ := Tensor.exists_int32_of_dtype hinput
  have hints : input.int32s = .ok words := by rw [Tensor.int32s, hwords]
  rw [Operator.invoke, Operator.prepare, Operator.eval, runOn_bind, runOn_prepare h, ok]
  simp only [eval, runOn_bind, runOn_lift, h.unary, h.runOn_inputOutput, ok,
    Shape.rowsCols_eq_ok rank, hints, hdata, hq, hlevels]

end Dequantize

namespace Container.Whole

variable {c : Container} {layout : Layout} (h : c.Whole layout)

include h

theorem expectedWords_eq_ok : c.header.expectedWords = .ok c.words.length := by
  refine Header.expectedWords_eq_ok_iff.2
    ⟨h.rank, layout, Header.layout_eq_ok_iff.1 h.layout_eq, ?_, ?_⟩
  · rw [h.length_words, layout.packedSize_eq_ceilDiv]
  · rw [← h.wordCount]
    exact c.header.wordCount.toNat_lt

/-- The header that is put before the words, where the stored checksum may be wrong. -/
theorem ofWords_header :
    Header.ofWords layout c.header.dtype c.header.shape c.words =
      { c.header with checksum := wordChecksum c.words } := by
  have hbits : UInt8.ofNat layout.bits = c.header.wordBits := by
    rw [Header.layout_eq_ok_iff.1 h.layout_eq, UInt8.ofNat_toNat]
  have hcount : UInt64.ofNat c.words.length = c.header.wordCount := by
    rw [← h.wordCount, UInt64.ofNat_toNat]
  rw [Header.ofWords, hbits, hcount, ← h.magic, ← h.version]

theorem ofTensor_eq_ok {packed : Tensor} (hpacked : c.toTensor = .ok packed) :
    ofTensor layout c.header.dtype c.header.shape packed =
      .ok { c with header := { c.header with checksum := wordChecksum c.words } } := by
  have fits : c.words.length < sizeLimit := by
    rw [← h.wordCount]
    exact c.header.wordCount.toNat_lt
  cases h.toTensor_eq_ok.symm.trans hpacked
  rw [Container.ofTensor_eq_ok rfl h.length_words fits h.rank, h.ofWords_header]

/-- The words dequantize into every type that packs, given a scale for int8. -/
theorem runOn_dequantize_iff {dtype : DType} {quantization : Option Quantization} {packed : Tensor}
    {node : Node} {arena : Arena} {source target : Nat} (hpacked : c.toTensor = .ok packed)
    (fits : c.header.shape.elementCount < sizeLimit)
    (hconnects : node.Connects arena source target packed
      { Tensor.zeros dtype c.header.shape with quantization }) :
    (runOn ((Operator.dequantize layout).invoke node) arena).1 = .ok () ↔
      dtype ≠ .int32 ∧
        (dtype = .int8 → ∃ q, quantization = some q ∧ q.scale.FinitePositive) := by
  have hdtype : Tensor.dtype { Tensor.zeros dtype c.header.shape with quantization } = dtype :=
    TensorData.dtype_zeros dtype _
  cases h.toTensor_eq_ok.symm.trans hpacked
  rw [Dequantize.runOn_invoke_eq_ok_iff hconnects h.wellFormed (Tensor.wellFormed_zeros _ _) fits]
  constructor
  · intro haccepts
    refine ⟨DType.ne_int32_iff.2 (hdtype ▸ haccepts.output_dtype), fun hint8 => ?_⟩
    obtain ⟨q, significand, exponent, hq, hscale⟩ := haccepts.scale (hdtype.trans hint8)
    exact ⟨q, hq, significand, exponent, hscale⟩
  · rintro ⟨hne, hscale⟩
    refine ⟨rfl, hdtype.symm ▸ DType.ne_int32_iff.1 hne, layout.packedShape_eq_ok h.rank,
      fun hint8 => ?_⟩
    obtain ⟨q, hq, significand, exponent, hscale⟩ := hscale (hdtype.symm.trans hint8)
    exact ⟨q, significand, exponent, hq, hscale⟩

end Container.Whole

/-! ## The command -/

section Command

variable {machine : Machine} {input output : String} {settings : UnpackSettings} {c : Container}
  {layout : Layout}

/-- The parameters of the result. -/
theorem UnpackSettings.quantization_int8 (settings : UnpackSettings) :
    settings.quantization .int8 =
      some ⟨settings.scale.getD Binary32.one, settings.zeroPoint.getD 0⟩ := rfl

theorem UnpackSettings.exists_scale_of_int8 (settings : UnpackSettings) {dtype : DType}
    (hscale : dtype = .int8 → (settings.scale.getD Binary32.one).FinitePositive)
    (hint8 : dtype = .int8) : ∃ q significand exponent, settings.quantization dtype = some q ∧
      0 < significand ∧ q.scale.value = .finite false significand exponent := by
  obtain ⟨significand, exponent, hvalue⟩ := hscale hint8
  rw [hint8]
  exact ⟨_, significand, exponent, settings.quantization_int8, hvalue⟩

variable (hentry : Container.read.ofEntry (machine.disk.open? input) = .ok c) (h : c.Whole layout)

include hentry

theorem runOn_runUnpack_int32 (hdtype : settings.dtype.getD c.header.dtype = .int32) :
    runOn (runUnpack input output settings) machine =
      (.error (.unreconstructible .int32), machine) := by
  rw [runUnpack, runOn_bind_ok (Reader.runOn_onContainer_file hentry), hdtype]
  rfl

include h

theorem runOn_runUnpack_of_scale (output : String)
    (hdtype : settings.dtype.getD c.header.dtype = .int8)
    (hscale : ¬(settings.scale.getD Binary32.one).FinitePositive) :
    runOn (runUnpack input output settings) machine =
      (.error (.tensor (.invalidScale (settings.scale.getD Binary32.one))), machine) := by
  let dense : Tensor :=
    { Tensor.zeros .int8 c.header.shape with quantization := settings.quantization .int8 }
  have ok : Dequantize.check layout { shape := layout.packed c.header.shape
                                      data := .int32 (c.words.map UInt32.toInt32) } dense = .ok () :=
    Dequantize.check_eq_ok_iff.2 ⟨rfl, rfl, h.rank, rfl⟩
  have hdense : dense.reconstructed { shape := layout.packed c.header.shape
                                      data := .int32 (c.words.map UInt32.toInt32) } layout =
      .error (.invalidScale (settings.scale.getD Binary32.one)) := by
    rw [Tensor.reconstructed, Step.on_eq_runOn, Dequantize.runOn_invoke_of_levels_error
      (Node.Connects.pair _ _) ok rfl settings.quantization_int8 (Levels.int8_eq_error hscale)]
    rfl
  rw [runUnpack, runOn_bind_ok (Reader.runOn_onContainer_file hentry), hdtype]
  simp only [DType.isBinarizable, Bool.not_true, Bool.false_eq_true, if_false, h.layout_eq,
    h.toTensor_eq_ok, runOn_bind_ok (runOn_liftContainer_ok _ _)]
  rw [runOn_bind, hdense]
  rfl

/-- After its input is read, the command fails on its target, on the scale or on the output path, or
it succeeds. -/
theorem runOn_runUnpack_cases (output : String) (settings : UnpackSettings)
    (fits : c.header.shape.elementCount < sizeLimit) :
    let ran := runOn (runUnpack input output settings) machine
    let dtype := settings.dtype.getD c.header.dtype
    let scale := settings.scale.getD Binary32.one
    dtype = .int32 ∧ ran.1 = .error (.unreconstructible .int32) ∨
    (dtype = .int8 ∧ ¬scale.FinitePositive) ∧ ran.1 = .error (.tensor (.invalidScale scale)) ∨
    (dtype ≠ .int32 ∧ (dtype = .int8 → scale.FinitePositive)) ∧
      (machine.disk.Writable output ∧ (∃ t, ran.1 = .ok t) ∨
        ¬machine.disk.Writable output ∧ ran.1 = .error (.creating output)) := by
  intro ran dtype scale
  by_cases hint32 : dtype = .int32
  · exact .inl ⟨hint32, congrArg Prod.fst (runOn_runUnpack_int32 hentry hint32)⟩
  by_cases hscale : dtype = .int8 → scale.FinitePositive
  · refine .inr (.inr ⟨⟨hint32, hscale⟩, ?_⟩)
    have hpacks : dtype = .float32 ∨ dtype = .int8 ∨ dtype = .bool := DType.ne_int32_iff.1 hint32
    have hbinarizable : dtype.isBinarizable := DType.isBinarizable_iff.2 hpacks
    obtain ⟨data, hdata⟩ := TensorData.exists_ofBits hpacks
      (settings.exists_scale_of_int8 hscale)
      (storedBits layout c.header.shape.rows c.header.shape.cols c.words)
    let result : Tensor :=
      { shape := c.header.shape, data, quantization := settings.quantization dtype }
    have hresult : result.dtype.isBinarizable := by
      rw [Tensor.dtype, (TensorData.dtype_ofBits hdata).1, hbinarizable]
    obtain ⟨text, htext⟩ := Tensor.fileText_eq_ok hresult
    obtain ⟨printed, hran⟩ := runOn_runUnpack_eq output hentry h fits rfl hbinarizable hdata rfl htext
    rw [Disk.writable_iff_create (Bytes.ofText text)]
    show _ ∧ (∃ t, (runOn _ machine).1 = _) ∨ _ ∧ (runOn _ machine).1 = _
    rw [hran]
    cases machine.disk.create output (Bytes.ofText text) with
    | ok disk => exact .inl ⟨⟨disk, rfl⟩, result, rfl⟩
    | error e => exact .inr ⟨by simp, rfl⟩
  · rw [Classical.not_imp] at hscale
    have hran := runOn_runUnpack_of_scale hentry h output hscale.1 hscale.2
    exact .inr (.inl ⟨hscale, congrArg Prod.fst hran⟩)

theorem runOn_runUnpack_eq_ok_iff (fits : c.header.shape.elementCount < sizeLimit) :
    (∃ t, (runOn (runUnpack input output settings) machine).1 = .ok t) ↔
      settings.dtype.getD c.header.dtype ≠ .int32 ∧
      (settings.dtype.getD c.header.dtype = .int8 →
        (settings.scale.getD Binary32.one).FinitePositive) ∧
      machine.disk.Writable output := by
  rcases runOn_runUnpack_cases hentry h output settings fits with
    ⟨hint32, hran⟩ | ⟨⟨hint8, hscale⟩, hran⟩ | ⟨⟨hint32, hscale⟩, hwritten⟩
  · simp [hran, hint32]
  · simp [hran, hint8, hscale]
  · obtain ⟨hwritable, hran⟩ | ⟨hwritable, hran⟩ := hwritten
    · exact iff_of_true hran ⟨hint32, hscale, hwritable⟩
    · simp [hran, hwritable]

theorem runOn_runUnpack_eq_error (fits : c.header.shape.elementCount < sizeLimit) {e : CommandError}
    (hran : (runOn (runUnpack input output settings) machine).1 = .error e) :
    (settings.dtype.getD c.header.dtype = .int32 ∧ e = .unreconstructible .int32) ∨
    (settings.dtype.getD c.header.dtype = .int8 ∧
      ¬(settings.scale.getD Binary32.one).FinitePositive ∧
      e = .tensor (.invalidScale (settings.scale.getD Binary32.one))) ∨
    (¬machine.disk.Writable output ∧ e = .creating output) := by
  rcases runOn_runUnpack_cases hentry h output settings fits with
    ⟨hint32, hran'⟩ | ⟨⟨hint8, hscale⟩, hran'⟩ | ⟨-, hwritten⟩
  · exact .inl ⟨hint32, Except.error.inj (hran.symm.trans hran')⟩
  · exact .inr (.inl ⟨hint8, hscale, Except.error.inj (hran.symm.trans hran')⟩)
  · obtain ⟨-, t, hran'⟩ | ⟨hwritable, hran'⟩ := hwritten
    · cases hran.symm.trans hran'
    · exact .inr (.inr ⟨hwritable, Except.error.inj (hran.symm.trans hran')⟩)

end Command

namespace Container

/-- A container that was built or read goes with its header in every way that unpacking needs, when
its shape has a 64-bit number of elements. The sizes computed from the header are the number of words;
the words are a tensor of the packed shape, from which the same words are built again; and this tensor
dequantizes into every type but int32, given a scale for int8. A command that reads such a container
from a file then fails only on an int32 target, on the scale, or where it cannot write. -/
theorem Obtained.unpacks {c : Container} (h : c.Obtained)
    (fits : c.header.shape.elementCount < sizeLimit) :
    ∃ layout packed,
      c.header.layout = .ok layout ∧ c.header.packedShape = .ok packed.shape ∧
      c.header.expectedWords = .ok packed.shape.elementCount ∧
      packed.shape.elementCount = c.words.length ∧
      c.toTensor = .ok packed ∧ packed.data = .int32 (c.words.map UInt32.toInt32) ∧
      ofTensor layout c.header.dtype c.header.shape packed =
        .ok { c with header := { c.header with checksum := wordChecksum c.words } } ∧
      (∀ dtype quantization node arena source target,
        node.Connects arena source target packed
          { Tensor.zeros dtype c.header.shape with quantization } →
        ((runOn ((Operator.dequantize layout).invoke node) arena).1 = .ok () ↔
          dtype ≠ .int32 ∧
            (dtype = .int8 → ∃ q, quantization = some q ∧ q.scale.FinitePositive))) ∧
      ∀ (machine : Machine) input output settings,
        (runOn (Container.read.file input) machine).1 = .ok c →
        let ran := (runOn (runUnpack input output settings) machine).1
        let dtype := settings.dtype.getD c.header.dtype
        let scale := settings.scale.getD Binary32.one
        ((∃ t, ran = .ok t) ↔
          dtype ≠ .int32 ∧ (dtype = .int8 → scale.FinitePositive) ∧ machine.disk.Writable output) ∧
        ∀ e, ran = .error e →
          (dtype = .int32 ∧ e = .unreconstructible .int32) ∨
          (dtype = .int8 ∧ ¬scale.FinitePositive ∧ e = .tensor (.invalidScale scale)) ∨
          (¬machine.disk.Writable output ∧ e = .creating output) := by
  obtain ⟨layout, whole⟩ := h.exists_whole
  have hcount : (layout.packed c.header.shape).elementCount = c.words.length := by
    have hpacked := Nat.lt_of_le_of_lt (layout.elementCount_packed_le whole.rank) fits
    rw [← Shape.flatSize_eq_elementCount hpacked, layout.flatSize_packed_of_fits whole.fits,
      whole.length_words]
  refine ⟨layout, _, whole.layout_eq, Header.packedShape_eq_ok whole.layout_eq whole.rank, ?_, hcount,
    whole.toTensor_eq_ok, rfl, whole.ofTensor_eq_ok whole.toTensor_eq_ok,
    fun _ _ _ _ _ _ => whole.runOn_dequantize_iff whole.toTensor_eq_ok fits, ?_⟩
  · rw [whole.expectedWords_eq_ok, hcount]
  · intro machine input output settings hread
    rw [Reader.runOn_file_eq] at hread
    exact ⟨runOn_runUnpack_eq_ok_iff hread whole fits,
      fun _ hran => runOn_runUnpack_eq_error hread whole fits hran⟩

/-- Two rows of nine elements, the second word of each with one bit in use. -/
def sampleNines : Container where
  header := .ofWords byteLayout .int8 [2, 9] [0xA5, 1, 0xFF, 0]
  words := [0xA5, 1, 0xFF, 0]

theorem Obtained.unpacks_sampleNines :
    let machine : Machine := { disk := ⟨[(["t.binq"], .file sampleNines.encode)]⟩ }
    sampleNines.Obtained ∧ sampleNines.header.expectedWords = .ok 4 ∧
    (∃ packed, sampleNines.toTensor = .ok packed ∧
      (runOn ((Operator.dequantize byteLayout).invoke ⟨[0], [1]⟩)
        [packed, Tensor.zeros .bool [2, 9]]).1 = .ok ()) ∧
    ∃ t, (runOn (runUnpack "t.binq" "u.json" { scale := some Binary32.one }) machine).1 = .ok t := by
  intro machine
  have hread : readUnverified sampleNines.encode = .ok (sampleNines, []) := by decide +kernel
  have hfile : (runOn (Container.read.file "t.binq") machine).1 = .ok sampleNines := by
    decide +kernel
  have hwritable : machine.disk.Writable "u.json" :=
    (Disk.writable_iff_create []).2
      ⟨machine.disk.put ["u.json"] (.file []), by decide +kernel⟩
  have hlayout : sampleNines.header.layout = .ok byteLayout := by decide
  have hone : Binary32.one.FinitePositive := Binary32.finite_pos_iff.1 (by decide)
  obtain ⟨layout, packed, hlayout', -, hexpected, hcount, hpacked, -, -, hdequantize, hcommand⟩ :=
    (Obtained.read hread).unpacks (by decide)
  obtain rfl : byteLayout = layout := Except.ok.inj (hlayout.symm.trans hlayout')
  refine ⟨.read hread, ?_, ⟨packed, hpacked, ?_⟩, ?_⟩
  · rw [hexpected, hcount]
    rfl
  · exact (hdequantize .bool none _ _ _ _ (Node.Connects.pair _ _)).2 ⟨by decide, by simp⟩
  · exact (hcommand machine "t.binq" "u.json" { scale := some Binary32.one } hfile).1.2
      ⟨by decide, fun _ => hone, hwritable⟩

end Container

end OneBit
