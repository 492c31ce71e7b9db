import OneBit.Proofs.Verification

/-!
# From a tensor file to its signs

Packing keeps one bit of each element. Whatever tensor file is packed, the container verifies and
unpacks, and what comes out are the signs of what went in: `runOn_unpack_verify_pack`.
-/

namespace OneBit

open Ieee

/-- What packing keeps of elements. Singles are one below the threshold and the other elsewhere, which
is where those are that are not a number; int8 is compared with the zero point; booleans stay. -/
def TensorData.signs (threshold : Binary32) (zeroPoint : Int32) : TensorData → TensorData
  | float32 values =>
    float32 (values.map fun x => if x.lt threshold then Binary32.negOne else Binary32.one)
  | int8 values => int8 (values.map fun x => if x.toInt < zeroPoint.toInt then -1 else 1)
  | bool values => bool values
  | int32 values => int32 values

@[simp] theorem TensorData.dtype_signs (threshold : Binary32) (zeroPoint : Int32)
    (data : TensorData) : (data.signs threshold zeroPoint).dtype = data.dtype := by
  cases data <;> rfl

/-- On the default scale the levels are one and minus one. -/
theorem Levels.int8_one_zero : Levels.int8 ⟨Binary32.one, 0⟩ = .ok ⟨1, -1⟩ := by
  decide +kernel

/-- Reconstructing the bits of a tensor without options gives its signs. -/
theorem TensorData.ofBits_bits (threshold : Binary32) {dense : Tensor}
    (h : dense.dtype.isBinarizable) :
    TensorData.ofBits dense.dtype (UnpackSettings.quantization {} dense.dtype)
      (dense.bits threshold) = .ok (dense.data.signs threshold dense.zeroPoint) := by
  unfold Tensor.dtype at h ⊢
  unfold Tensor.bits
  cases hdata : dense.data with
  | float32 values =>
    have hsign : Levels.float32.value ∘ Bit.ofSingle threshold =
        fun x => if x.lt threshold then Binary32.negOne else Binary32.one := rfl
    simp only [dtype, ofBits, List.map_map, hsign, signs]
  | int8 values =>
    have hsign : (⟨1, -1⟩ : Levels Int8).value ∘ Bit.ofInt8 dense.zeroPoint =
        fun x => if x.toInt < dense.zeroPoint.toInt then -1 else 1 := by
      funext x
      simp [Levels.value, Bit.ofInt8]
    simp only [dtype, UnpackSettings.quantization, if_true, Option.getD_none, ofBits,
      Levels.int8_one_zero, ok_bind, List.map_map, hsign, signs]
    rfl
  | bool values =>
    have hsame : Levels.bool.value ∘ Bit.ofBool = id := by
      funext x
      cases x <;> rfl
    simp only [dtype, ofBits, List.map_map, hsame, List.map_id, signs]
  | int32 values => simp [hdata, dtype, DType.isBinarizable] at h

/-- Every tensor file of one to sixteen dimensions goes through the commands: packing it succeeds at
any width and threshold, verifying the container succeeds, and unpacking it without options gives a
tensor of the same type and shape that holds the signs of the elements. The paths need only be
writable at the start, and they may be the same. -/
theorem runOn_unpack_verify_pack {machine : Machine} {input container output : String}
    {settings : PackSettings} {dense : Tensor}
    (hread : (runOn (readTensorFile input) machine).1 = .ok dense)
    (rank_pos : 1 ≤ dense.rank) (rank_le : dense.rank ≤ 16)
    (fits : dense.shape.elementCount < sizeLimit)
    (width : ∃ layout, Layout.ofBits settings.wordBits = .ok layout)
    (hcontainer : machine.disk.Writable container) (houtput : machine.disk.Writable output) :
    ∃ c packed, runOn (runPack input container settings) machine = (.ok c, packed) ∧
      ∃ verified, runOn (runVerify container) packed = (.ok (), verified) ∧
        ∃ result unpacked, runOn (runUnpack container output {}) verified = (.ok result, unpacked) ∧
          result.dtype = dense.dtype ∧ result.shape = dense.shape ∧
          result.data = dense.data.signs settings.threshold dense.zeroPoint := by
  obtain ⟨layout, hlayout⟩ := width
  obtain ⟨-, bytes, file, -, hfile, htensor⟩ := runOn_readTensorFile hread
  have h : dense.Dense :=
    TensorFile.dense_of_toTensor hfile htensor (List.ne_nil_of_length_pos rank_pos) fits
  have hcontents := Container.read_encode_packed layout settings.threshold h rank_le []
  rw [List.append_nil] at hcontents
  obtain ⟨hunverified, hverify⟩ := Container.read_eq_ok_iff.1 hcontents
  obtain ⟨disk, hcreate⟩ := hcontainer (Container.packed layout settings.threshold dense).encode
  obtain ⟨printed, hpack⟩ := runOn_runPack hread h hlayout hcreate
  have hopen := Disk.open?_create hcreate
  obtain ⟨reported, hverified⟩ : ∃ reported,
      runOn (runVerify container) (⟨disk, printed⟩ : Machine) = (.ok (), ⟨disk, reported⟩) :=
    runOn_runVerify hopen hunverified hverify
  -- The stored bits are those of the input, and the levels without options are its signs.
  have hdata := TensorData.ofBits_bits settings.threshold h.binarizable
  rw [← Tensor.storedBits_packedWords layout settings.threshold h.wellFormed h.binarizable
    h.rank_pos h.fits] at hdata
  let result : Tensor :=
    { shape := dense.shape
      data := dense.data.signs settings.threshold dense.zeroPoint
      quantization := UnpackSettings.quantization {} dense.dtype }
  have hdtype : result.dtype = dense.dtype :=
    TensorData.dtype_signs settings.threshold dense.zeroPoint dense.data
  have hbinarizable : result.dtype.isBinarizable := by rw [hdtype, h.binarizable]
  obtain ⟨text, htext⟩ := Tensor.fileText_eq_ok hbinarizable
  obtain ⟨final, hfinal⟩ := houtput.create hcreate (Bytes.ofText text)
  obtain ⟨_, hunpack⟩ : ∃ said,
      runOn (runUnpack container output {}) (⟨disk, reported⟩ : Machine) =
        (.ok result, ⟨final, said⟩) :=
    runOn_runUnpack hopen hcontents Header.layout_ofWords h.fits rfl h.binarizable hdata rfl htext
      hfinal
  exact ⟨_, _, hpack, _, hverified, _, _, hunpack, hdtype, rfl, rfl⟩

/-- A machine with a tensor file. -/
def Machine.sample : Machine where
  disk := ⟨[(["t.json"], .file (Bytes.ofText
    "[\"int8\", [3, 3], [-3, 7, 2, 2, -128, 127, 0, 1, 5], [0.5, 2]]"))]⟩

/-- Rows of three int8 elements with zero point two, two to a word: every other word is half full. -/
theorem runOn_unpack_verify_pack_sample :
    (runOn (readTensorFile "t.json") Machine.sample).1 = .ok Container.sampleInt8s ∧
    Machine.sample.disk.Writable "t.binq" ∧ Machine.sample.disk.Writable "u.json" ∧
    ∃ c packed, runOn (runPack "t.json" "t.binq" { wordBits := 2 }) Machine.sample =
        (.ok c, packed) ∧
      ∃ verified, runOn (runVerify "t.binq") packed = (.ok (), verified) ∧
        ∃ result unpacked, runOn (runUnpack "t.binq" "u.json" {}) verified = (.ok result, unpacked) ∧
          result.dtype = .int8 ∧ result.shape = [3, 3] ∧
          result.data = .int8 [-1, 1, 1, 1, -1, 1, -1, -1, 1] := by
  have hread : (runOn (readTensorFile "t.json") Machine.sample).1 = .ok Container.sampleInt8s := by
    decide +kernel
  have hcontainer : Machine.sample.disk.Writable "t.binq" :=
    Disk.writable_iff.2 ⟨["t.binq"], ⟨[], "t.binq", by decide +kernel, by decide, by decide,
      by decide +kernel⟩, by decide +kernel, by decide +kernel⟩
  have houtput : Machine.sample.disk.Writable "u.json" :=
    Disk.writable_iff.2 ⟨["u.json"], ⟨[], "u.json", by decide +kernel, by decide, by decide,
      by decide +kernel⟩, by decide +kernel, by decide +kernel⟩
  have hsigns : Container.sampleInt8s.data.signs Binary32.zero Container.sampleInt8s.zeroPoint =
      .int8 [-1, 1, 1, 1, -1, 1, -1, -1, 1] := by decide +kernel
  refine ⟨hread, hcontainer, houtput, ?_⟩
  rw [← hsigns]
  exact runOn_unpack_verify_pack hread (by decide) (by decide) (by decide)
    ⟨⟨2, by decide, by decide⟩, rfl⟩ hcontainer houtput

end OneBit
