import OneBit.Packing
import OneBit.Tensor
import OneBit.Proofs.Packing

/-!
# Bits of a tensor

* `Tensor.bits` : the bits of a dense tensor's elements, in order, whatever their type;
* `Tensor.Dense` : the tensors that pack;
* `TensorData.ofBits` : the elements of a type that stand for given bits;
* `Tensor.packedWords` : the bits of a tensor, packed row by row.
-/

namespace OneBit

open Ieee

/-- The value that int8 elements are compared with, zero when there are no parameters. -/
def Tensor.zeroPoint (t : Tensor) : Int32 :=
  (t.quantization.map Quantization.zeroPoint).getD 0

/-- The bits that the elements of a dense tensor map to, in order. -/
def Tensor.bits (threshold : Binary32) (t : Tensor) : List Bool :=
  match t.data with
  | .float32 values => values.map (Bit.ofSingle threshold)
  | .int8 values => values.map (Bit.ofInt8 t.zeroPoint)
  | .bool values => values.map Bit.ofBool
  | .int32 _ => []

theorem Tensor.length_bits (threshold : Binary32) {t : Tensor}
    (dense : t.dtype.isBinarizable) : (t.bits threshold).length = t.data.length := by
  unfold Tensor.dtype TensorData.dtype at dense
  unfold Tensor.bits TensorData.length
  cases h : t.data <;> simp_all [DType.isBinarizable]

/-- A tensor that packs: as many elements as its shape says, of a type that maps to bits, and no more
of them than 64 bits count. -/
structure Tensor.Dense (t : Tensor) : Prop where
  wellFormed : t.WellFormed
  binarizable : t.dtype.isBinarizable
  rank_pos : t.shape ≠ []
  sizes : ∀ d ∈ t.shape, d < sizeLimit
  fits : t.shape.elementCount < sizeLimit

section Map

variable {α : Type} (layout : Layout) (bit : α → Bool)

theorem packWord_map (xs : List α) : packWord id (xs.map bit) = packWord bit xs := by
  induction xs with
  | nil => rfl
  | cons x xs ih => rw [List.map_cons, packWord, ih, packWord]; rfl

theorem packRow_map (words : Nat) (row : List α) :
    packRow layout id words (row.map bit) = packRow layout bit words row := by
  rw [packRow, firstPieces_map, List.map_map, packRow]
  exact List.map_congr_left fun piece _ => packWord_map bit piece

/-- Packing looks at elements through their bits only. -/
theorem packRows_map (cols rows : Nat) (src : List α) :
    packRows layout id cols rows (src.map bit) = packRows layout bit cols rows src := by
  rw [packRows, firstPieces_map, List.map_map, packRows]
  exact congrArg _ (List.map_congr_left fun row _ => packRow_map layout bit _ row)

end Map

/-! ## Packed words -/

/-- Bit `i` of word `k` of a tensor of words. -/
def packedBit (words : List Int32) (k i : Nat) : Bool :=
  (words.getD k 0).toUInt32.toNat.testBit i

theorem wordBit_map_toUInt32 (layout : Layout) (cols : Nat) (words : List Int32) (row k : Nat)
    {i : Nat} (hi : i < 32) :
    wordBit layout cols (words.map Int32.toUInt32) row k i =
      packedBit words (row * (cols ⌈/⌉ layout.bits) + k) i := by
  have hword (k : Nat) : (words.map Int32.toUInt32).getD k 0 = (words.getD k 0).toUInt32 := by
    rw [List.getD_eq_getElem?_getD, List.getD_eq_getElem?_getD, List.getElem?_map]
    cases words[k]? <;> rfl
  rw [wordBit, bitAt_eq_testBit _ hi, layout.packedSize_eq_ceilDiv, hword, packedBit]

/-- Bit `col % bits` of word `col / bits` of a row. -/
def columnBit (layout : Layout) (cols : Nat) (words : List Int32) (row col : Nat) : Bool :=
  packedBit words (row * (cols ⌈/⌉ layout.bits) + col / layout.bits) (col % layout.bits)

theorem storedBit_map_toUInt32 (layout : Layout) (cols : Nat) (words : List Int32) (row col : Nat) :
    storedBit layout cols (words.map Int32.toUInt32) row col = columnBit layout cols words row col :=
  wordBit_map_toUInt32 layout cols words row _
    (Nat.lt_of_lt_of_le (layout.locate_snd_lt col) layout.bits_le)

namespace Tensor

/-- The words of a dense tensor: its bits, packed row by row. -/
def packedWords (layout : Layout) (threshold : Binary32) (t : Tensor) : List UInt32 :=
  packRows layout id t.shape.cols t.shape.rows (t.bits threshold)

@[simp] theorem length_packedWords (layout : Layout) (threshold : Binary32) (t : Tensor) :
    (t.packedWords layout threshold).length = t.shape.rows * layout.packedSize t.shape.cols :=
  length_packRows layout id _ _ _

theorem length_data {t : Tensor} (wf : t.WellFormed) (fits : t.shape.elementCount < sizeLimit) :
    t.data.length = t.shape.elementCount :=
  wf.trans (Shape.flatSize_eq_elementCount fits)

theorem length_data_eq_rows_mul_cols {t : Tensor} (wf : t.WellFormed) (rank : t.shape ≠ [])
    (fits : t.shape.elementCount < sizeLimit) : t.data.length = t.shape.rows * t.shape.cols := by
  rw [length_data wf fits, Shape.elementCount_eq_rows_mul_cols rank fits]

/-- A tensor of a packed shape has the words of each row. -/
theorem length_data_packed {layout : Layout} {t : Tensor} {shape : Shape} (wf : t.WellFormed)
    (hshape : t.shape = layout.packed shape) (rank : shape ≠ [])
    (fits : shape.elementCount < sizeLimit) :
    t.data.length = shape.rows * layout.packedSize shape.cols := by
  rw [wf, hshape, layout.flatSize_packed_of_fits (layout.rows_mul_packedSize_lt rank fits)]

/-- The bits of a tensor are what its packed words store. -/
theorem storedBits_packedWords (layout : Layout) (threshold : Binary32) {t : Tensor}
    (wf : t.WellFormed) (dense : t.dtype.isBinarizable) (rank : t.shape ≠ [])
    (fits : t.shape.elementCount < sizeLimit) :
    storedBits layout t.shape.rows t.shape.cols (t.packedWords layout threshold) =
      t.bits threshold := by
  rw [packedWords, storedBits_packRows, List.map_id]
  rw [t.length_bits threshold dense, length_data_eq_rows_mul_cols wf rank fits]

/-- Words travel through tensors unchanged. -/
@[simp] theorem toUInt32_toInt32 (words : List UInt32) :
    (words.map UInt32.toInt32).map Int32.toUInt32 = words := by
  rw [List.map_map]
  exact List.map_id'' (fun _ => rfl) words

theorem exists_int32_of_dtype {t : Tensor} (h : t.dtype = .int32) :
    ∃ words, t.data = .int32 words := by
  unfold dtype TensorData.dtype at h
  cases hdata : t.data <;> simp_all

end Tensor

/-! ## From bits to elements -/

/-- The elements of a type that stand for bits, at the levels of that type. -/
def TensorData.ofBits (dtype : DType) (quantization : Option Quantization) (bits : List Bool) :
    Except TensorError TensorData :=
  match dtype, quantization with
  | .float32, _ => .ok (.float32 (bits.map Levels.float32.value))
  | .int8, some q => do
    let levels ← Levels.int8 q
    return .int8 (bits.map levels.value)
  | .int8, none => .error (.missingQuantization .int8)
  | .bool, _ => .ok (.bool (bits.map Levels.bool.value))
  | .int32, _ => .error (.unsupportedType .int32)

/-- In each type that maps to bits, given a scale for int8, bits have elements to stand for them. -/
theorem TensorData.ofBits_eq_ok_iff {dtype : DType} {quantization : Option Quantization}
    {bits : List Bool} {data : TensorData} :
    TensorData.ofBits dtype quantization bits = .ok data ↔
      dtype = .float32 ∧ data = .float32 (bits.map Levels.float32.value) ∨
      dtype = .int8 ∧ (∃ q levels, quantization = some q ∧ Levels.int8 q = .ok levels ∧
        data = .int8 (bits.map levels.value)) ∨
      dtype = .bool ∧ data = .bool (bits.map Levels.bool.value) := by
  cases dtype with
  | int8 =>
    cases quantization with
    | none => simp [TensorData.ofBits]
    | some q => simp [TensorData.ofBits, bind_eq_ok_iff, eq_comm (a := data)]
  | _ => simp [TensorData.ofBits, eq_comm (a := data)]

theorem TensorData.dtype_ofBits {dtype : DType} {quantization : Option Quantization}
    {bits : List Bool} {data : TensorData}
    (h : TensorData.ofBits dtype quantization bits = .ok data) :
    data.dtype = dtype ∧ data.length = bits.length := by
  obtain ⟨rfl, rfl⟩ | ⟨rfl, q, levels, -, -, rfl⟩ | ⟨rfl, rfl⟩ := ofBits_eq_ok_iff.1 h
  · exact ⟨rfl, List.length_map _⟩
  · exact ⟨rfl, List.length_map _⟩
  · exact ⟨rfl, List.length_map _⟩

end OneBit
