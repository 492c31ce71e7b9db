import OneBit.TensorFile.Printer
import OneBit.Proofs.Operator.Bits

/-!
# Tensors from files

A file that is accepted gives 64-bit dimensions, elements of a type that packs, and as many of them as
the shape says: `TensorFile.dense_of_toTensor`. Any tensor of such a type can be written again.
-/

namespace OneBit

open Ieee

namespace Json

variable {v : Value}

/-- The digits that are taken in make a number of 64 bits. -/
theorem absorb_lt {significand : Nat} (h : significand < sizeLimit) (digits : List Nat) :
    (absorb significand digits).1 < sizeLimit := by
  induction digits generalizing significand with
  | nil => exact h
  | cons d rest ih =>
    rw [absorb]
    split
    · rename_i hd
      exact ih hd
    · exact h

theorem lt_of_number?_eq_natural {l : Literal} {n : Nat} (h : l.number? = some (.natural n)) :
    n < sizeLimit := by
  have hlt : (absorb 0 l.whole).1 < sizeLimit := absorb_lt (by decide) l.whole
  unfold Literal.number? at h
  simp only at h
  split at h
  · split at h
    · simp only [Option.some.injEq, Number.natural.injEq] at h
      exact h ▸ hlt
    · split at h <;> simp at h
  · simp at h

theorem size?_lt {n : Nat} (h : size? v = some n) : n < sizeLimit := by
  unfold size? at h
  split at h
  · rename_i m hm
    cases v with
    | number l => exact Option.some.inj h ▸ lt_of_number?_eq_natural hm
    | _ => simp [number?] at hm
  · simp at h

/-- What holds of every outcome of a traversal's step holds of its outcomes. -/
theorem forall_mem_of_mapM {α β : Type} {f : α → Option β} {p : β → Prop} {xs : List α} {ys : List β}
    (h : xs.mapM f = some ys) (hp : ∀ x y, f x = some y → p y) : ∀ y ∈ ys, p y := by
  induction xs generalizing ys with
  | nil =>
    cases h
    simp
  | cons x xs ih =>
    rw [List.mapM_cons] at h
    obtain ⟨y, hy, h⟩ := Option.bind_eq_some_iff.1 h
    obtain ⟨ys, hys, h⟩ := Option.bind_eq_some_iff.1 h
    cases h
    exact List.forall_mem_cons.2 ⟨hp x y hy, ih hys⟩

theorem shape?_lt {shape : Shape} (h : shape? v = some shape) : ∀ d ∈ shape, d < sizeLimit := by
  cases v with
  | array items => exact forall_mem_of_mapM h fun _ _ => size?_lt
  | _ => simp [shape?] at h

end Json

namespace TensorFile

variable {file : TensorFile} {t : Tensor}

theorem sizes_of_ofJson? {v : Json.Value} (h : ofJson? v = some file) :
    ∀ d ∈ file.shape, d < sizeLimit := by
  obtain ⟨fields, -, h⟩ := Option.bind_eq_some_iff.1 h
  split at h
  · dsimp only at h
    -- The parameters may be missing, null or given; what follows them is the same.
    split at h
    all_goals
      obtain ⟨quantization, -, h⟩ := Option.bind_eq_some_iff.1 h
      obtain ⟨dtype, -, h⟩ := Option.bind_eq_some_iff.1 h
      obtain ⟨shape, hshape, h⟩ := Option.bind_eq_some_iff.1 h
      obtain ⟨data, -, h⟩ := Option.bind_eq_some_iff.1 h
      cases h
      exact Json.shape?_lt hshape
  · simp at h

/-- Elements come in the type that the file names, which is never that of packed words. -/
theorem dtype_of_elements {dtype : DType} {data : FileData} {values : TensorData}
    (h : elements dtype data = .ok values) : values.dtype = dtype ∧ dtype.isBinarizable := by
  unfold elements at h
  split at h
  · cases h
    exact ⟨rfl, rfl⟩
  · obtain ⟨_, -, h⟩ := bind_eq_ok_iff.1 h
    cases h
    exact ⟨rfl, rfl⟩
  · cases h
    exact ⟨rfl, rfl⟩
  · cases h
    exact ⟨rfl, rfl⟩
  · simp at h

theorem toTensor_eq_ok_iff : file.toTensor = .ok t ↔
    ∃ data, elements file.dtype file.data = .ok data ∧
      data.length = file.shape.flatSize ∧
      t = { shape := file.shape, data, quantization := file.quantization } := by
  unfold toTensor Tensor.ofData
  simp only [bind_eq_ok_iff]
  refine exists_congr fun data => and_congr_right fun _ => ?_
  by_cases hlen : data.length = file.shape.flatSize
  · simp [hlen, eq_comm]
  · simp [hlen]

/-- A tensor from a file packs, unless it is a scalar or has too many elements. -/
theorem dense_of_toTensor {bytes : Bytes} (hfile : ofBytes? bytes = some file)
    (h : file.toTensor = .ok t) (rank : t.shape ≠ []) (fits : t.shape.elementCount < sizeLimit) :
    t.Dense := by
  obtain ⟨v, -, hfile⟩ := Option.bind_eq_some_iff.1 hfile
  obtain ⟨data, helements, hlen, rfl⟩ := toTensor_eq_ok_iff.1 h
  obtain ⟨hdtype, hbinarizable⟩ := dtype_of_elements helements
  have hdense : data.dtype.isBinarizable := by rw [hdtype, hbinarizable]
  exact ⟨hlen, hdense, rank, sizes_of_ofJson? hfile, fits⟩

end TensorFile

theorem Tensor.fileText_eq_ok {t : Tensor} (h : t.dtype.isBinarizable) :
    ∃ text, t.fileText = .ok text := by
  unfold Tensor.dtype TensorData.dtype at h
  unfold fileText TensorFile.ofTensor
  cases hdata : t.data with
  | int32 values => simp [hdata, DType.isBinarizable] at h
  | _ => exact ⟨_, rfl⟩

end OneBit
