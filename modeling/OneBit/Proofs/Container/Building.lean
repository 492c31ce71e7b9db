import OneBit.Container.File
import OneBit.Proofs.Container.Decoding
import OneBit.Proofs.Operator.Quantize

/-!
# Containers that are built and read back

Building checks the number of words against the shape, as the reader does, but it puts no bound on
the rank. So what is built always verifies, and reads back exactly when the rank is in the reader's
bounds.

* `Container.packed` : the container of a dense tensor;
* `Container.read_encode_packed` : it reads back;
* `Container.read_encode_ofDense` : what becomes of a container that was built, for every rank.
-/

namespace OneBit

open Ieee

/-- The header that is put before words packed from a shape. -/
def Header.ofWords (layout : Layout) (dtype : DType) (shape : Shape) (words : List UInt32) :
    Header where
  magic := binq
  version := currentVersion
  wordBits := UInt8.ofNat layout.bits
  dtype
  shape
  wordCount := UInt64.ofNat words.length
  checksum := wordChecksum words

namespace Header

variable {layout : Layout} {dtype : DType} {shape : Shape} {words : List UInt32}

@[simp] theorem toNat_wordBits_ofWords :
    (ofWords layout dtype shape words).wordBits.toNat = layout.bits :=
  UInt8.toNat_ofNat_of_lt (Nat.lt_of_le_of_lt layout.bits_le (by decide))

theorem toNat_wordCount_ofWords (fits : words.length < sizeLimit) :
    (ofWords layout dtype shape words).wordCount.toNat = words.length :=
  UInt64.toNat_ofNat_of_lt fits

theorem layout_ofWords : (ofWords layout dtype shape words).layout = .ok layout :=
  layout_eq_ok_iff.2 toNat_wordBits_ofWords.symm

/-- The header of a whole number of rows of words is acceptable up to the bounds on rank and sizes
that only the reader has. -/
theorem acceptable_ofWords (full : words.length = shape.rows * layout.packedSize shape.cols)
    (fits : words.length < sizeLimit) (rank : shape ≠ []) (rank_le : shape.length ≤ 16)
    (sizes : ∀ d ∈ shape, d < sizeLimit) : (ofWords layout dtype shape words).Acceptable where
  magic := rfl
  version := rfl
  rank_pos := List.length_pos_iff.2 rank
  rank_le
  sizes
  wordCount := ⟨layout, toNat_wordBits_ofWords.symm, by
    rw [toNat_wordCount_ofWords fits, full, layout.packedSize_eq_ceilDiv]
    rfl⟩

end Header

namespace Container

variable {layout : Layout} {dtype : DType} {shape : Shape} {words : List UInt32}

theorem ofWords_eq_ok (full : words.length = shape.rows * layout.packedSize shape.cols)
    (fits : words.length < sizeLimit) (rank : shape ≠ []) :
    ofWords layout dtype shape words = .ok ⟨.ofWords layout dtype shape words, words⟩ := by
  have hneeded : (Header.ofWords layout dtype shape words).expectedWords = .ok words.length := by
    refine Header.expectedWords_eq_ok_iff.2
      ⟨rank, layout, Header.toNat_wordBits_ofWords.symm, ?_, fits⟩
    rw [full, layout.packedSize_eq_ceilDiv]
    rfl
  have hcount : (Header.ofWords layout dtype shape words).wordCount.toNat = words.length :=
    Header.toNat_wordCount_ofWords fits
  rw [ofWords]
  exact bind_eq_ok_iff.2 ⟨_, hneeded, guard_eq_ok_iff.2 ⟨not_not.2 hcount.symm, rfl⟩⟩

theorem ofTensor_eq_ok {packed : Tensor} (hdata : packed.data = .int32 (words.map UInt32.toInt32))
    (full : words.length = shape.rows * layout.packedSize shape.cols)
    (fits : words.length < sizeLimit) (rank : shape ≠ []) :
    ofTensor layout dtype shape packed = .ok ⟨.ofWords layout dtype shape words, words⟩ := by
  rw [ofTensor, Tensor.int32s, hdata]
  simp only [ContainerError.ofTensor, ok_bind, Tensor.toUInt32_toInt32]
  exact ofWords_eq_ok full fits rank

/-- A container verifies when it stores the checksum of its words and no word sets a stray bit. -/
theorem verify_eq_ok_iff {c : Container} :
    c.verify = .ok () ↔ wordChecksum c.words = c.header.checksum ∧
      ∃ layout : Layout, layout.bits = c.header.wordBits.toNat ∧
        ∀ word ∈ c.words, word &&& ~~~layout.usedMask = 0 := by
  simp only [verify, guard_eq_ok_iff, bind_eq_ok_iff, Header.layout_eq_ok_iff, ne_eq, not_not]
  refine and_congr_right fun _ => exists_congr fun layout => and_congr_right fun _ => ?_
  cases hfind : c.words.find? fun word => word &&& ~~~layout.usedMask ≠ 0 with
  | none => simpa using hfind
  | some word =>
    refine iff_of_false (by simp) fun h => ?_
    have hstray := List.find?_some hfind
    simp [h word (List.mem_of_find?_eq_some hfind)] at hstray

/-- The checksum is looked at first. -/
theorem verify_of_checksum_ne {c : Container} (h : wordChecksum c.words ≠ c.header.checksum) :
    c.verify = .error (.checksumMismatch c.header.checksum (wordChecksum c.words)) := by
  simp only [verify, if_pos h]
  rfl

/-- Reading checks what verifying does, and nothing more. -/
theorem read_eq_ok_iff {bytes rest : Bytes} {c : Container} :
    read bytes = .ok (c, rest) ↔ readUnverified bytes = .ok (c, rest) ∧ c.verify = .ok () := by
  simp only [read, Reader.bind_eq_ok_iff, Reader.lift_eq_ok_iff, Reader.pure_eq_ok_iff]
  constructor
  · rintro ⟨c, _, h, _, _, ⟨hverify, rfl⟩, rfl, rfl⟩
    exact ⟨h, hverify⟩
  · rintro ⟨h, hverify⟩
    exact ⟨c, rest, h, (), rest, ⟨hverify, rfl⟩, rfl, rfl⟩

/-- A container that is all there fails as it does when it is verified. -/
theorem read_of_verify_error {bytes rest : Bytes} {c : Container} {e : ContainerError}
    (h : readUnverified bytes = .ok (c, rest)) (hverify : c.verify = .error e) :
    read bytes = .error e := by
  rw [read, Reader.bind_of_ok h]
  refine Reader.bind_of_error ?_ _
  rw [hverify]
  rfl

theorem read_encode {c : Container} (ok : c.header.Acceptable)
    (full : c.words.length = c.header.wordCount.toNat) (verified : c.verify = .ok ())
    (rest : Bytes) : read (c.encode ++ rest) = .ok (c, rest) := by
  refine read_eq_ok_iff.2 ⟨readUnverified_eq_ok_iff_append.2 ⟨ok, full, _,
    Bytes.length_littleEndian 2 0, ?_⟩, verified⟩
  rw [encode, Header.encode_eq]

/-! ## Words as a tensor -/

/-- The header goes with the words: there are as many as its shape takes at its width. -/
structure Whole (c : Container) (layout : Layout) : Prop where
  magic : c.header.magic = Header.binq
  version : c.header.version = Header.currentVersion
  layout_eq : c.header.layout = .ok layout
  rank : c.header.shape ≠ []
  length_words : c.words.length = c.header.shape.rows * layout.packedSize c.header.shape.cols
  wordCount : c.header.wordCount.toNat = c.words.length

/-- The reader sees to it, whatever the checksum. -/
theorem whole_of_readUnverified {bytes rest : Bytes} {c : Container}
    (h : readUnverified bytes = .ok (c, rest)) : ∃ layout, c.Whole layout := by
  obtain ⟨ok, hlen, -⟩ := readUnverified_eq_ok_iff_append.1 h
  obtain ⟨layout, hbits, hcount⟩ := ok.wordCount
  rw [← layout.packedSize_eq_ceilDiv] at hcount
  exact ⟨layout, ok.magic, ok.version, Header.layout_eq_ok_iff.2 hbits,
    List.ne_nil_of_length_pos ok.rank_pos, hlen.trans hcount, hlen.symm⟩

/-- So does the check of what is built, of any rank. -/
theorem whole_of_ofWords {c : Container} (fits : words.length < sizeLimit)
    (h : ofWords layout dtype shape words = .ok c) : c.Whole layout := by
  obtain ⟨needed, hneeded, h⟩ := bind_eq_ok_iff.1 h
  obtain ⟨hcount, h⟩ := guard_eq_ok_iff.1 h
  cases h
  have hlength : (Header.ofWords layout dtype shape words).wordCount.toNat = words.length :=
    Header.toNat_wordCount_ofWords fits
  obtain ⟨rank, layout', hbits, hsize, -⟩ := Header.expectedWords_eq_ok_iff.1 hneeded
  rw [← layout'.packedSize_eq_ceilDiv] at hsize
  have hlayout : layout' = layout :=
    Except.ok.inj ((Header.layout_eq_ok_iff.2 hbits).symm.trans Header.layout_ofWords)
  subst hlayout
  exact ⟨rfl, rfl, Header.layout_ofWords, rank,
    hlength.symm.trans ((not_not.1 hcount).symm.trans hsize), hlength⟩

namespace Whole

variable {c : Container} (h : c.Whole layout)

include h

/-- The header counts the words in 64 bits. -/
theorem fits : c.header.shape.rows * layout.packedSize c.header.shape.cols < sizeLimit := by
  rw [← h.length_words, ← h.wordCount]
  exact c.header.wordCount.toNat_lt

theorem wellFormed :
    Tensor.WellFormed { shape := layout.packed c.header.shape
                        data := .int32 (c.words.map UInt32.toInt32) } := by
  rw [Tensor.WellFormed, layout.flatSize_packed_of_fits h.fits, ← h.length_words]
  exact List.length_map _

theorem toTensor_eq_ok :
    c.toTensor = .ok { shape := layout.packed c.header.shape
                       data := .int32 (c.words.map UInt32.toInt32) } := by
  have hlen : (TensorData.int32 (c.words.map UInt32.toInt32)).length =
      (layout.packed c.header.shape).flatSize := h.wellFormed
  rw [toTensor, Header.packedShape_eq_ok h.layout_eq h.rank, ok_bind, Tensor.ofData, if_pos hlen]
  rfl

end Whole

end Container

/-! ## Containers of dense tensors -/

section Dense

variable (layout : Layout) (threshold : Binary32) {dense : Tensor} (h : dense.Dense)

include h

theorem Tensor.Dense.length_packedWords_lt :
    (dense.packedWords layout threshold).length < sizeLimit := by
  rw [Tensor.length_packedWords]
  exact layout.rows_mul_packedSize_lt h.rank_pos h.fits

theorem Tensor.Dense.quantized_eq_ok :
    dense.quantized layout threshold = .ok (Quantize.written layout threshold dense
      (Tensor.zeros .int32 (List.replicate dense.rank 0))) := by
  have ok : Quantize.checkTypes dense (Tensor.zeros .int32 (List.replicate dense.rank 0)) = .ok () :=
    Quantize.checkTypes_eq_ok_iff.2
      ⟨h.binarizable, rfl, h.rank_pos, by simp [Tensor.rank, Tensor.zeros]⟩
  rw [Tensor.quantized, Step.on_eq_runOn,
    Quantize.runOn_invoke (Node.Connects.pair _ _) ok h.wellFormed h.fits]
  rfl

end Dense

namespace Container

/-- The container of the packed words of a dense tensor. -/
def packed (layout : Layout) (threshold : Binary32) (dense : Tensor) : Container where
  header := .ofWords layout dense.dtype dense.shape (dense.packedWords layout threshold)
  words := dense.packedWords layout threshold

variable (layout : Layout) (threshold : Binary32) {dense : Tensor}

theorem ofTensor_written (h : dense.Dense) (output : Tensor) :
    ofTensor layout dense.dtype dense.shape (Quantize.written layout threshold dense output) =
      .ok (packed layout threshold dense) :=
  ofTensor_eq_ok rfl (Tensor.length_packedWords layout threshold dense)
    (h.length_packedWords_lt layout threshold) h.rank_pos

/-- No word of a packed tensor sets a bit that carries no element. -/
theorem verify_packed (layout : Layout) (threshold : Binary32) (dense : Tensor) :
    (packed layout threshold dense).verify = .ok () :=
  verify_eq_ok_iff.2 ⟨rfl, layout, Header.toNat_wordBits_ofWords.symm, fun _ hword =>
    packRows_and_not_usedMask layout id hword⟩

theorem toNat_wordCount_packed (h : dense.Dense) :
    (packed layout threshold dense).header.wordCount.toNat =
      (packed layout threshold dense).words.length :=
  Header.toNat_wordCount_ofWords (h.length_packedWords_lt layout threshold)

theorem acceptable_packed_iff (h : dense.Dense) :
    (packed layout threshold dense).header.Acceptable ↔ dense.rank ≤ Header.maxRank := by
  constructor
  · intro ok
    exact ok.rank_le
  · intro rank_le
    exact Header.acceptable_ofWords (Tensor.length_packedWords layout threshold dense)
      (h.length_packedWords_lt layout threshold) h.rank_pos rank_le h.sizes

/-- A packed tensor reads back, whatever follows it, if its rank is in the reader's bounds. -/
theorem read_encode_packed (h : dense.Dense) (rank_le : dense.rank ≤ Header.maxRank)
    (rest : Bytes) :
    read ((packed layout threshold dense).encode ++ rest) =
      .ok (packed layout threshold dense, rest) :=
  read_encode ((acceptable_packed_iff layout threshold h).2 rank_le)
    (toNat_wordCount_packed layout threshold h).symm (verify_packed layout threshold dense) rest

/-- Packing a dense tensor always succeeds and gives a container that verifies. It reads back from its
bytes exactly when the rank is at most 16; a larger rank is written like any other and refused by the
reader. -/
theorem read_encode_ofDense (layout : Layout) {dense : Tensor} (h : dense.Dense) :
    ∃ c, ofDense dense layout = .ok c ∧ c.verify = .ok () ∧
      (read c.encode = .ok (c, []) ↔ dense.rank ≤ Header.maxRank) ∧
      (Header.maxRank < dense.rank → ∀ bytes rest, read bytes ≠ .ok (c, rest)) ∧
      (Header.maxRank < dense.rank → dense.rank < 2 ^ 32 →
        read c.encode = .error (.invalidFormat (.invalidRank dense.rank))) := by
  have hbuild : ofDense dense layout = .ok (packed layout Binary32.zero dense) := by
    simp only [ofDense, h.quantized_eq_ok, ContainerError.ofTensor, ok_bind,
      ofTensor_written layout Binary32.zero h]
  have hrank : ∀ bytes rest, read bytes = .ok (packed layout Binary32.zero dense, rest) →
      dense.rank ≤ Header.maxRank := fun bytes rest hread =>
    (acceptable_packed_iff layout Binary32.zero h).1
      (readUnverified_eq_ok_iff_append.1 (read_eq_ok_iff.1 hread).1).1
  refine ⟨_, hbuild, verify_packed layout Binary32.zero dense, ⟨hrank _ _, fun rank_le => ?_⟩,
    fun high bytes rest hread => absurd (hrank bytes rest hread) (Nat.not_le.2 high), ?_⟩
  · simpa using read_encode_packed layout Binary32.zero h rank_le []
  · intro high fits
    have hheader := Header.read_of_rank (h := (packed layout Binary32.zero dense).header) rfl rfl
      (Or.inr high) fits
    rw [read, Reader.bind_of_error]
    rw [readUnverified, Reader.bind_of_error]
    exact hheader _

/-- A small tensor that is not a whole number of words to a row is built, verified and read back. -/
theorem read_encode_ofDense_sampleInt8s :
    sampleInt8s.Dense ∧ ∃ c, ofDense sampleInt8s byteLayout = .ok c ∧ c.verify = .ok () ∧
      read c.encode = .ok (c, []) := by
  have h : sampleInt8s.Dense := ⟨rfl, rfl, by decide, by decide, by decide⟩
  obtain ⟨c, hbuild, hverify, hread, -⟩ := read_encode_ofDense byteLayout h
  exact ⟨h, c, hbuild, hverify, hread.2 (by decide)⟩

/-- Seventeen dimensions are packed and verified, and then refused by the reader. -/
theorem ofDense_of_rank_seventeen :
    ∃ c, ofDense { shape := List.replicate 17 1, data := .bool [true] } .full = .ok c ∧
      c.verify = .ok () ∧ read c.encode = .error (.invalidFormat (.invalidRank 17)) :=
  ⟨⟨.ofWords .full .bool (List.replicate 17 1) [0], [0]⟩, by decide +kernel, by decide +kernel,
    by decide +kernel⟩

end Container

end OneBit
