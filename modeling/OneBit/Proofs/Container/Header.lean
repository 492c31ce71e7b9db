import OneBit.Container.Header
import OneBit.Proofs.Container.Reader
import OneBit.Proofs.Layout

/-!
# Which bytes are a header

A header is a front of ten bytes, two reserved bytes and a back. `Header.read` accepts exactly the
bytes that begin with an acceptable header's encoding, where the reserved bytes may be anything:

* `Header.Acceptable` : what the reader demands of the fields;
* `Header.read_eq_ok_iff` : the bytes it accepts, and where it stops;
* `Header.read_eq_ok_iff_getElem` : the same, byte by byte.
-/

namespace OneBit

theorem DType.code_of_ofCode? {code : UInt8} {dtype : DType} (h : ofCode? code = some dtype) :
    dtype.code = code := by
  unfold ofCode? at h
  split_ifs at h <;> cases h <;> simp_all [DType.code]

namespace Header

theorem layout_eq_ok_iff {h : Header} {layout : Layout} :
    h.layout = .ok layout ↔ layout.bits = h.wordBits.toNat := by
  rw [← Layout.ofBits_eq_ok_iff, Header.layout]
  cases Layout.ofBits h.wordBits.toNat <;> simp [ContainerError.ofTensor]

theorem packedShape_eq_ok {h : Header} {layout : Layout} (hlayout : h.layout = .ok layout)
    (rank : h.shape ≠ []) : h.packedShape = .ok (layout.packed h.shape) := by
  rw [packedShape, hlayout, ok_bind, layout.packedShape_eq_ok rank]
  rfl

/-- The words that a shape takes: `⌈last / bits⌉` for each of its rows. -/
theorem expectedWords_eq_ok_iff {h : Header} {n : Nat} :
    h.expectedWords = .ok n ↔
      h.shape ≠ [] ∧ ∃ layout : Layout, layout.bits = h.wordBits.toNat ∧
        n = h.shape.rows * (h.shape.cols ⌈/⌉ layout.bits) ∧
        n < sizeLimit := by
  simp only [expectedWords, bind_eq_ok_iff, layout_eq_ok_iff]
  by_cases hshape : h.shape = []
  · simp [hshape, Shape.rowsCols, ContainerError.ofTensor]
  · simp only [Shape.rowsCols_eq_ok hshape, ContainerError.ofTensor, checkedMul?,
      Layout.packedSize_eq_ceilDiv, Except.ok.injEq, exists_eq_left']
    refine Iff.trans (exists_congr fun layout => and_congr_right fun _ => ?_)
      (and_iff_right hshape).symm
    split_ifs with hlt
    · simp only [pure_eq_ok, Except.ok.injEq]
      constructor
      · rintro rfl
        exact ⟨rfl, hlt⟩
      · rintro ⟨rfl, -⟩
        rfl
    · refine iff_of_false (by simp) ?_
      rintro ⟨rfl, hn⟩
      exact hlt hn

/-- What the reader demands of the fields of a header. -/
structure Acceptable (h : Header) : Prop where
  magic : h.magic = binq
  version : h.version = currentVersion
  rank_pos : 1 ≤ h.shape.length
  rank_le : h.shape.length ≤ 16
  sizes : ∀ d ∈ h.shape, d < sizeLimit
  wordCount : ∃ layout : Layout, layout.bits = h.wordBits.toNat ∧
    h.wordCount.toNat = h.shape.rows * (h.shape.cols ⌈/⌉ layout.bits)

/-- The fields before the reserved bytes. -/
def front (h : Header) : Bytes :=
  Bytes.littleEndian 4 h.magic.toNat ++ Bytes.littleEndian 4 h.version.toNat
    ++ [h.wordBits, h.dtype.code]

/-- The fields after the reserved bytes. -/
def back (h : Header) : Bytes :=
  Bytes.littleEndian 4 h.shape.length ++ h.shape.flatMap (Bytes.littleEndian 8)
    ++ Bytes.littleEndian 8 h.wordCount.toNat ++ Bytes.littleEndian 8 h.checksum.toNat

@[simp] theorem length_front (h : Header) : h.front.length = 10 := by
  simp [front]

theorem encode_eq (h : Header) : h.encode = h.front ++ Bytes.littleEndian 2 0 ++ h.back := by
  simp [encode, front, back]

theorem length_front_back (h : Header) {reserved : Bytes} (hreserved : reserved.length = 2) :
    (h.front ++ reserved ++ h.back).length = h.size := by
  rw [← length_encode, encode_eq]
  simp only [List.length_append, Bytes.length_littleEndian, hreserved]

theorem acceptable_of_read {bytes rest : Bytes} {h : Header} (hread : read bytes = .ok (h, rest)) :
    h.Acceptable ∧ ∃ reserved : Bytes, reserved.length = 2 ∧
      bytes = h.front ++ reserved ++ h.back ++ rest := by
  simp only [read, ↓Reader.bind_eq_ok_iff, ↓Reader.guard_eq_ok_iff, ↓Reader.word_inverts _ _ _,
    ↓Reader.byte_inverts _ _ _] at hread
  obtain ⟨magic, _, ⟨-, rfl⟩, hmagic, version, _, ⟨-, rfl⟩, hversion, wordBits, _, ⟨-, rfl⟩, code,
    _, ⟨-, rfl⟩, hread⟩ := hread
  cases hdtype : DType.ofCode? code with
  | none =>
    rw [hdtype] at hread
    exact absurd hread Reader.throw_ne_ok
  | some dtype =>
    simp only [hdtype] at hread
    simp only [↓Reader.bind_eq_ok_iff, ↓Reader.guard_eq_ok_iff, ↓Reader.take_eq_ok_iff,
      ↓Reader.number_inverts _ _ _ _, ↓Reader.many_inverts (Reader.number_inverts 8) _ _ _ _,
      ↓Reader.long_inverts _ _ _, ↓Reader.lift_eq_ok_iff, ↓Reader.pure_eq_ok_iff] at hread
    obtain ⟨reserved, _, ⟨hreserved, rfl⟩, rank, _, ⟨-, rfl⟩, hrank, shape, _, ⟨⟨rfl, hsizes⟩, rfl⟩,
      wordCount, _, ⟨-, rfl⟩, checksum, _, ⟨-, rfl⟩, needed, _, ⟨hneeded, rfl⟩, hwords, rfl, rfl⟩ :=
        hread
    obtain ⟨-, layout, hbits, hcount, -⟩ := expectedWords_eq_ok_iff.1 hneeded
    rw [not_or] at hrank
    refine ⟨⟨not_not.1 hmagic, not_not.1 hversion, Nat.one_le_iff_ne_zero.2 hrank.1,
      Nat.not_lt.1 hrank.2, hsizes, layout, hbits, ?_⟩, reserved, hreserved, ?_⟩
    · rw [← hcount]
      exact (not_not.1 hwords).symm
    · simp [front, back, DType.code_of_ofCode? hdtype]

theorem Acceptable.read_append {h : Header} (ok : h.Acceptable) {reserved : Bytes}
    (hreserved : reserved.length = 2) (rest : Bytes) :
    read (h.front ++ reserved ++ h.back ++ rest) = .ok (h, rest) := by
  obtain ⟨layout, hbits, hcount⟩ := ok.wordCount
  have hcode := DType.ofCode?_code h.dtype
  have hrank : h.shape.length < 256 ^ 4 := Nat.lt_of_le_of_lt ok.rank_le (by decide)
  have hbounds : ¬(h.shape.length = 0 ∨ maxRank < h.shape.length) := by
    rw [not_or]
    exact ⟨Nat.one_le_iff_ne_zero.1 ok.rank_pos, Nat.not_lt.2 ok.rank_le⟩
  have hneeded : h.expectedWords = .ok h.wordCount.toNat :=
    expectedWords_eq_ok_iff.2 ⟨List.ne_nil_of_length_pos ok.rank_pos, layout, hbits, hcount,
      h.wordCount.toNat_lt⟩
  simp only [read, ↓Reader.bind_eq_ok_iff, ↓Reader.guard_eq_ok_iff, ↓Reader.word_inverts _ _ _,
    ↓Reader.byte_inverts _ _ _]
  refine ⟨h.magic, _, ⟨trivial, by simp [front]; rfl⟩, not_not.2 ok.magic, h.version, _,
    ⟨trivial, rfl⟩, not_not.2 ok.version, h.wordBits, _, ⟨trivial, rfl⟩, h.dtype.code, _,
    ⟨trivial, rfl⟩, ?_⟩
  simp only [hcode, ↓Reader.bind_eq_ok_iff, ↓Reader.guard_eq_ok_iff, ↓Reader.take_eq_ok_iff,
    ↓Reader.number_inverts _ _ _ _, ↓Reader.many_inverts (Reader.number_inverts 8) _ _ _ _,
    ↓Reader.long_inverts _ _ _, ↓Reader.lift_eq_ok_iff, ↓Reader.pure_eq_ok_iff]
  exact ⟨reserved, _, ⟨hreserved, rfl⟩, h.shape.length, _, ⟨hrank, by simp [back]⟩, hbounds, h.shape,
    _, ⟨⟨rfl, ok.sizes⟩, rfl⟩, h.wordCount, _, ⟨trivial, rfl⟩, h.checksum, _, ⟨trivial, rfl⟩,
    h.wordCount.toNat, _, ⟨hneeded, rfl⟩, not_not.2 rfl, rfl, rfl⟩

/-- The bytes of an acceptable header, with anything in the reserved bytes, and whatever follows. -/
theorem read_eq_ok_iff {bytes rest : Bytes} {h : Header} :
    read bytes = .ok (h, rest) ↔
      h.Acceptable ∧ ∃ reserved : Bytes, reserved.length = 2 ∧
        bytes = h.front ++ reserved ++ h.back ++ rest := by
  constructor
  · exact acceptable_of_read
  · rintro ⟨ok, reserved, hreserved, rfl⟩
    exact ok.read_append hreserved rest

/-- A rank out of bounds is refused before the dimensions are read. -/
theorem read_of_rank {h : Header} (magic : h.magic = binq) (version : h.version = currentVersion)
    (rank : h.shape.length = 0 ∨ maxRank < h.shape.length) (fits : h.shape.length < 2 ^ 32)
    (rest : Bytes) :
    read (h.encode ++ rest) = .error (.invalidFormat (.invalidRank h.shape.length)) := by
  have hrank : ∀ tail, Reader.number 4 (Bytes.littleEndian 4 h.shape.length ++ tail) =
      .ok (h.shape.length, tail) := fun tail => (Reader.number_inverts 4 _ _ _).2 ⟨fits, rfl⟩
  have hword : ∀ w tail, Reader.word (Bytes.littleEndian 4 (UInt32.toNat w) ++ tail) = .ok (w, tail) :=
    fun w tail => (Reader.word_inverts _ _ _).2 ⟨trivial, rfl⟩
  have hbyte : ∀ b tail, Reader.byte (b :: tail) = .ok (b, tail) :=
    fun b tail => (Reader.byte_inverts _ _ _).2 ⟨trivial, rfl⟩
  have hgap : ∀ tail, Reader.take 2 (Bytes.littleEndian 2 0 ++ tail) = .ok (_, tail) :=
    fun tail => Reader.take_eq_ok_iff.2 ⟨Bytes.length_littleEndian 2 0, rfl⟩
  rw [encode_eq, front, back]
  simp only [List.append_assoc, List.cons_append, List.nil_append]
  simp only [read, ↓Reader.bind_of_ok (hword _ _), ↓Reader.bind_of_ok (hbyte _ _),
    ↓if_neg (not_not.2 magic), ↓if_neg (not_not.2 version), DType.ofCode?_code,
    ↓Reader.bind_of_ok (hgap _), ↓Reader.bind_of_ok (hrank _), ↓if_pos rank]
  rfl

/-! ## Byte by byte -/

theorem take_drop_eq {bytes part : Bytes} {start : Nat}
    (h : ∀ i < part.length, bytes[start + i]? = part[i]?) :
    (bytes.drop start).take part.length = part := by
  apply List.ext_getElem?
  intro i
  by_cases hi : i < part.length
  · rw [List.getElem?_take_of_lt hi, List.getElem?_drop, h i hi]
  · rw [List.getElem?_eq_none (by rw [List.length_take]; omega), List.getElem?_eq_none (by omega)]

/-- Bytes agree with a front, a gap and a back outside the gap exactly when they are made of them
with something in the gap. -/
theorem eq_append_gap_iff {front gap back bytes rest : Bytes} :
    (∃ filled : Bytes, filled.length = gap.length ∧ bytes = front ++ filled ++ back ++ rest) ↔
      (front ++ gap ++ back).length ≤ bytes.length ∧
      (∀ i < (front ++ gap ++ back).length, i < front.length ∨ front.length + gap.length ≤ i →
        bytes[i]? = (front ++ gap ++ back)[i]?) ∧
      rest = bytes.drop (front ++ gap ++ back).length := by
  constructor
  · rintro ⟨filled, hfilled, rfl⟩
    refine ⟨by simp [hfilled], fun i hi hout => ?_, ?_⟩
    · rw [List.getElem?_append_left (by simp_all)]
      rcases hout with hfront | hback
      · rw [List.append_assoc, List.append_assoc, List.getElem?_append_left hfront,
          List.getElem?_append_left hfront]
      · rw [List.getElem?_append_right (by simpa [hfilled] using hback),
          List.getElem?_append_right (by simpa using hback)]
        simp [hfilled]
    · rw [List.drop_left' (by simp [hfilled])]
  · rintro ⟨hlen, hagree, rfl⟩
    simp only [List.length_append] at hlen hagree ⊢
    have hfront : (bytes.drop 0).take front.length = front := by
      apply take_drop_eq
      intro i hi
      rw [Nat.zero_add, hagree i (by omega) (Or.inl hi), List.append_assoc,
        List.getElem?_append_left hi]
    have hback : (bytes.drop (front.length + gap.length)).take back.length = back := by
      apply take_drop_eq
      intro i hi
      rw [hagree _ (by omega) (Or.inr (by omega)), List.getElem?_append_right (by simp)]
      simp
    refine ⟨(bytes.drop front.length).take gap.length, by simp; omega, ?_⟩
    conv_lhs => rw [← List.take_append_drop front.length bytes,
      ← List.take_append_drop gap.length (bytes.drop front.length), List.drop_drop,
      ← List.take_append_drop back.length (bytes.drop (front.length + gap.length)), List.drop_drop]
    rw [List.drop_zero] at hfront
    rw [hfront, hback]
    simp

/-- The bytes of an acceptable header, where those at 10 and 11 do not matter. -/
theorem read_eq_ok_iff_getElem {bytes rest : Bytes} {h : Header} :
    read bytes = .ok (h, rest) ↔
      h.Acceptable ∧ h.size ≤ bytes.length ∧
      (∀ i < h.size, i ≠ 10 → i ≠ 11 → bytes[i]? = h.encode[i]?) ∧ rest = bytes.drop h.size := by
  rw [read_eq_ok_iff, ← length_encode, encode_eq, ← Bytes.length_littleEndian 2 0, eq_append_gap_iff,
    length_front, Bytes.length_littleEndian]
  refine and_congr_right fun _ => and_congr_right fun _ => and_congr_left fun _ =>
    forall_congr' fun i => imp_congr_right fun _ => ?_
  constructor
  · intro h h10 h11
    exact h (by omega)
  · intro h hout
    exact h (by omega) (by omega)

end Header

end OneBit
