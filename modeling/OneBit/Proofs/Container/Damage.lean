import OneBit.Proofs.Container.Building
import OneBit.Proofs.Crc64

/-!
# Damaged words

Bytes that are changed where the words are still read as a container, of other words. Its checksum is
wrong when the changes lie within eight consecutive bytes, and the checksum is looked at first.

* `Container.readUnverified_of_changed` : what is read from changed words;
* `Container.read_of_damage` : a local change fails on the checksum, wherever it is.
-/

namespace OneBit

namespace Container

variable {bytes changed rest : Bytes} {c : Container} {start : Nat}

/-- The bytes where the words of a container are. -/
def payload (c : Container) (bytes : Bytes) : Bytes :=
  (bytes.drop c.header.size).take (4 * c.header.wordCount.toNat)

theorem payload_eq (h : readUnverified bytes = .ok (c, rest)) :
    c.payload bytes = wordBytes c.words := by
  obtain ⟨-, hlen, reserved, hreserved, rfl⟩ := readUnverified_eq_ok_iff_append.1 h
  rw [payload, List.append_assoc _ (wordBytes _),
    List.drop_left' (c.header.length_front_back hreserved),
    List.take_left' (by rw [length_wordBytes, hlen])]

/-- Where only bytes of the words are changed, the rest of the container is read as before. -/
theorem readUnverified_of_changed (h : readUnverified bytes = .ok (c, rest))
    (hlength : changed.length = bytes.length)
    (hsame : ∀ i, changed[i]? ≠ bytes[i]? →
      c.header.size ≤ i ∧ i < c.header.size + 4 * c.header.wordCount.toNat) :
    ∃ words, readUnverified changed = .ok ({ c with words }, rest) := by
  obtain ⟨ok, hlen, reserved, hreserved, rfl⟩ := readUnverified_eq_ok_iff_append.1 h
  have hhead := c.header.length_front_back hreserved
  have hgap : (wordBytes c.words).length = 4 * c.header.wordCount.toNat := by
    rw [length_wordBytes, hlen]
  have hparts : ∃ filled : Bytes, filled.length = (wordBytes c.words).length ∧
      changed = c.header.front ++ reserved ++ c.header.back ++ filled ++ rest ++ [] := by
    refine Header.eq_append_gap_iff.2
      ⟨hlength.ge, fun i _ hout => ?_, (List.drop_eq_nil_of_le hlength.le).symm⟩
    by_contra hne
    have := hsame i hne
    omega
  obtain ⟨filled, hfilled, hchanged⟩ := hparts
  obtain ⟨words, rfl⟩ := exists_wordBytes_eq (hfilled.trans hgap)
  have hcount : words.length = c.header.wordCount.toNat := by
    rw [length_wordBytes, hgap] at hfilled
    omega
  rw [List.append_nil] at hchanged
  exact ⟨words, readUnverified_eq_ok_iff_append.2 ⟨ok, hcount, reserved, hreserved, hchanged⟩⟩

/-- Changes within eight consecutive bytes of the words change the checksum. -/
theorem checksum_payload_ne (hlength : changed.length = bytes.length) (hne : changed ≠ bytes)
    (hsame : ∀ i, changed[i]? ≠ bytes[i]? →
      (c.header.size ≤ i ∧ i < c.header.size + 4 * c.header.wordCount.toNat) ∧
        start ≤ i ∧ i < start + 8) :
    Crc64.checksum (c.payload changed) ≠ Crc64.checksum (c.payload bytes) := by
  have hget : ∀ (all : Bytes) (i : Nat), (c.payload all)[i]? =
      if i < 4 * c.header.wordCount.toNat then all[c.header.size + i]? else none := fun all i => by
    rw [payload, List.getElem?_take, List.getElem?_drop]
  have hwindow : ∀ i, (c.payload changed)[i]? ≠ (c.payload bytes)[i]? →
      start - c.header.size ≤ i ∧ i < start - c.header.size + 8 := by
    intro i hi
    rw [hget, hget] at hi
    by_cases hin : i < 4 * c.header.wordCount.toNat
    · rw [if_pos hin, if_pos hin] at hi
      have := hsame _ hi
      omega
    · simp [hin] at hi
  rw [ne_eq, Crc64.checksum_eq_iff (by simp [payload, hlength]) hwindow]
  intro heq
  -- Every place where the bytes differ is one of the words.
  refine hne (List.ext_getElem? fun i => ?_)
  by_contra hi
  obtain ⟨⟨hlow, hhigh⟩, -⟩ := hsame i hi
  have hword := congrArg (·[i - c.header.size]?) heq
  simp only [hget, if_pos (by omega : i - c.header.size < 4 * c.header.wordCount.toNat),
    Nat.add_sub_cancel' hlow] at hword
  exact hi hword

/-- Whatever is changed within eight consecutive bytes of the words of a container that reads, reading
fails on the checksum: the one that is stored against another that is found. So words that differ there
only have different checksums. -/
theorem read_of_damage :
    (∀ {bytes changed rest : Bytes} {c : Container} {start : Nat}, read bytes = .ok (c, rest) →
      changed.length = bytes.length → changed ≠ bytes →
      (∀ i, changed[i]? ≠ bytes[i]? →
        (c.header.size ≤ i ∧ i < c.header.size + 4 * c.header.wordCount.toNat) ∧
          start ≤ i ∧ i < start + 8) →
      ∃ found, read changed = .error (.checksumMismatch c.header.checksum found) ∧
        found = Crc64.checksum (c.payload changed) ∧ found ≠ c.header.checksum) ∧
    ∀ {words changed : List UInt32} {start : Nat}, changed.length = words.length →
      changed ≠ words →
      (∀ i, (wordBytes changed)[i]? ≠ (wordBytes words)[i]? → start ≤ i ∧ i < start + 8) →
      wordChecksum changed ≠ wordChecksum words := by
  constructor
  · intro bytes changed rest c start h hlength hne hsame
    obtain ⟨hread, hverify⟩ := read_eq_ok_iff.1 h
    obtain ⟨words, hchanged⟩ := readUnverified_of_changed hread hlength fun i hi => (hsame i hi).1
    have hfound : wordChecksum words = Crc64.checksum (c.payload changed) :=
      congrArg Crc64.checksum (payload_eq hchanged).symm
    have hstored : c.header.checksum = Crc64.checksum (c.payload bytes) := by
      rw [payload_eq hread]
      exact (verify_eq_ok_iff.1 hverify).1.symm
    have hdiffer : wordChecksum words ≠ c.header.checksum := by
      rw [hfound, hstored]
      exact checksum_payload_ne hlength hne hsame
    exact ⟨_, read_of_verify_error hchanged (verify_of_checksum_ne hdiffer), hfound, hdiffer⟩
  · intro words changed start hlength hne hsame
    rw [wordChecksum, wordChecksum, ne_eq, Crc64.checksum_eq_iff (by simp [hlength]) hsame]
    exact wordBytes_injective.ne hne

/-- Three words of eight bits each, for three rows of a matrix. -/
def sampleRows : Container where
  header := .ofWords byteLayout .int8 [3, 3] [1, 2, 3]
  words := [1, 2, 3]

/-- One byte of the second word and one of the third are five apart. -/
theorem read_of_damage_sampleRows :
    read sampleRows.encode = .ok (sampleRows, []) ∧
    ∃ found, read ((sampleRows.encode.set 53 7).set 58 9) =
        .error (.checksumMismatch sampleRows.header.checksum found) ∧
      found ≠ sampleRows.header.checksum := by
  have hread : read sampleRows.encode = .ok (sampleRows, []) := by decide +kernel
  have hne : (sampleRows.encode.set 53 7).set 58 9 ≠ sampleRows.encode := by decide +kernel
  have hsame : ∀ i, ((sampleRows.encode.set 53 7).set 58 9)[i]? ≠ sampleRows.encode[i]? →
      i = 53 ∨ i = 58 := by
    intro i hi
    by_contra hout
    rw [not_or] at hout
    rw [List.getElem?_set_ne (Ne.symm hout.2), List.getElem?_set_ne (Ne.symm hout.1)] at hi
    exact hi rfl
  have hsize : sampleRows.header.size = 48 := rfl
  have hcount : sampleRows.header.wordCount.toNat = 3 := rfl
  have hwindow : ∀ i, ((sampleRows.encode.set 53 7).set 58 9)[i]? ≠ sampleRows.encode[i]? →
      (sampleRows.header.size ≤ i ∧
        i < sampleRows.header.size + 4 * sampleRows.header.wordCount.toNat) ∧
      52 ≤ i ∧ i < 52 + 8 := by
    intro i hi
    rw [hsize, hcount]
    have := hsame i hi
    omega
  obtain ⟨found, herror, -, hfound⟩ := read_of_damage.1 hread (by simp) hne hwindow
  exact ⟨hread, found, herror, hfound⟩

end Container

end OneBit
