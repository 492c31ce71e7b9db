import Mathlib.Tactic.Ring
import OneBit.Container
import OneBit.Proofs.Container.Header

/-!
# Which bytes are a container

After its header a container holds four bytes for each word. `Container.readUnverified` accepts
exactly the bytes that begin this way, takes as many as it needs and no more, and
`Container.decodes_exactly_encodings` puts that together with the header.
-/

namespace OneBit

@[simp] theorem length_wordBytes (words : List UInt32) :
    (wordBytes words).length = 4 * words.length := by
  induction words with
  | nil => rfl
  | cons word words ih =>
    rw [wordBytes, List.flatMap_cons, List.length_append, Bytes.length_littleEndian, ← wordBytes, ih,
      List.length_cons]
    ring

theorem wordBytes_injective : Function.Injective wordBytes := by
  intro v w h
  have hread : ∀ words : List UInt32,
      Reader.many Reader.word words.length (wordBytes words ++ []) = .ok (words, []) := fun words =>
    (Reader.many_inverts Reader.word_inverts _ _ _ _).2 ⟨⟨rfl, fun _ _ => trivial⟩, rfl⟩
  have hlength : v.length = w.length := by
    have := congrArg List.length h
    simpa using this
  have hv := hread v
  rw [h, hlength, hread w] at hv
  exact (Prod.mk.inj (Except.ok.inj hv)).1.symm

/-- Any bytes are those of words, if their number is a multiple of four. -/
theorem exists_wordBytes_eq {n : Nat} {bytes : Bytes} (h : bytes.length = 4 * n) :
    ∃ words, wordBytes words = bytes := by
  induction n generalizing bytes with
  | zero => exact ⟨[], (List.length_eq_zero_iff.1 h).symm⟩
  | succ n ih =>
    have hdrop : (bytes.drop 4).length = 4 * n := by rw [List.length_drop]; omega
    obtain ⟨words, hwords⟩ := ih hdrop
    have hfour : (bytes.take 4).length = 4 := by rw [List.length_take]; omega
    have hlt := Bytes.toNat_lt (bytes.take 4)
    have hback := Bytes.littleEndian_toNat (bytes.take 4)
    rw [hfour] at hlt hback
    refine ⟨UInt32.ofNat (Bytes.toNat (bytes.take 4)) :: words, ?_⟩
    rw [wordBytes, List.flatMap_cons, ← wordBytes, hwords, UInt32.toNat_ofNat_of_lt' hlt, hback,
      List.take_append_drop]

namespace Container

theorem readUnverified_eq_ok_iff {bytes rest : Bytes} {c : Container} :
    readUnverified bytes = .ok (c, rest) ↔
      Header.read bytes = .ok (c.header, wordBytes c.words ++ rest) ∧
        c.words.length = c.header.wordCount.toNat := by
  simp only [readUnverified, Reader.bind_eq_ok_iff, Reader.pure_eq_ok_iff,
    Reader.many_inverts Reader.word_inverts _ _ _ _]
  constructor
  · rintro ⟨header, _, hheader, words, _, ⟨⟨hlen, -⟩, rfl⟩, rfl, rfl⟩
    exact ⟨hheader, hlen⟩
  · rintro ⟨hheader, hlen⟩
    exact ⟨c.header, _, hheader, c.words, rest, ⟨⟨hlen, fun _ _ => trivial⟩, rfl⟩, rfl, rfl⟩

/-- The bytes of a container that reads, with anything in the reserved bytes and behind. -/
theorem readUnverified_eq_ok_iff_append {bytes rest : Bytes} {c : Container} :
    readUnverified bytes = .ok (c, rest) ↔
      c.header.Acceptable ∧ c.words.length = c.header.wordCount.toNat ∧
        ∃ reserved : Bytes, reserved.length = 2 ∧
          bytes = c.header.front ++ reserved ++ c.header.back ++ wordBytes c.words ++ rest := by
  rw [readUnverified_eq_ok_iff, Header.read_eq_ok_iff]
  simp only [List.append_assoc]
  constructor
  · rintro ⟨⟨ok, hbytes⟩, hlen⟩
    exact ⟨ok, hlen, hbytes⟩
  · rintro ⟨ok, hlen, hbytes⟩
    exact ⟨⟨ok, hbytes⟩, hlen⟩

/-- What follows a container does not matter to the reader, and it leaves all of it. -/
theorem readUnverified_take_append {bytes rest : Bytes} {c : Container}
    (h : readUnverified bytes = .ok (c, rest)) (tail : Bytes) :
    readUnverified (bytes.take (c.header.size + 4 * c.header.wordCount.toNat) ++ tail) =
      .ok (c, tail) := by
  obtain ⟨ok, hlen, reserved, hreserved, rfl⟩ := readUnverified_eq_ok_iff_append.1 h
  have hsize : c.header.size + 4 * c.header.wordCount.toNat =
      (c.header.front ++ reserved ++ c.header.back ++ wordBytes c.words).length := by
    rw [List.length_append, c.header.length_front_back hreserved, length_wordBytes, hlen]
  rw [hsize, List.take_left]
  exact readUnverified_eq_ok_iff_append.2 ⟨ok, hlen, reserved, hreserved, rfl⟩

/-- A header reads from exactly the bytes that begin with its encoding, reserved bytes aside, and a
container from exactly those where the little-endian words come next. Nothing behind them matters. -/
theorem decodes_exactly_encodings (bytes : Bytes) :
    (∀ h : Header, (∃ rest, Header.read bytes = .ok (h, rest)) ↔
      h.Acceptable ∧ h.size ≤ bytes.length ∧
        ∀ i < h.size, i ≠ 10 → i ≠ 11 → bytes[i]? = h.encode[i]?) ∧
    (∀ c : Container, (∃ rest, readUnverified bytes = .ok (c, rest)) ↔
      (∃ rest, Header.read bytes = .ok (c.header, rest)) ∧
        c.words.length = c.header.wordCount.toNat ∧
        wordBytes c.words <+: bytes.drop c.header.size) ∧
    (∀ (c : Container) (rest : Bytes), readUnverified bytes = .ok (c, rest) → ∀ tail,
      readUnverified (bytes.take (c.header.size + 4 * c.header.wordCount.toNat) ++ tail) =
        .ok (c, tail)) := by
  refine ⟨fun h => ?_, fun c => ?_, fun c rest h tail => readUnverified_take_append h tail⟩
  · simp only [Header.read_eq_ok_iff_getElem, exists_and_left, exists_eq, and_true]
  · constructor
    · rintro ⟨rest, h⟩
      obtain ⟨hheader, hlen⟩ := readUnverified_eq_ok_iff.1 h
      obtain ⟨-, -, -, hrest⟩ := Header.read_eq_ok_iff_getElem.1 hheader
      exact ⟨⟨_, hheader⟩, hlen, rest, hrest⟩
    · rintro ⟨⟨mid, hheader⟩, hlen, rest, hrest⟩
      obtain ⟨-, -, -, hmid⟩ := Header.read_eq_ok_iff_getElem.1 hheader
      rw [← hmid] at hrest
      exact ⟨rest, readUnverified_eq_ok_iff.2 ⟨hrest ▸ hheader, hlen⟩⟩

end Container

end OneBit
