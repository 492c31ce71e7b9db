import OneBit.Proofs.Container.Building

/-!
# Containers cut short

A reader is self-delimiting when what it accepts is a stretch of bytes that says itself where it ends:
the bytes behind it are left alone, and a part of it is too short. Readers in sequence are if each of
them is, and checks between them change nothing, because those that the whole stretch passes are passed
by every part of it that is long enough to be checked.

* `Reader.SelfDelimiting` : the property, kept by `bind`, `guard` and `many`;
* `Container.selfDelimiting_readUnverified` : containers have it;
* `Container.read_of_cut` : a container that is cut short is never taken for anything else.
-/

namespace OneBit

namespace Reader

variable {α β : Type}

/-- What the reader accepts ends where it says, and the bytes run out on each proper prefix of it. -/
def SelfDelimiting (r : Reader α) : Prop :=
  ∀ (bytes rest : Bytes) (x : α), r bytes = .ok (x, rest) → ∃ used, bytes = used ++ rest ∧
    (∀ tail, r (used ++ tail) = .ok (x, tail)) ∧
    ∀ cut, cut <+: used → cut ≠ used → r cut = .error (.io .endOfInput)

namespace SelfDelimiting

variable {r : Reader α} {e : ContainerError}

theorem pure (a : α) : SelfDelimiting (Pure.pure a : Reader α) := by
  intro bytes rest x h
  obtain ⟨rfl, rfl⟩ := pure_eq_ok_iff.1 h
  exact ⟨[], rfl, fun _ => rfl, fun cut hcut hne => absurd (List.prefix_nil.1 hcut) hne⟩

theorem throw (e : ContainerError) : SelfDelimiting (MonadExcept.throw e : Reader α) :=
  fun _ _ _ h => absurd h throw_ne_ok

theorem lift (x : Except ContainerError α) : SelfDelimiting (liftM x : Reader α) := by
  intro bytes rest a h
  obtain ⟨rfl, rfl⟩ := lift_eq_ok_iff.1 h
  exact ⟨[], rfl, fun _ => rfl, fun cut hcut hne => absurd (List.prefix_nil.1 hcut) hne⟩

/-- A cut falls into what is read first, or behind it into what is read then. -/
theorem bind {f : α → Reader β} (hr : SelfDelimiting r) (hf : ∀ a, SelfDelimiting (f a)) :
    SelfDelimiting (r >>= f) := by
  intro bytes rest y h
  obtain ⟨x, mid, hx, hy⟩ := bind_eq_ok_iff.1 h
  obtain ⟨first, rfl, hfirst, hshort⟩ := hr _ _ _ hx
  obtain ⟨second, rfl, hsecond, hshort'⟩ := hf x _ _ _ hy
  refine ⟨first ++ second, (List.append_assoc ..).symm, fun tail => ?_, fun cut hcut hne => ?_⟩
  · rw [List.append_assoc, bind_of_ok (hfirst _), hsecond]
  · by_cases hlength : cut.length < first.length
    · have hprefix : cut <+: first :=
        List.prefix_of_prefix_length_le hcut (List.prefix_append ..) (Nat.le_of_lt hlength)
      exact bind_of_error (hshort cut hprefix fun heq => by simp [heq] at hlength) f
    · obtain ⟨rest, rfl⟩ : first <+: cut :=
        List.prefix_of_prefix_length_le (List.prefix_append ..) hcut (Nat.not_lt.1 hlength)
      rw [bind_of_ok (hfirst rest)]
      exact hshort' rest ((List.prefix_append_right_inj first).1 hcut) fun heq => hne (by rw [heq])

theorem guard {p : Prop} [Decidable p] {f : PUnit → Reader α} (e : ContainerError)
    (hr : SelfDelimiting r) :
    SelfDelimiting (if p then (MonadExcept.throw e : Reader PUnit) >>= f else r) := by
  intro bytes rest x h
  obtain ⟨hp, h⟩ := guard_eq_ok_iff.1 h
  rw [if_neg hp]
  exact hr _ _ _ h

theorem take (width : Nat) : SelfDelimiting (Reader.take width) := by
  intro bytes rest field h
  obtain ⟨rfl, rfl⟩ := take_eq_ok_iff.1 h
  refine ⟨field, rfl, fun tail => take_eq_ok_iff.2 ⟨rfl, rfl⟩, fun cut hcut hne => ?_⟩
  have hshort : cut.length ≠ field.length := fun heq => hne (hcut.eq_of_length heq)
  have hle := hcut.length_le
  rw [Reader.take, if_neg]
  rw [List.length_take]
  omega

theorem number (width : Nat) : SelfDelimiting (Reader.number width) :=
  bind (take width) fun _ => pure _

theorem many {field : Reader α} (h : SelfDelimiting field) (count : Nat) :
    SelfDelimiting (Reader.many field count) := by
  induction count with
  | zero => exact pure []
  | succ count ih => exact bind h fun _ => bind ih fun _ => pure _

/-- What a prefix of accepted bytes comes to: the value as soon as it is all there, and too little
before. -/
theorem run_cut (hr : SelfDelimiting r) {bytes rest cut : Bytes} {x : α} {n : Nat}
    (h : r bytes = .ok (x, rest)) (hn : bytes.length = n + rest.length) (hcut : cut <+: bytes) :
    r cut = if cut.length < n then .error (.io .endOfInput) else .ok (x, cut.drop n) := by
  obtain ⟨used, rfl, hwhole, hshort⟩ := hr _ _ _ h
  obtain rfl : used.length = n := by
    rw [List.length_append] at hn
    omega
  split
  · rename_i hlt
    have hprefix : cut <+: used :=
      List.prefix_of_prefix_length_le hcut (List.prefix_append ..) (Nat.le_of_lt hlt)
    exact hshort cut hprefix fun heq => Nat.lt_irrefl _ (heq ▸ hlt)
  · rename_i hle
    obtain ⟨tail, rfl⟩ : used <+: cut :=
      List.prefix_of_prefix_length_le (List.prefix_append ..) hcut (Nat.not_lt.1 hle)
    rw [hwhole, List.drop_left]

end SelfDelimiting

end Reader

theorem Header.selfDelimiting_read : Reader.SelfDelimiting read := by
  have hnumber : ∀ width, Reader.SelfDelimiting (Reader.number width) :=
    Reader.SelfDelimiting.number
  unfold read
  refine .bind (.bind (hnumber 4) fun _ => .pure _) fun magic => .guard _ ?_
  refine .bind (.bind (hnumber 4) fun _ => .pure _) fun version => .guard _ ?_
  refine .bind (.bind (hnumber 1) fun _ => .pure _) fun wordBits => ?_
  refine .bind (.bind (hnumber 1) fun _ => .pure _) fun code => ?_
  cases DType.ofCode? code with
  | none => exact .throw _
  | some dtype =>
    refine .bind (.take 2) fun _ => .bind (hnumber 4) fun rank => .guard _ ?_
    refine .bind (.many (hnumber 8) rank) fun shape => ?_
    refine .bind (.bind (hnumber 8) fun _ => .pure _) fun wordCount => ?_
    refine .bind (.bind (hnumber 8) fun _ => .pure _) fun checksum => ?_
    exact .bind (.lift _) fun needed => .guard _ (.pure _)

namespace Container

variable {bytes rest : Bytes} {c : Container}

theorem selfDelimiting_readUnverified : Reader.SelfDelimiting readUnverified := by
  have hword : Reader.SelfDelimiting Reader.word := .bind (.number 4) fun _ => .pure _
  exact .bind Header.selfDelimiting_read fun h => .bind (.many hword _) fun _ => .pure _

/-- The header and the words are all that is read. -/
theorem length_of_readUnverified (h : readUnverified bytes = .ok (c, rest)) :
    bytes.length = c.header.size + 4 * c.header.wordCount.toNat + rest.length := by
  obtain ⟨-, hlen, reserved, hreserved, rfl⟩ := readUnverified_eq_ok_iff_append.1 h
  rw [List.length_append, List.length_append, c.header.length_front_back hreserved,
    length_wordBytes, hlen]

/-- Bytes that are a container up to some length run out on every shorter prefix, before anything can
be wrong with them and before there is anything to verify. The header alone is read from each prefix
that holds it, and what follows the container does not matter. -/
theorem read_of_cut (h : readUnverified bytes = .ok (c, rest)) :
    let size := c.header.size + 4 * c.header.wordCount.toNat
    size ≤ bytes.length ∧ rest = bytes.drop size ∧
    (∀ cut, cut <+: bytes → cut.length < size →
      readUnverified cut = .error (.io .endOfInput) ∧ read cut = .error (.io .endOfInput)) ∧
    (∀ cut, cut <+: bytes → cut.length < c.header.size →
      Header.read cut = .error (.io .endOfInput)) ∧
    (∀ cut, cut <+: bytes → c.header.size ≤ cut.length →
      Header.read cut = .ok (c.header, cut.drop c.header.size)) ∧
    ∀ tail, readUnverified (bytes.take size ++ tail) = .ok (c, tail) := by
  intro size
  obtain ⟨hheader, hlen⟩ := readUnverified_eq_ok_iff.1 h
  have hsize := length_of_readUnverified h
  have hheaderSize : bytes.length = c.header.size + (wordBytes c.words ++ rest).length := by
    rw [hsize, List.length_append, length_wordBytes, hlen, Nat.add_assoc]
  have hcontainer : ∀ cut, cut <+: bytes → cut.length < size →
      readUnverified cut = .error (.io .endOfInput) := fun cut hcut hlt => by
    rw [selfDelimiting_readUnverified.run_cut h hsize hcut, if_pos hlt]
  have hrest : rest = bytes.drop size := by
    have hwhole := readUnverified_take_append h (bytes.drop size)
    rw [List.take_append_drop, h] at hwhole
    exact congrArg Prod.snd (Except.ok.inj hwhole)
  refine ⟨by omega, hrest, fun cut hcut hlt => ⟨hcontainer cut hcut hlt, ?_⟩,
    fun cut hcut hlt => ?_, fun cut hcut hle => ?_, readUnverified_take_append h⟩
  · exact Reader.bind_of_error (hcontainer cut hcut hlt) _
  · rw [Header.selfDelimiting_read.run_cut hheader hheaderSize hcut, if_pos hlt]
  · rw [Header.selfDelimiting_read.run_cut hheader hheaderSize hcut, if_neg (Nat.not_lt.2 hle)]

/-- A container of one row, with two bytes behind it, cut in the middle of its second word. -/
def sampleRow : Container where
  header := .ofWords byteLayout .bool [9] [0xA5, 1]
  words := [0xA5, 1]

theorem read_of_cut_sampleRow :
    readUnverified (sampleRow.encode ++ [7, 7]) = .ok (sampleRow, [7, 7]) ∧
    readUnverified (sampleRow.encode.take 46) = .error (.io .endOfInput) ∧
    read (sampleRow.encode.take 46) = .error (.io .endOfInput) ∧
    Header.read (sampleRow.encode.take 17) = .error (.io .endOfInput) := by
  have hread : readUnverified (sampleRow.encode ++ [7, 7]) = .ok (sampleRow, [7, 7]) := by
    decide +kernel
  have hcut : ∀ n, sampleRow.encode.take n <+: sampleRow.encode ++ [7, 7] := fun n =>
    (List.take_prefix n _).trans (List.prefix_append ..)
  obtain ⟨-, -, hcontainer, hheader, -⟩ := read_of_cut hread
  obtain ⟨hunverified, hverified⟩ := hcontainer _ (hcut 46) (by decide +kernel)
  exact ⟨hread, hunverified, hverified, hheader _ (hcut 17) (by decide +kernel)⟩

end Container

end OneBit
