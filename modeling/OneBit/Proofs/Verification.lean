import OneBit.Proofs.Command

/-!
# Verifying a file

`runVerify` compares the checksums itself and then goes on to `Container.verify`, which compares them
again; `Container.read` has only the latter. They come to the same:

* `Container.Finding` : what there is to find in a container, whatever its words;
* `runOn_runVerify_eq` : the command reports what `Container.verify` finds;
* `runVerify_agrees_read` : it fails as the reader does, and the heading says how.
-/

namespace OneBit

/-! ## Reading files -/

/-- A file reads as a container when it reads as one without checks and the checks pass. -/
theorem Container.ofEntry_read (entry : Except SystemError Entry) :
    read.ofEntry entry = (do
      let c ← readUnverified.ofEntry entry
      c.verify
      return c) := by
  rcases entry with e | entry
  · rfl
  · cases entry with
    | directory => rfl
    | file bytes =>
      show Prod.fst <$> read bytes = Prod.fst <$> readUnverified bytes >>= _
      cases hread : readUnverified bytes with
      | error e =>
        rw [read, Reader.bind_of_error hread]
        rfl
      | ok result =>
        obtain ⟨c, rest⟩ := result
        rw [read, Reader.bind_of_ok hread]
        show Prod.fst <$> ((liftM c.verify >>= fun _ => pure c : Reader Container) rest) =
          (do c.verify; return c)
        cases c.verify <;> rfl

/-! ## Bytes that are no container -/

/-- An error that says nothing of the words. -/
def ContainerError.OfParsing : ContainerError → Prop
  | .checksumMismatch _ _ => False
  | .invalidFormat (.strayBits _ _) => False
  | _ => True

theorem Header.raises_expectedWords (h : Header) :
    Raises ContainerError.OfParsing h.expectedWords := by
  have hlift {α : Type} (x : Except TensorError α) :
      Raises ContainerError.OfParsing (ContainerError.ofTensor x) := by
    cases x with
    | ok a => exact .ok a
    | error e => exact .error trivial
  unfold expectedWords
  refine Raises.bind (hlift _) fun layout _ => Raises.bind (hlift _) fun sizes _ => ?_
  obtain ⟨rows, cols⟩ := sizes
  cases hcount : checkedMul? rows (layout.packedSize cols) with
  | some n =>
    simp only [hcount]
    exact .ok n
  | none =>
    simp only [hcount]
    exact .error trivial

theorem Header.raises_read : Reader.Raises ContainerError.OfParsing read := by
  have hnumber : ∀ width, Reader.Raises ContainerError.OfParsing (Reader.number width) :=
    Reader.Raises.number trivial
  unfold read
  refine .bind (.bind (hnumber 4) fun _ => .pure _) fun magic => .guard trivial ?_
  refine .bind (.bind (hnumber 4) fun _ => .pure _) fun version => .guard trivial ?_
  refine .bind (.bind (hnumber 1) fun _ => .pure _) fun wordBits => ?_
  refine .bind (.bind (hnumber 1) fun _ => .pure _) fun code => ?_
  cases DType.ofCode? code with
  | none => exact .throw trivial
  | some dtype =>
    refine .bind (.take trivial 2) fun _ => .bind (hnumber 4) fun rank => .guard trivial ?_
    refine .bind (.many (hnumber 8) rank) fun shape => ?_
    refine .bind (.bind (hnumber 8) fun _ => .pure _) fun wordCount => ?_
    refine .bind (.bind (hnumber 8) fun _ => .pure _) fun checksum => ?_
    refine .bind (.lift (raises_expectedWords _)) fun needed => .guard trivial (.pure _)

theorem Container.raises_readUnverified : Reader.Raises ContainerError.OfParsing readUnverified := by
  have hword : Reader.Raises ContainerError.OfParsing Reader.word :=
    .bind (.number trivial 4) fun _ => .pure _
  exact .bind Header.raises_read fun h => .bind (.many hword _) fun _ => .pure _

/-! ## What there is to find -/

namespace Container

variable {c : Container} {layout : Layout} {bytes rest : Bytes}

/-- A word with a bit beyond the width. -/
def Stray (c : Container) (word : UInt32) : Prop :=
  ∃ i, c.header.wordBits.toNat ≤ i ∧ i < 32 ∧ bitAt word i = true

theorem stray_iff {word : UInt32} (hbits : layout.bits = c.header.wordBits.toNat) :
    c.Stray word ↔ word &&& ~~~layout.usedMask ≠ 0 := by
  rw [Ne, and_not_usedMask_eq_zero_iff, hbits, Stray]
  simp only [not_forall, exists_prop, Bool.not_eq_false]

/-- What there is to find in a container: a wrong checksum first, and then a stray bit. -/
inductive Finding (c : Container) : Except ContainerError Unit → Prop
  | corrupted (hchecksum : wordChecksum c.words ≠ c.header.checksum) :
      Finding c (.error (.checksumMismatch c.header.checksum (wordChecksum c.words)))
  | malformed {word : UInt32} (hchecksum : wordChecksum c.words = c.header.checksum)
      (hmem : word ∈ c.words) (hstray : c.Stray word) :
      Finding c (.error (.invalidFormat (.strayBits word c.header.wordBits.toNat)))
  | verified (hchecksum : wordChecksum c.words = c.header.checksum)
      (hclean : ∀ word ∈ c.words, ¬c.Stray word) : Finding c (.ok ())

/-- Where the checksum is right, `verify` looks for a word to refuse. -/
theorem verify_eq_find (hchecksum : wordChecksum c.words = c.header.checksum)
    (hlayout : c.header.layout = .ok layout) :
    c.verify = match c.words.find? fun word => word &&& ~~~layout.usedMask ≠ 0 with
      | some word => .error (.invalidFormat (.strayBits word c.header.wordBits.toNat))
      | none => .ok () := by
  simp only [verify, ne_eq, hchecksum, not_true, if_false, hlayout, ok_bind]
  cases c.words.find? _ <;> rfl

/-- Verifying a container of an allowed width comes to one of these. -/
theorem finding_verify (hbits : layout.bits = c.header.wordBits.toNat) : c.Finding c.verify := by
  by_cases hchecksum : wordChecksum c.words = c.header.checksum
  · rw [verify_eq_find hchecksum (Header.layout_eq_ok_iff.2 hbits)]
    cases hfind : c.words.find? fun word => word &&& ~~~layout.usedMask ≠ 0 with
    | none =>
      have hnone := List.find?_eq_none.1 hfind
      refine .verified hchecksum fun word hword => ?_
      rw [stray_iff hbits]
      simpa using hnone word hword
    | some word =>
      have hsome := List.find?_some hfind
      refine .malformed hchecksum (List.mem_of_find?_eq_some hfind) ?_
      rw [stray_iff hbits]
      simpa using hsome
  · rw [verify_of_checksum_ne hchecksum]
    exact .corrupted hchecksum

/-- A container that was read has an allowed width. -/
theorem finding_of_readUnverified (h : readUnverified bytes = .ok (c, rest)) :
    c.Finding c.verify := by
  obtain ⟨ok, -⟩ := readUnverified_eq_ok_iff_append.1 h
  obtain ⟨layout, hbits, -⟩ := ok.wordCount
  exact finding_verify hbits

theorem finding_of_ofEntry {entry : Except SystemError Entry}
    (h : readUnverified.ofEntry entry = .ok c) : c.Finding c.verify := by
  obtain ⟨bytes, rest, -, hread⟩ := Reader.ofEntry_eq_ok_iff.1 h
  exact finding_of_readUnverified hread

/-! ## Reports -/

/-- The report on a container, by what `verify` finds. -/
def report (c : Container) : String :=
  match c.verify with
  | .ok () => "\n✅ VERIFIED\n\nComputed Hash: " ++ hexadecimal 16 (wordChecksum c.words).toNat
      ++ s!"\nWords:         {c.words.length}\n\n"
  | .error (.checksumMismatch expected found) => "\n❌ CORRUPTED\n\nExpected Hash: "
      ++ hexadecimal 16 expected.toNat ++ "\nFound Hash:    " ++ hexadecimal 16 found.toNat ++ "\n"
  | .error e => "\n❌ MALFORMED\n\nReason:        " ++ e.message ++ "\n"

end Container

section Reports

variable {c : Container} {path : String} {machine : Machine}

theorem runOn_runVerify_of_error {e : ContainerError}
    (h : Container.readUnverified.ofEntry (machine.disk.open? path) = .error e) :
    runOn (runVerify path) machine = (.error (.container e), machine) := by
  rw [runVerify, runOn_bind, runOn_onContainer_eq, Reader.runOn_file_eq, h]
  rfl

/-- The command reports what `verify` finds, though it looks at the checksum itself first. -/
theorem runOn_runVerify_eq
    (h : Container.readUnverified.ofEntry (machine.disk.open? path) = .ok c) :
    runOn (runVerify path) machine =
      (c.verify.mapError .container, { machine with printed := machine.printed ++ c.report }) := by
  have hfinding := Container.finding_of_ofEntry h
  rw [runVerify, runOn_bind_ok (Reader.runOn_onContainer_file h), Container.report]
  generalize c.verify = outcome at hfinding ⊢
  cases hfinding with
  | corrupted hchecksum =>
    simp only [if_neg hchecksum]
    rw [runOn_bind_ok (runOn_print _ _)]
    rfl
  | malformed hchecksum hmem hstray =>
    simp only [if_pos hchecksum]
    rw [runOn_bind_ok (runOn_print _ _)]
    rfl
  | verified hchecksum hclean =>
    simp only [if_pos hchecksum]
    rw [runOn_print]
    rfl

/-- A container that verifies is reported, and nothing is written. -/
theorem runOn_runVerify {bytes rest : Bytes}
    (hopen : machine.disk.open? path = .ok (.file bytes))
    (hread : Container.readUnverified bytes = .ok (c, rest)) (hverify : c.verify = .ok ()) :
    ∃ printed, runOn (runVerify path) machine = (.ok (), { machine with printed }) := by
  rw [runOn_runVerify_eq (Reader.ofEntry_eq_ok_iff.2 ⟨bytes, rest, hopen, hread⟩), hverify]
  exact ⟨_, rfl⟩

/-- The text begins with a heading. -/
def Heads (heading text : String) : Prop :=
  heading.toList <+: text.toList

/-- The heading of a report says what was found. -/
theorem heads_report (h : c.Finding c.verify) :
    (Heads "\n✅ VERIFIED\n" c.report ↔ c.verify = .ok ()) ∧
    (Heads "\n❌ CORRUPTED\n" c.report ↔
      ∃ expected found, c.verify = .error (.checksumMismatch expected found)) ∧
    (Heads "\n❌ MALFORMED\n" c.report ↔
      wordChecksum c.words = c.header.checksum ∧ ∃ word ∈ c.words, c.Stray word) ∧
    c.report ≠ "" := by
  rw [Container.report]
  generalize c.verify = outcome at h ⊢
  cases h with
  | corrupted hchecksum => simp [Heads, hchecksum]
  | malformed hchecksum hmem hstray =>
    have hfound : ∃ word ∈ c.words, c.Stray word := ⟨_, hmem, hstray⟩
    simp [Heads, hchecksum, hfound]
  | verified hchecksum hclean => simpa [Heads, hchecksum] using hclean

/-- The command comes out as the reader does. -/
theorem runOn_runVerify_fst (path : String) (machine : Machine) :
    (runOn (runVerify path) machine).1 =
      (fun _ => ()) <$> (runOn (Container.read.file path) machine).1.mapError CommandError.container := by
  rw [Reader.runOn_file_eq, Container.ofEntry_read]
  cases hparsed : Container.readUnverified.ofEntry (machine.disk.open? path) with
  | error e =>
    rw [runOn_runVerify_of_error hparsed]
    rfl
  | ok c =>
    rw [runOn_runVerify_eq hparsed, ok_bind]
    cases c.verify <;> rfl

/-- Verifying a file, whatever its bytes, fails exactly when reading it does, and with the same error. It
prints the heading of what it found: that all is well, that the checksum is wrong, or that the checksum
is right and a word sets a bit beyond the width; and it prints nothing when the bytes are no container. -/
theorem runVerify_agrees_read (path : String) (machine : Machine) :
    let ran := runOn (runVerify path) machine
    let read := (runOn (Container.read.file path) machine).1
    let parsed := (runOn (Container.readUnverified.file path) machine).1
    (ran.1 = .ok () ↔ ∃ c, read = .ok c) ∧
    (∀ e, ran.1 = .error e ↔ ∃ e', read = .error e' ∧ e = .container e') ∧
    ∃ text, ran.2 = { machine with printed := machine.printed ++ text } ∧
      (Heads "\n✅ VERIFIED\n" text ↔ ran.1 = .ok ()) ∧
      (Heads "\n❌ CORRUPTED\n" text ↔
        ∃ expected found, ran.1 = .error (.container (.checksumMismatch expected found))) ∧
      (Heads "\n❌ MALFORMED\n" text ↔ ∃ c, parsed = .ok c ∧
        wordChecksum c.words = c.header.checksum ∧
          ∃ word ∈ c.words, ∃ i, c.header.wordBits.toNat ≤ i ∧ i < 32 ∧ bitAt word i = true) ∧
      (text = "" ↔ ∃ e, parsed = .error e) := by
  intro ran read parsed
  have hran : ran.1 = (fun _ => ()) <$> read.mapError CommandError.container :=
    runOn_runVerify_fst path machine
  refine ⟨?_, fun e => ?_, ?_⟩
  · rw [hran]
    cases read <;> simp [Except.mapError]
  · rw [hran]
    cases read <;> simp [Except.mapError, eq_comm]
  have hparsed : parsed = Container.readUnverified.ofEntry (machine.disk.open? path) := by
    show (runOn _ machine).1 = _
    rw [Reader.runOn_file_eq]
  cases hentry : Container.readUnverified.ofEntry (machine.disk.open? path) with
  | error e =>
    have hran : ran = (.error (.container e), machine) := runOn_runVerify_of_error hentry
    have hparsing : e.OfParsing :=
      Container.raises_readUnverified.ofEntry (fun _ => trivial) _ e hentry
    rw [hparsed, hentry, hran]
    refine ⟨"", by rw [String.append_empty], by simp [Heads], iff_of_false (by simp [Heads]) ?_,
      by simp [Heads], by simp⟩
    rintro ⟨expected, found, h⟩
    cases h
    exact hparsing
  | ok c =>
    have hran : ran = (c.verify.mapError .container,
        { machine with printed := machine.printed ++ c.report }) := runOn_runVerify_eq hentry
    obtain ⟨hverified, hcorrupted, hmalformed, hprinted⟩ :=
      heads_report (Container.finding_of_ofEntry hentry)
    rw [hparsed, hentry, hran]
    refine ⟨c.report, rfl, hverified.trans ?_, hcorrupted.trans ?_, hmalformed.trans ?_,
      iff_of_false hprinted (by simp)⟩
    · cases c.verify <;> simp [Except.mapError]
    · cases c.verify <;> simp [Except.mapError]
    · simp [Container.Stray]

end Reports

end OneBit
