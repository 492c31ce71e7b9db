import OneBit.Json.Text
import OneBit.Proofs.Json.Digits

/-!
# Texts that spell a value

`Spells bytes v` says that the parser takes `v` from the front of any text that starts with `bytes`,
as long as what follows could not belong to a number. There is one rule for each way of writing a
value. Blanks may stand before any of them.

* `PlainText.text?_pieces` : a text without escapes is read as itself;
* `Spells.int`, `Spells.whole`, `Spells.bool`, `Spells.string` : what has no parts;
* `SpellsItems`, `SpellsMembers` : the rest of an array or an object, up to its closing bracket;
* `Spells.array`, `Spells.object` : the brackets around these;
* `Spells.parse` : a text that spells a value and nothing else.
-/

namespace OneBit.Json

variable {bytes blanks rest : Bytes} {v : Value}

/-! ## What may follow -/

/-- A number ends before any other byte. -/
def continuesNumber (b : UInt8) : Bool :=
  isDigit b || b == point || b == 0x65 || b == 0x45

theorem continuesNumber_eq_false_iff {b : UInt8} : continuesNumber b = false ↔
    isDigit b = false ∧ b ≠ point ∧ b ≠ 0x65 ∧ b ≠ 0x45 := by
  simp [continuesNumber, and_assoc]

theorem continuesNumber_of_isBlank {b : UInt8} (h : isBlank b) : continuesNumber b = false := by
  simp only [isBlank, Bool.or_eq_true, beq_iff_eq] at h
  obtain ((rfl | rfl) | rfl) | rfl := h <;> rfl

/-- What may follow a number. -/
def Delimited (rest : Bytes) : Prop :=
  ∀ b ∈ rest.head?, continuesNumber b = false

theorem delimited_nil : Delimited [] := by
  simp [Delimited]

theorem delimited_cons {b : UInt8} (h : continuesNumber b = false) : Delimited (b :: rest) := by
  simp [Delimited, h]

theorem delimited_blanks (h : ∀ b ∈ blanks, isBlank b) (hrest : Delimited rest) :
    Delimited (blanks ++ rest) := by
  cases blanks with
  | nil => exact hrest
  | cons b blanks => exact delimited_cons (continuesNumber_of_isBlank (h b List.mem_cons_self))

theorem skipBlanks_append (h : ∀ b ∈ blanks, isBlank b) :
    skipBlanks (blanks ++ rest) = skipBlanks rest :=
  List.dropWhile_append_of_pos h

theorem skipBlanks_append_cons (h : ∀ b ∈ blanks, isBlank b) {c : UInt8} (hc : isBlank c = false) :
    skipBlanks (blanks ++ c :: rest) = c :: rest := by
  rw [skipBlanks_append h, skipBlanks, List.dropWhile_cons_of_neg (by simp [hc])]

/-! ## Numbers -/

theorem digits_append (hbytes : bytes ≠ []) (h : ∀ b ∈ bytes, isDigit b)
    (hrest : ∀ b ∈ rest.head?, isDigit b = false) :
    digits (bytes ++ rest) = some (bytes.map fun b => b.toNat - 0x30, rest) := by
  have htake : rest.takeWhile isDigit = [] := by
    cases rest with
    | nil => rfl
    | cons b rest => simp [hrest b rfl]
  have hdrop : rest.dropWhile isDigit = rest := by
    cases rest with
    | nil => rfl
    | cons b rest => simp [hrest b rfl]
  unfold digits
  rw [List.takeWhile_append_of_pos h, List.dropWhile_append_of_pos h, htake, hdrop,
    List.append_nil]
  cases bytes with
  | nil => contradiction
  | cons b bytes => rfl

theorem digits_toString (n : Nat) (hrest : ∀ b ∈ rest.head?, isDigit b = false) :
    digits (Bytes.ofText (toString n) ++ rest) = some (digitsOf n, rest) := by
  obtain ⟨b, bytes, -, h⟩ := exists_cons_ofText_toString n
  have hne : Bytes.ofText (toString n) ≠ [] := h ▸ List.cons_ne_nil b bytes
  rw [digits_append hne isDigit_ofText_toString hrest, map_ofText_toString]

theorem after_self (b : UInt8) (rest : Bytes) : after b (b :: rest) = some rest := by
  simp [after]

theorem after_of_ne {b c : UInt8} (h : c ≠ b) (rest : Bytes) : after b (c :: rest) = none := by
  simp [after, h]

theorem after_minus_toString (n : Nat) (rest : Bytes) :
    after minus (Bytes.ofText (toString n) ++ rest) = none := by
  obtain ⟨b, bytes, hb, h⟩ := exists_cons_ofText_toString n
  rw [h]
  refine after_of_ne ?_ _
  rintro rfl
  exact absurd hb (by decide)

/-- An integer that a number starts with is its sign and its whole part. -/
theorem number_append (n : Int) (hrest : ∀ b ∈ rest.head?, isDigit b = false) :
    number (Bytes.ofText (toString n) ++ rest) =
      (do
        let (fraction, bytes) ← fractionPart rest
        let (exponent, bytes) ← exponentPart bytes
        return ({ Literal.ofInt n with fraction, exponent }, bytes)) := by
  have hzero : ¬((digitsOf n.natAbs).head? = some 0 ∧ (digitsOf n.natAbs).length ≠ 1) := by
    rintro ⟨hhead, hlen⟩
    by_cases hn : n.natAbs = 0
    · exact hlen (by rw [hn]; rfl)
    · exact head?_digitsOf (by omega) hhead
  have hwhole := digits_toString n.natAbs hrest
  unfold number
  rw [ofText_toString_int]
  by_cases hn : n < 0
  · simp only [hn, if_true, List.cons_append, List.nil_append, after_self, hwhole,
      Option.bind_eq_bind, Option.bind_some, if_neg hzero, Literal.ofInt, decide_true]
  · simp only [hn, if_false, List.nil_append, after_minus_toString, hwhole,
      Option.bind_eq_bind, Option.bind_some, if_neg hzero, Literal.ofInt, decide_false]

section Delimited
variable (h : Delimited rest)
include h

theorem Delimited.not_digit : ∀ b ∈ rest.head?, isDigit b = false :=
  fun b hb => (continuesNumber_eq_false_iff.1 (h b hb)).1

theorem Delimited.fractionPart : fractionPart rest = some ([], rest) := by
  cases rest with
  | nil => rfl
  | cons b rest =>
    obtain ⟨-, hpoint, -⟩ := continuesNumber_eq_false_iff.1 (h b rfl)
    rw [Json.fractionPart, after_of_ne hpoint]

theorem Delimited.exponentPart : exponentPart rest = some (none, rest) := by
  cases rest with
  | nil => rfl
  | cons b rest =>
    obtain ⟨-, -, hlower, hupper⟩ := continuesNumber_eq_false_iff.1 (h b rfl)
    rw [Json.exponentPart, after_of_ne hlower, after_of_ne hupper]
    rfl

theorem number_toString (n : Int) :
    number (Bytes.ofText (toString n) ++ rest) = some (Literal.ofInt n, rest) := by
  rw [number_append n h.not_digit, h.fractionPart]
  simp only [Option.bind_eq_bind, Option.bind_some, h.exponentPart]
  rfl

theorem number_toString_point (n : Int) :
    number (Bytes.ofText (toString n ++ ".0") ++ rest) = some (Literal.ofWhole n, rest) := by
  have hpoint : Bytes.ofText ".0" = [point, 0x30] := by decide
  have hzero : digits ([0x30] ++ rest) = some ([0], rest) :=
    digits_append (List.cons_ne_nil _ _) (List.forall_mem_singleton.2 rfl) h.not_digit
  have hfraction : fractionPart (point :: 0x30 :: rest) = some ([0], rest) := by
    rw [Json.fractionPart, after_self]
    exact hzero
  rw [Bytes.ofText_append, hpoint, List.append_assoc, number_append n (by simp; decide)]
  simp only [List.cons_append, List.nil_append, hfraction, Option.bind_eq_bind, Option.bind_some,
    h.exponentPart]
  rfl

end Delimited

/-! ## Strings -/

/-- Characters of one byte that stand for themselves inside a string. -/
def PlainText (text : String) : Prop :=
  ∀ c ∈ text.toList, 0x20 ≤ c.toNat ∧ c.toNat < 0x80 ∧ c ≠ '"' ∧ c ≠ '\\'

/-- A text as it is read, byte by byte. -/
def pieces (text : String) : List Piece :=
  (Bytes.ofText text).map .byte

def isPlain (b : UInt8) : Bool :=
  0x20 ≤ b && b != quote && b != backslash

theorem stringBody_append (h : ∀ b ∈ bytes, isPlain b) (read : List Piece) :
    stringBody read (bytes ++ quote :: rest) = some (read.reverse ++ bytes.map .byte, rest) := by
  induction bytes generalizing read with
  | nil =>
    rw [List.nil_append, stringBody.eq_def]
    simp
  | cons b bytes ih =>
    have hb := h b List.mem_cons_self
    simp only [isPlain, Bool.and_eq_true, decide_eq_true_eq, bne_iff_ne] at hb
    have hrest := ih (fun c hc => h c (List.mem_cons_of_mem b hc)) (.byte b :: read)
    rw [List.cons_append, stringBody.eq_def]
    simp [hb, UInt8.not_lt.2 hb.1.1, hrest]

theorem pieceBytes_map_byte (bytes : Bytes) : pieceBytes (bytes.map .byte) = some bytes := by
  induction bytes with
  | nil => rfl
  | cons b bytes ih => rw [List.map_cons, pieceBytes, ih, Option.map_some]

namespace PlainText

variable {text : String} (h : PlainText text)
include h

theorem isPlain : ∀ b ∈ Bytes.ofText text, isPlain b := by
  intro b hb
  obtain ⟨c, hc, rfl⟩ := List.mem_map.1 hb
  obtain ⟨hlo, hhi, hquote, hbackslash⟩ := h c hc
  have hsame : (UInt8.ofNat c.toNat).toNat = c.toNat := by
    rw [UInt8.toNat_ofNat']
    omega
  simp only [Json.isPlain, Bool.and_eq_true, decide_eq_true_eq, bne_iff_ne, ne_eq,
    UInt8.le_iff_toNat_le, ← UInt8.toNat_inj, hsame]
  exact ⟨⟨hlo, fun hc => hquote (Char.toNat_inj.1 hc)⟩, fun hc => hbackslash (Char.toNat_inj.1 hc)⟩

theorem ofText_eq_flatMap : Bytes.ofText text = text.toList.flatMap String.utf8EncodeChar := by
  rw [Bytes.ofText, List.map_eq_flatMap, List.flatMap_def, List.flatMap_def]
  congr 1
  refine List.map_congr_left fun c hc => ?_
  have hsize : c.utf8Size = 1 :=
    Char.utf8Size_eq_one_iff.2 (UInt32.le_iff_toNat_le.2 (Nat.le_of_lt_succ (h c hc).2.1))
  rw [String.utf8EncodeChar_eq_singleton hsize]
  rfl

theorem text?_pieces : text? (pieces text) = some text := by
  have hbytes : (⟨(Bytes.ofText text).toArray⟩ : ByteArray) = text.toByteArray := by
    rw [h.ofText_eq_flatMap, ← List.data_toByteArray]
    exact String.utf8Encode_toList
  show (pieceBytes _).bind _ = _
  rw [pieces, pieceBytes_map_byte, Option.bind_some, hbytes, String.fromUTF8?,
    dif_pos text.isValidUTF8]
  rfl

end PlainText

/-! ## Values -/

/-- The value is taken from the front of any text with these bytes. It has fewer levels than bytes. -/
def Spells (bytes : Bytes) (v : Value) : Prop :=
  ∀ depth rest, bytes.length < depth → Delimited rest → value depth (bytes ++ rest) = some (v, rest)

theorem value_blanks (h : ∀ b ∈ blanks, isBlank b) (depth : Nat) :
    value depth (blanks ++ rest) = value depth rest := by
  cases depth with
  | zero => simp [value]
  | succ depth => simp only [value, skipBlanks_append h]

theorem Spells.after_blanks (hblanks : ∀ b ∈ blanks, isBlank b) (h : Spells bytes v) :
    Spells (blanks ++ bytes) v := by
  intro depth rest hdepth hrest
  rw [List.append_assoc, value_blanks hblanks]
  exact h depth rest (by rw [List.length_append] at hdepth; omega) hrest

/-- A sign or a digit starts a number. -/
theorem value_number {b : UInt8} (h : b = minus ∨ isDigit b) (depth : Nat) :
    value (depth + 1) (b :: rest) =
      (number (b :: rest)).map fun (literal, rest) => (.number literal, rest) := by
  have hblank : isBlank b = false := by
    cases hb : isBlank b with
    | false => rfl
    | true =>
      simp only [isBlank, Bool.or_eq_true, beq_iff_eq] at hb
      obtain ((rfl | rfl) | rfl) | rfl := hb <;> revert h <;> decide
  have hskip : skipBlanks (b :: rest) = b :: rest := by
    simp [skipBlanks, hblank]
  have hbrace : b ≠ openBrace := by rintro rfl; revert h; decide
  have hbracket : b ≠ openBracket := by rintro rfl; revert h; decide
  have hquote : b ≠ quote := by rintro rfl; revert h; decide
  simp only [value, hskip, if_neg hbrace, if_neg hbracket, if_neg hquote, if_pos h]

theorem Spells.number {literal : Literal}
    (hhead : ∃ b more, (b = minus ∨ isDigit b) ∧ bytes = b :: more)
    (h : ∀ rest, Delimited rest → number (bytes ++ rest) = some (literal, rest)) :
    Spells bytes (.number literal) := by
  intro depth rest hdepth hrest
  obtain ⟨depth, rfl⟩ := Nat.exists_eq_add_one_of_ne_zero (Nat.ne_zero_of_lt hdepth)
  obtain ⟨b, more, hb, rfl⟩ := hhead
  have hnumber := h rest hrest
  rw [List.cons_append] at hnumber ⊢
  rw [value_number hb, hnumber, Option.map_some]

theorem Spells.int (n : Int) : Spells (Bytes.ofText (toString n)) (.number (.ofInt n)) :=
  .number (exists_cons_ofText_toString_int n) fun _ h => number_toString h n

theorem Spells.whole (n : Int) :
    Spells (Bytes.ofText (toString n ++ ".0")) (.number (.ofWhole n)) := by
  refine .number ?_ fun _ h => number_toString_point h n
  obtain ⟨b, bytes, hb, h⟩ := exists_cons_ofText_toString_int n
  exact ⟨b, bytes ++ Bytes.ofText ".0", hb, by rw [Bytes.ofText_append, h, List.cons_append]⟩

theorem Spells.bool (b : Bool) :
    Spells (Bytes.ofText (if b then "true" else "false")) (.bool b) := by
  intro depth rest hdepth _
  obtain ⟨depth, rfl⟩ := Nat.exists_eq_add_one_of_ne_zero (Nat.ne_zero_of_lt hdepth)
  cases b <;> rfl

theorem Spells.string {text : String} (h : PlainText text) :
    Spells (quote :: (Bytes.ofText text ++ [quote])) (.string (pieces text)) := by
  intro depth rest hdepth _
  obtain ⟨depth, rfl⟩ := Nat.exists_eq_add_one_of_ne_zero (Nat.ne_zero_of_lt hdepth)
  rw [List.cons_append, List.append_assoc, List.singleton_append]
  show (stringBody [] _).map _ = _
  rw [stringBody_append h.isPlain]
  rfl

/-! ## Arrays -/

/-- The rest of an array, with its closing bracket. -/
def SpellsItems (bytes : Bytes) (items : List Value) : Prop :=
  ∀ depth read rest, bytes.length < depth →
    Json.items depth read (bytes ++ rest) = some (.array (read.reverse ++ items), rest)

theorem SpellsItems.single (h : Spells bytes v) (hblanks : ∀ b ∈ blanks, isBlank b) :
    SpellsItems (bytes ++ blanks ++ [closeBracket]) [v] := by
  intro depth read rest hdepth
  obtain ⟨depth, rfl⟩ := Nat.exists_eq_add_one_of_ne_zero (Nat.ne_zero_of_lt hdepth)
  simp only [List.length_append, List.length_singleton] at hdepth
  have hrest : Delimited (blanks ++ closeBracket :: rest) :=
    delimited_blanks hblanks (delimited_cons rfl)
  have hv := h depth _ (by omega) hrest
  rw [List.append_assoc, List.append_assoc, List.singleton_append, items]
  simp [hv, skipBlanks_append_cons hblanks, show isBlank closeBracket = false from rfl,
    show closeBracket ≠ comma by decide]

theorem SpellsItems.cons (h : Spells bytes v) {more : Bytes} {vs : List Value}
    (hmore : SpellsItems more vs) : SpellsItems (bytes ++ comma :: more) (v :: vs) := by
  intro depth read rest hdepth
  obtain ⟨depth, rfl⟩ := Nat.exists_eq_add_one_of_ne_zero (Nat.ne_zero_of_lt hdepth)
  simp only [List.length_append, List.length_cons] at hdepth
  have hv := h depth (comma :: (more ++ rest)) (by omega) (delimited_cons rfl)
  have hvs := hmore depth (v :: read) rest (by omega)
  have hskip : skipBlanks (comma :: (more ++ rest)) = comma :: (more ++ rest) := rfl
  rw [List.append_assoc, List.cons_append, items]
  simp [hv, hskip, hvs]

/-- An array with items does not start with its closing bracket, because no value does. -/
theorem after_of_items {depth : Nat} {read : List Value} {p : Value × Bytes}
    (h : items depth read bytes = some p) : after closeBracket (skipBlanks bytes) = none := by
  cases hskip : skipBlanks bytes with
  | nil => rfl
  | cons b rest =>
    refine after_of_ne ?_ rest
    rintro rfl
    have hvalue (depth : Nat) : value depth bytes = none := by
      cases depth with
      | zero => rw [value]
      | succ depth =>
        rw [value, hskip]
        rfl
    cases depth with
    | zero => simp [items] at h
    | succ depth => simp [items, hvalue] at h

theorem Spells.array_nil : Spells [openBracket, closeBracket] (.array []) := by
  intro depth rest hdepth _
  obtain ⟨depth, rfl⟩ := Nat.exists_eq_add_one_of_ne_zero (Nat.ne_zero_of_lt hdepth)
  rfl

theorem Spells.array {vs : List Value} (h : SpellsItems bytes vs) :
    Spells (openBracket :: bytes) (.array vs) := by
  intro depth rest hdepth _
  obtain ⟨depth, rfl⟩ := Nat.exists_eq_add_one_of_ne_zero (Nat.ne_zero_of_lt hdepth)
  have hvs := h depth [] rest (by simpa using hdepth)
  have hopen : skipBlanks (openBracket :: (bytes ++ rest)) = openBracket :: (bytes ++ rest) := rfl
  rw [List.cons_append, value]
  simp [hopen, after_of_items hvs, hvs, show openBracket ≠ openBrace by decide]

/-! ## Objects -/

/-- The rest of an object, with its closing brace. -/
def SpellsMembers (bytes : Bytes) (members : List (List Piece × Value)) : Prop :=
  ∀ depth read rest, bytes.length < depth →
    Json.members depth read (bytes ++ rest) = some (.object (read.reverse ++ members), rest)

/-- A member on a line of its own, with a blank after the colon. -/
def member (indent : Bytes) (key : String) (item : Bytes) : Bytes :=
  indent ++ quote :: (Bytes.ofText key ++ quote :: colon :: 0x20 :: item)

section Members

variable {key : String} (hblanks : ∀ b ∈ blanks, isBlank b) (hkey : PlainText key)
  (h : Spells bytes v)
include hblanks hkey h

/-- The byte after a member says whether there is another one. -/
theorem members_member {depth : Nat} (hdepth : bytes.length < depth) (hrest : Delimited rest)
    {b : UInt8} {more : Bytes} (hskip : skipBlanks rest = b :: more)
    (read : List (List Piece × Value)) :
    members (depth + 1) read (member blanks key bytes ++ rest) =
      if b = comma then members depth ((pieces key, v) :: read) more
      else if b = closeBrace then some (.object ((pieces key, v) :: read).reverse, more)
      else none := by
  have hcolon (rest : Bytes) : skipBlanks (colon :: rest) = colon :: rest := rfl
  have hv : value depth (0x20 :: (bytes ++ rest)) = some (v, rest) := by
    rw [← h depth rest hdepth hrest]
    exact value_blanks (List.forall_mem_singleton.2 rfl) depth
  rw [member, List.append_assoc, List.cons_append, List.append_assoc, members,
    skipBlanks_append_cons hblanks rfl, after_self]
  simp only [List.cons_append, Option.bind_some, stringBody_append hkey.isPlain, hcolon, after_self, hv,
    hskip, List.reverse_nil, List.nil_append, pieces]

theorem SpellsMembers.single {close : Bytes} (hclose : ∀ b ∈ close, isBlank b) :
    SpellsMembers (member blanks key bytes ++ close ++ [closeBrace]) [(pieces key, v)] := by
  intro depth read rest hdepth
  obtain ⟨depth, rfl⟩ := Nat.exists_eq_add_one_of_ne_zero (Nat.ne_zero_of_lt hdepth)
  simp only [member, List.length_append, List.length_cons] at hdepth
  have hrest : Delimited (close ++ closeBrace :: rest) :=
    delimited_blanks hclose (delimited_cons rfl)
  rw [List.append_assoc, List.append_assoc, List.singleton_append,
    members_member hblanks hkey h (by omega) hrest (skipBlanks_append_cons hclose rfl)]
  simp [show closeBrace ≠ comma by decide]

theorem SpellsMembers.cons {more : Bytes} {fields : List (List Piece × Value)}
    (hmore : SpellsMembers more fields) :
    SpellsMembers (member blanks key bytes ++ comma :: more) ((pieces key, v) :: fields) := by
  intro depth read rest hdepth
  obtain ⟨depth, rfl⟩ := Nat.exists_eq_add_one_of_ne_zero (Nat.ne_zero_of_lt hdepth)
  simp only [member, List.length_append, List.length_cons] at hdepth
  have hfields := hmore depth ((pieces key, v) :: read) rest (by omega)
  rw [List.append_assoc, List.cons_append,
    members_member hblanks hkey h (by omega) (delimited_cons rfl) rfl]
  simp [hfields]

end Members

theorem after_of_members {depth : Nat} {read : List (List Piece × Value)} {p : Value × Bytes}
    (h : members depth read bytes = some p) : after closeBrace (skipBlanks bytes) = none := by
  cases hskip : skipBlanks bytes with
  | nil => rfl
  | cons b rest =>
    refine after_of_ne ?_ rest
    rintro rfl
    have hkey : after quote (closeBrace :: rest) = none := after_of_ne (by decide) rest
    cases depth with
    | zero => simp [members] at h
    | succ depth => simp [members, hskip, hkey] at h

theorem Spells.object {fields : List (List Piece × Value)} (h : SpellsMembers bytes fields) :
    Spells (openBrace :: bytes) (.object fields) := by
  intro depth rest hdepth _
  obtain ⟨depth, rfl⟩ := Nat.exists_eq_add_one_of_ne_zero (Nat.ne_zero_of_lt hdepth)
  have hfields := h depth [] rest (by simpa using hdepth)
  have hopen : skipBlanks (openBrace :: (bytes ++ rest)) = openBrace :: (bytes ++ rest) := rfl
  rw [List.cons_append, value]
  simp [hopen, after_of_members hfields, hfields]

/-! ## Whole texts -/

theorem Spells.parse (h : Spells bytes v) : parse bytes = some v := by
  have hv := h (bytes.length + 1) [] (Nat.lt_succ_self _) delimited_nil
  rw [List.append_nil] at hv
  simp [Json.parse, hv, skipBlanks]

end OneBit.Json
