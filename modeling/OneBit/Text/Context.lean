import OneBit.Text.CharWidth

/-!
# Characters that share cells

Some characters are drawn as one with those after them: the parts of an emoji, a letter and the
selector of its style, the letters of a ligature. Text is therefore measured from its end, and a
`Context` holds what a character needs to know of the text after it. `Context.before` gives the
cells that a character adds, which may be fewer than none, and the context for the one before it.
-/

namespace OneBit.Text

/-- The last part of a ligature, as far as it has been read from its end. -/
inductive LigatureEnd
  | arabicAlef
  | hebrewLamed
  | khmerConsonant
  | bugineseYa
  /-- A Buginese `ya` with the vowel `i` before it. -/
  | bugineseIya
  | tifinaghConsonant
  /-- A Tifinagh consonant with the consonant joiner before it. -/
  | tifinaghJoined
  | lisuLowTone
  | orkhonI
deriving DecidableEq, Repr

/-- An emoji and the zero width joiner before it, and what stands before the joiner. -/
inductive JoinedEmoji
  | start
  | keycap
  | flagLetter
  /-- Flag letters in pairs. -/
  | flags
  /-- Flag letters in pairs, and one that has none. -/
  | flagsAndLetter
  /-- Tags at the end of a region's name: its letters, and the digits before them. -/
  | tags (letters digits : Nat)
deriving DecidableEq, Repr

/-- What follows a character. -/
inductive Follower
  | other
  /-- A picture of two cells. -/
  | picture
  | skinTone
  | flagLetter
  | flagLetters
  | joined (emoji : JoinedEmoji)
  /-- `joiner` says whether a zero width joiner stands before it. -/
  | ligature (rest : LigatureEnd) (joiner : Bool)
  | kiratRaiE
  /-- Two Kirat Rai vowel signs `e`, in one character or in two. -/
  | kiratRaiAi
deriving DecidableEq, Repr

/-- A character that chooses between the forms of the one before it. -/
inductive Selector
  | narrow
  | wide
  | text
  | picture
deriving DecidableEq, Repr

def Selector.ofChar? (c : Char) : Option Selector :=
  match c with
  | '\uFE00' => some .narrow
  | '\uFE01' => some .wide
  | '\uFE0E' => some .text
  | '\uFE0F' => some .picture
  | _ => none

/-- What a character needs to know of the text after it: a selector may stand right after it. -/
structure Context where
  follower : Follower := .other
  selector : Option Selector := none
deriving DecidableEq, Repr

/-! ## Letters -/

def zeroWidthJoiner : Char := '\u200D'

/-- The Arabic letters of the shape of `alef`. -/
def alefs : CharSet := [
  (0x622, 0x623), (0x625, 0x625), (0x627, 0x627), (0x671, 0x673), (0x675, 0x675), (0x773, 0x774),
  (0x870, 0x882)]

/-- The Arabic letters of the shape of `lam`. -/
def lams : CharSet := [
  (0x644, 0x644), (0x6B5, 0x6B8), (0x76A, 0x76A), (0x8A6, 0x8A6), (0x8C7, 0x8C7)]

/-- The Khmer letters that have a subscript form. -/
def khmerConsonants : CharSet := [
  (0x1780, 0x1782), (0x1784, 0x1787), (0x1789, 0x178C), (0x178E, 0x1793), (0x1795, 0x1798),
  (0x179B, 0x179D), (0x17A0, 0x17A0), (0x17A2, 0x17A2), (0x17A7, 0x17A7), (0x17AB, 0x17AC),
  (0x17AF, 0x17AF)]

def tifinaghConsonants : CharSet := [(0x2D31, 0x2D65), (0x2D6F, 0x2D6F)]

/-- Invisible marks that may stand inside a ligature. -/
def invisibleMarks : CharSet := [
  (0x34F, 0x34F), (0x17B4, 0x17B5), (0x180B, 0x180D), (0x180F, 0x180F), (0xFE00, 0xFE0F),
  (0xE0100, 0xE01EF)]

/-- Quotation marks, which have a narrow and a wide form. -/
def quotationMark (c : Char) : Bool :=
  c = '\u2018' || c = '\u2019' || c = '\u201C' || c = '\u201D'

/-! ## What a character makes of what follows it -/

/-- The cells that a character adds to the end of a ligature, if it is part of it. -/
def LigatureEnd.before? (rest : LigatureEnd) (joiner : Bool) (c : Char) :
    Option (Int × Follower) :=
  match rest with
  | .arabicAlef =>
    if lams.contains c then some (0, .other)
    else if marks.contains c then some (0, .ligature .arabicAlef false)
    else none
  | .hebrewLamed => if joiner && c = '\u05D0' then some (0, .other) else none
  | .khmerConsonant => if c = '\u17D2' then some (-1, .other) else none
  | .bugineseYa =>
    if joiner && c = '\u1A17' then some (0, .ligature .bugineseIya false) else none
  | .bugineseIya => if c = '\u1A15' then some (0, .other) else none
  | .tifinaghConsonant =>
    if c = '\u2D7F' then some (1, .ligature .tifinaghJoined false)
    else if joiner && tifinaghConsonants.contains c then some (0, .other)
    else none
  | .tifinaghJoined => if tifinaghConsonants.contains c then some (-1, .other) else none
  | .lisuLowTone =>
    if CharSet.contains [(0xA4F8, 0xA4FB)] c then some (0, .other) else none
  | .orkhonI => if joiner && c.toNat = 0x10C32 then some (0, .other) else none

/-- The cells that a character adds to a joined emoji, if it is part of it. -/
def JoinedEmoji.before? (emoji : JoinedEmoji) (c : Char) : Option (Int × Follower) :=
  match emoji with
  | .start =>
    if c = '\u20E3' then some (0, .joined .keycap)
    else if Emoji.flagLetter c then some (1, .joined .flagLetter)
    else if Emoji.skinTone c then some (0, .skinTone)
    else if c.toNat = 0xE007F then some (0, .joined (.tags 0 0))
    else if Emoji.pictures.contains c then some (0, .picture)
    else none
  | .keycap => none
  | .flagLetter => if Emoji.flagLetter c then some (-1, .joined .flags) else none
  | .flags =>
    if Emoji.flagLetter c then some (3, .joined .flagsAndLetter)
    else if c = zeroWidthJoiner then some (0, .joined .start)
    else none
  | .flagsAndLetter =>
    if Emoji.flagLetter c then some (-1, .joined .flags)
    else if c = zeroWidthJoiner then some (0, .joined .start)
    else none
  | .tags letters digits =>
    if Emoji.tagLetter c && digits = 0 && letters < 6 then some (0, .joined (.tags (letters + 1) 0))
    else if Emoji.tagDigit c && letters ≤ 4 && digits < 3 then
      some (0, .joined (.tags letters (digits + 1)))
    else if c.toNat = 0x1F3F4 && (digits = 3 || digits = 0 && 3 ≤ letters) then some (0, .picture)
    else none

/-- The cells that a character adds to what follows it, if the two are drawn as one. -/
def Follower.before? (follower : Follower) (c : Char) : Option (Int × Follower) :=
  match follower with
  | .other => none
  | .picture => if c = zeroWidthJoiner then some (0, .joined .start) else none
  | .skinTone =>
    if Emoji.tinted.contains c then some (0, .picture)
    else if c = zeroWidthJoiner then some (0, .joined .start)
    else none
  | .flagLetter => if Emoji.flagLetter c then some (1, .flagLetters) else none
  | .flagLetters =>
    if Emoji.flagLetter c then some (1, .flagLetters)
    else if c = zeroWidthJoiner then some (0, .joined .start)
    else none
  | .joined emoji => emoji.before? c
  | .ligature .arabicAlef joiner => LigatureEnd.arabicAlef.before? joiner c
  | .ligature rest joiner =>
    if c = zeroWidthJoiner then some (0, .ligature rest true)
    else if invisibleMarks.contains c then some (0, .ligature rest joiner)
    else rest.before? joiner c
  | .kiratRaiE =>
    match c.toNat with
    | 0x16D63 | 0x16D69 => some (0, .other)
    | 0x16D67 => some (0, .kiratRaiAi)
    | 0x16D68 => some (1, .kiratRaiE)
    | _ => none
  | .kiratRaiAi => if c.toNat = 0x16D63 then some (0, .other) else none

/-- What a character is to the one before it, when it does not belong to what follows it. -/
def Follower.ofChar (c : Char) : Follower :=
  if alefs.contains c then .ligature .arabicAlef false
  else if c = '\u05DC' then .ligature .hebrewLamed false
  else if khmerConsonants.contains c then .ligature .khmerConsonant false
  else if c = '\u1A10' then .ligature .bugineseYa false
  else if tifinaghConsonants.contains c then .ligature .tifinaghConsonant false
  else if CharSet.contains [(0xA4FC, 0xA4FD)] c then .ligature .lisuLowTone false
  else if c.toNat = 0x10C03 then .ligature .orkhonI false
  else if c.toNat = 0x16D67 then .kiratRaiE
  else if c.toNat = 0x16D68 then .kiratRaiAi
  else if Emoji.flagLetter c then .flagLetter
  else if Emoji.skinTone c then .skinTone
  else if Emoji.pictures.contains c then .picture
  else .other

/-! ## Selectors -/

/-- The part of a follower that a selector before it leaves: only ligatures reach across one. -/
def Follower.acrossSelector : Follower → Follower
  | .ligature rest joiner => .ligature rest joiner
  | _ => .other

/-- The context before a selector. A joined emoji waits for the picture that the selector makes. -/
def Context.ofSelector (selector : Selector) (follower : Follower) : Context :=
  match selector, follower with
  | .picture, .joined .start => ⟨.joined .start, some .picture⟩
  | .picture, .joined .keycap => ⟨.joined .keycap, some .picture⟩
  | _, _ => ⟨follower.acrossSelector, some selector⟩

/-- The cells of a character that has the form which the selector after it chooses. -/
def Context.selected? (context : Context) (c : Char) : Option (Int × Follower) :=
  match context.selector with
  | none => none
  | some .narrow => if quotationMark c then some (1, .other) else none
  | some .wide => if quotationMark c then some (2, .other) else none
  | some .text => if Emoji.plain c then some (1, .other) else none
  | some .picture =>
    if !Emoji.styled.contains c then none
    else if let .joined _ := context.follower then some (0, .picture)
    else some (2, .picture)

/-- What follows a character that the selector after it has no form of. -/
def Context.unselected (context : Context) : Follower :=
  if context.selector.isNone then context.follower else context.follower.acrossSelector

/-- The cells that a character adds before a context, and the context before the character. -/
def Context.before (context : Context) (c : Char) : Int × Context :=
  match context.selected? c with
  | some (cells, follower) => (cells, ⟨follower, none⟩)
  | none =>
    match Selector.ofChar? c with
    | some selector => (0, .ofSelector selector context.unselected)
    | none =>
      match context.unselected.before? c with
      | some (cells, follower) => (cells, ⟨follower, none⟩)
      | none => (charWidth c, ⟨.ofChar c, none⟩)

end OneBit.Text
