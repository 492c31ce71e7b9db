import OneBit.Json.Value

/-!
# The text of a JSON string

Code units above the basic plane come in pairs; a lone half is no text, and neither are bytes that
are no UTF-8.
-/

namespace OneBit.Json

/-- The first half of a pair. -/
def isLeading (code : Nat) : Bool :=
  0xD800 ≤ code && code ≤ 0xDBFF

/-- The second half of a pair. -/
def isTrailing (code : Nat) : Bool :=
  0xDC00 ≤ code && code ≤ 0xDFFF

/-- The character of a pair. -/
def pairCode (leading trailing : Nat) : Nat :=
  0x10000 + (leading - 0xD800) * 0x400 + (trailing - 0xDC00)

/-- The UTF-8 bytes of the pieces. -/
def pieceBytes : List Piece → Option Bytes
  | [] => some []
  | .byte b :: rest => (pieceBytes rest).map (b :: ·)
  | .unit code :: rest =>
    if isTrailing code then none
    else if isLeading code then
      match rest with
      | .unit next :: rest =>
        if isTrailing next then
          (pieceBytes rest).map (String.utf8EncodeChar (Char.ofNat (pairCode code next)) ++ ·)
        else none
      | _ => none
    else (pieceBytes rest).map (String.utf8EncodeChar (Char.ofNat code) ++ ·)

/-- The text that the pieces spell. -/
def text? (pieces : List Piece) : Option String := do
  let bytes ← pieceBytes pieces
  String.fromUTF8? ⟨bytes.toArray⟩

end OneBit.Json
