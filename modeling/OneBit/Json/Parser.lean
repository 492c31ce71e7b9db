import OneBit.Json.Value

/-!
# Parsing JSON

The grammar without leniency: no leading zeros, no trailing commas, no control
characters inside strings. A parser takes bytes from the front and gives the rest, or fails.
-/

namespace OneBit.Json

/-- Takes something from the front of the bytes. -/
abbrev Parser (α : Type) := Bytes → Option (α × Bytes)

/-! ## Bytes of the grammar -/

def isBlank (b : UInt8) : Bool :=
  b == 0x20 || b == 0x09 || b == 0x0A || b == 0x0D

def isDigit (b : UInt8) : Bool :=
  0x30 ≤ b && b ≤ 0x39

def quote : UInt8 := 0x22
def backslash : UInt8 := 0x5C
def comma : UInt8 := 0x2C
def colon : UInt8 := 0x3A
def minus : UInt8 := 0x2D
def plus : UInt8 := 0x2B
def point : UInt8 := 0x2E
def openBracket : UInt8 := 0x5B
def closeBracket : UInt8 := 0x5D
def openBrace : UInt8 := 0x7B
def closeBrace : UInt8 := 0x7D

/-- The bytes after leading blanks. -/
def skipBlanks (bytes : Bytes) : Bytes :=
  bytes.dropWhile isBlank

/-- The bytes after a given byte. -/
def after (b : UInt8) : Bytes → Option Bytes
  | [] => none
  | c :: rest => if c = b then some rest else none

/-- The bytes after a given word. -/
def afterWord (word : Bytes) (bytes : Bytes) : Option Bytes :=
  if bytes.take word.length = word then some (bytes.drop word.length) else none

/-! ## Strings -/

/-- The value of a hexadecimal digit. -/
def hexDigit? (b : UInt8) : Option Nat :=
  if isDigit b then some (b.toNat - 0x30)
  else if 0x41 ≤ b ∧ b ≤ 0x46 then some (b.toNat - 0x41 + 10)
  else if 0x61 ≤ b ∧ b ≤ 0x66 then some (b.toNat - 0x61 + 10)
  else none

/-- The code unit of four hexadecimal digits. -/
def codeUnit? (a b c d : UInt8) : Option Nat := do
  return 4096 * (← hexDigit? a) + 256 * (← hexDigit? b) + 16 * (← hexDigit? c) + (← hexDigit? d)

/-- The byte that a letter after a backslash stands for. -/
def escape? (b : UInt8) : Option UInt8 :=
  if b = 0x22 ∨ b = 0x5C ∨ b = 0x2F then some b
  else if b = 0x62 then some 0x08
  else if b = 0x66 then some 0x0C
  else if b = 0x6E then some 0x0A
  else if b = 0x72 then some 0x0D
  else if b = 0x74 then some 0x09
  else none

/-- The rest of a string after its opening quote; `read` holds the pieces so far, last first. -/
def stringBody (read : List Piece) : Parser (List Piece)
  | [] => none
  | b :: rest =>
    if b = quote then some (read.reverse, rest)
    else if b = backslash then
      match rest with
      | [] => none
      | e :: rest =>
        if e = 0x75 then
          match rest with
          | h₁ :: h₂ :: h₃ :: h₄ :: rest =>
            match codeUnit? h₁ h₂ h₃ h₄ with
            | some code => stringBody (.unit code :: read) rest
            | none => none
          | _ => none
        else
          match escape? e with
          | some c => stringBody (.byte c :: read) rest
          | none => none
    else if b < 0x20 then none
    else stringBody (.byte b :: read) rest

/-! ## Numbers -/

/-- The digits at the front, at least one. -/
def digits : Parser (List Nat) := fun bytes =>
  match bytes.takeWhile isDigit with
  | [] => none
  | run => some (run.map fun b => b.toNat - 0x30, bytes.dropWhile isDigit)

/-- The digits after a point, if there is a point. -/
def fractionPart : Parser (List Nat) := fun bytes =>
  match after point bytes with
  | some rest => digits rest
  | none => some ([], bytes)

/-- The sign and digits after `e`, if there is an `e`. -/
def exponentPart : Parser (Option (Bool × List Nat)) := fun bytes =>
  match (after 0x65 bytes).or (after 0x45 bytes) with
  | none => some (none, bytes)
  | some rest => do
    let (negative, rest) := match after minus rest, after plus rest with
      | some rest, _ => (true, rest)
      | none, some rest => (false, rest)
      | none, none => (false, rest)
    let (run, rest) ← digits rest
    return (some (negative, run), rest)

/-- A number; a whole part of several digits does not start with zero. -/
def number : Parser Literal := fun bytes => do
  let (negative, bytes) := match after minus bytes with
    | some rest => (true, rest)
    | none => (false, bytes)
  let (whole, bytes) ← digits bytes
  if whole.head? = some 0 ∧ whole.length ≠ 1 then none
  let (fraction, bytes) ← fractionPart bytes
  let (exponent, bytes) ← exponentPart bytes
  return ({ negative, whole, fraction, exponent }, bytes)

/-! ## Values -/

mutual

/-- A value after blanks. Each level below takes at least one byte, which bounds the depth. -/
def value : (depth : Nat) → Parser Value
  | 0, _ => none
  | depth + 1, bytes =>
    match skipBlanks bytes with
    | [] => none
    | b :: rest =>
      if b = openBrace then
        match after closeBrace (skipBlanks rest) with
        | some rest => some (.object [], rest)
        | none => members depth [] rest
      else if b = openBracket then
        match after closeBracket (skipBlanks rest) with
        | some rest => some (.array [], rest)
        | none => items depth [] rest
      else if b = quote then
        (stringBody [] rest).map fun (pieces, rest) => (.string pieces, rest)
      else if b = minus ∨ isDigit b then
        (number (b :: rest)).map fun (literal, rest) => (.number literal, rest)
      else if b = 0x74 then
        (afterWord [0x72, 0x75, 0x65] rest).map fun rest => (.bool true, rest)
      else if b = 0x66 then
        (afterWord [0x61, 0x6C, 0x73, 0x65] rest).map fun rest => (.bool false, rest)
      else if b = 0x6E then
        (afterWord [0x75, 0x6C, 0x6C] rest).map fun rest => (.null, rest)
      else none

/-- The items of an array up to its bracket; `read` holds those before, last first. -/
def items : (depth : Nat) → (read : List Value) → Parser Value
  | 0, _, _ => none
  | depth + 1, read, bytes =>
    match value depth bytes with
    | none => none
    | some (item, rest) =>
      match skipBlanks rest with
      | [] => none
      | b :: rest =>
        if b = comma then items depth (item :: read) rest
        else if b = closeBracket then some (.array (item :: read).reverse, rest)
        else none

/-- The members of an object up to its brace; `read` holds those before, last first. -/
def members : (depth : Nat) → (read : List (List Piece × Value)) → Parser Value
  | 0, _, _ => none
  | depth + 1, read, bytes =>
    match (after quote (skipBlanks bytes)).bind (stringBody []) with
    | none => none
    | some (key, rest) =>
      match (after colon (skipBlanks rest)).bind (value depth) with
      | none => none
      | some (item, rest) =>
        match skipBlanks rest with
        | [] => none
        | b :: rest =>
          if b = comma then members depth ((key, item) :: read) rest
          else if b = closeBrace then some (.object ((key, item) :: read).reverse, rest)
          else none

end

/-- The value that a whole text spells. -/
def parse (bytes : Bytes) : Option Value := do
  let (v, rest) ← value (bytes.length + 1) bytes
  if skipBlanks rest = [] then some v else none

end OneBit.Json
