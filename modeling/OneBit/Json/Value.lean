import OneBit.Bytes

/-!
# JSON values

The tree of a JSON text. Numbers and strings are kept as written: a number that no double holds or
a string that is no text is an error only where it is used.
-/

namespace OneBit.Json

/-- A number as written, in digits. -/
structure Literal where
  negative : Bool
  whole : List Nat
  /-- The digits after the point; empty when there is no point. -/
  fraction : List Nat
  /-- The sign and the digits after `e`. -/
  exponent : Option (Bool × List Nat)
deriving DecidableEq, Repr

/-- A piece of a string: a byte, or a code unit written in hexadecimal. -/
inductive Piece
  | byte (b : UInt8)
  | unit (code : Nat)
deriving DecidableEq, Repr

inductive Value
  | null
  | bool (b : Bool)
  | number (literal : Literal)
  | string (pieces : List Piece)
  | array (items : List Value)
  | object (members : List (List Piece × Value))

end OneBit.Json
