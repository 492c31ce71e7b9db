import OneBit.Container.Error

/-!
# Reading fields from bytes

A reader takes bytes from the front and fails with the end of input when a field is cut short.
-/

namespace OneBit

/-- Takes bytes from the front, or fails. -/
abbrev Reader := StateT Bytes (Except ContainerError)

namespace Reader

/-- The next `width` bytes. -/
def take (width : Nat) : Reader Bytes := fun bytes =>
  let field := bytes.take width
  if field.length = width then .ok (field, bytes.drop width)
  else .error (.io .endOfInput)

/-- The next `width` bytes as a little-endian number. -/
def number (width : Nat) : Reader Nat := do
  return (← take width).toNat

def byte : Reader UInt8 := do
  return UInt8.ofNat (← number 1)

def word : Reader UInt32 := do
  return UInt32.ofNat (← number 4)

def long : Reader UInt64 := do
  return UInt64.ofNat (← number 8)

/-- The same field `count` times. It stops at the first that fails. -/
def many {α : Type} (field : Reader α) : (count : Nat) → Reader (List α)
  | 0 => pure []
  | count + 1 => do
    let x ← field
    let xs ← many field count
    return x :: xs

end Reader

end OneBit
