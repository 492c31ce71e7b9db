import OneBit.Buffer
import OneBit.Ieee.Binary32

/-!
# Products by segment

`segmentProduct` multiplies rows of equal length into the output row that their id names. Rows with
a negative id are left out, and an output row that no id names holds ones.
-/

namespace OneBit

open Ieee

/-- A number type that rows can be multiplied in. -/
structure Factor (α : Type) where
  one : α
  mul : α → α → α

namespace Factor

/-- Products of 32-bit integers wrap around. -/
def int32 : Factor Int32 := ⟨1, (· * ·)⟩

/-- Products of singles are rounded one by one. -/
def float32 : Factor Binary32 := ⟨Binary32.one, Binary32.mul⟩

end Factor

variable {α : Type}

/-- Multiplies a row into the `rowLength` elements of the buffer from `start` on. -/
def multiplyAt (factor : Factor α) (start rowLength : Nat) (row : List α) : BufferM α Unit := do
  let (before, rest) ← cutAt (← get) start
  let (segment, after) ← cutAt rest rowLength
  let products ← zipUpdate (fun x product => .ok (factor.mul product x)) row segment
  set (before ++ products ++ after)

/-- Multiplies the rows in order, each into the segment that the id beside it names. -/
def multiplyRows (factor : Factor α) (rowLength : Nat) : List (List α) → List Int32 → BufferM α Unit
  | row :: rows, id :: ids => do
    if 0 ≤ id.toInt then multiplyAt factor (id.toInt.toNat * rowLength) rowLength row
    multiplyRows factor rowLength rows ids
  | _, _ => pure ()

/-- Fills the buffer with ones and multiplies the rows of `data` into it. -/
def fillSegments (factor : Factor α) (data : List α) (rowLength : Nat) (ids : List Int32) :
    BufferM α Unit := do
  modify (List.map fun _ => factor.one)
  if rowLength = 0 then return
  multiplyRows factor rowLength (← exactPieces rowLength data) ids

/-- Fills the buffer with the products of the rows of `data` by segment. -/
def segmentProduct (factor : Factor α) (data : List α) (rowLength : Nat) (ids : List Int32)
    (count : Nat) : BufferM α Unit := do
  expectLength (ids.length * rowLength) data.length
  expectLength (count * rowLength) (← get).length
  if let some id := ids.find? fun id => 0 ≤ id.toInt && count ≤ id.toInt.toNat then
    throw (.segmentIdOutOfRange id (Int32.ofNat count))
  fillSegments factor data rowLength ids

end OneBit
