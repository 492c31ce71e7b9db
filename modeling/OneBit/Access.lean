import OneBit.Error

/-!
# Positions and pieces of a sequence

Reading at a position, cutting there and cutting into pieces, where nothing but a check made elsewhere
keeps the position in range and the pieces from being empty. Otherwise all of them fail with
`TensorError.outOfBounds`.
-/

namespace OneBit

variable {α β : Type}

/-- The element at a position. -/
def elementAt (xs : List α) (i : Nat) : Except TensorError α :=
  match xs[i]? with
  | some x => .ok x
  | none => .error (.outOfBounds xs.length i)

/-- The elements before a position, and those from it on. -/
def cutAt (xs : List α) (i : Nat) : Except TensorError (List α × List α) :=
  if i ≤ xs.length then .ok (xs.take i, xs.drop i) else .error (.outOfBounds xs.length i)

theorem elementAt_eq_ok_iff {xs : List α} {i : Nat} {x : α} :
    elementAt xs i = .ok x ↔ xs[i]? = some x := by
  unfold elementAt
  cases xs[i]? <;> simp

theorem elementAt_eq_ok {xs : List α} {i : Nat} (h : i < xs.length) :
    elementAt xs i = .ok xs[i] :=
  elementAt_eq_ok_iff.2 (List.getElem?_eq_getElem h)

theorem cutAt_eq_ok {xs : List α} {i : Nat} (h : i ≤ xs.length) :
    cutAt xs i = .ok (xs.take i, xs.drop i) :=
  if_pos h

/-! ## Pieces -/

/-- The first `count` pieces of `size` elements, shorter where the list ends. -/
def firstPieces (size : Nat) : (count : Nat) → List α → List (List α)
  | 0, _ => []
  | count + 1, xs => xs.take size :: firstPieces size count (xs.drop size)

/-- The pieces of `size` elements, the last one shorter where the list ends. -/
def allPieces (size : Nat) (xs : List α) : Except TensorError (List (List α)) :=
  if size = 0 then .error (.outOfBounds 0 0)
  else .ok (firstPieces size ((xs.length + size - 1) / size) xs)

/-- The whole pieces of `size` elements, without what is left over. -/
def exactPieces (size : Nat) (xs : List α) : Except TensorError (List (List α)) :=
  if size = 0 then .error (.outOfBounds 0 0)
  else .ok (firstPieces size (xs.length / size) xs)

/-- Goes through two sequences side by side until one of them ends and changes the elements of the
second on the way. What it does not reach of the second stays as it is. -/
def zipUpdate (f : α → β → Except TensorError β) : List α → List β → Except TensorError (List β)
  | x :: xs, y :: ys => do return (← f x y) :: (← zipUpdate f xs ys)
  | _, ys => .ok ys

end OneBit
