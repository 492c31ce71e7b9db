import OneBit.Proofs.Outcome

/-!
# Calls on a buffer as a whole

* `exactPieces_eq_ok`, `allPieces_eq_ok` : into how many pieces a list is cut, and what they are;
* `zipUpdate_eq_map`, `BufferM.runOn_zipPieces` : a loop over two sequences of the same length leaves
  nothing of the second;
* `BufferM.AllOrNothing` : a call either fails and leaves the buffer as it was, or succeeds and
  leaves one of the same length; `BufferM.filled` is the buffer it leaves;
* `BufferM.Replaces` : a call looks at nothing of the buffer but its length, and leaves the same
  elements whatever was there;
* `getElem?_rowMajor` : buffers hold matrices row after row.
-/

namespace OneBit

variable {α β : Type}

/-! ## Pieces -/

@[simp] theorem length_firstPieces (size count : Nat) (xs : List α) :
    (firstPieces size count xs).length = count := by
  induction count generalizing xs with
  | zero => rfl
  | succ count ih => rw [firstPieces, List.length_cons, ih]

theorem length_le_of_mem_firstPieces {size count : Nat} {xs piece : List α}
    (h : piece ∈ firstPieces size count xs) : piece.length ≤ size := by
  induction count generalizing xs with
  | zero => cases h
  | succ count ih =>
    rcases List.mem_cons.1 h with rfl | h
    · exact List.length_take_le _ _
    · exact ih h

/-- As long as the list lasts, the pieces have the length asked for. -/
theorem length_of_mem_firstPieces {size count : Nat} {xs piece : List α}
    (room : count * size ≤ xs.length) (h : piece ∈ firstPieces size count xs) :
    piece.length = size := by
  induction count generalizing xs with
  | zero => cases h
  | succ count ih =>
    rw [Nat.succ_mul] at room
    rcases List.mem_cons.1 h with rfl | h
    · rw [List.length_take]
      omega
    · refine ih ?_ h
      rw [List.length_drop]
      omega

theorem getElem?_firstPieces {size count k : Nat} (xs : List α) (hk : k < count) :
    (firstPieces size count xs)[k]? = some ((xs.drop (k * size)).take size) := by
  induction count generalizing xs k with
  | zero => omega
  | succ count ih =>
    cases k with
    | zero => simp [firstPieces]
    | succ k =>
      rw [firstPieces, List.getElem?_cons_succ, ih _ (by omega), List.drop_drop, Nat.succ_mul,
        Nat.add_comm size]

theorem firstPieces_map (f : α → β) (size count : Nat) (xs : List α) :
    firstPieces size count (xs.map f) = (firstPieces size count xs).map (List.map f) := by
  induction count generalizing xs with
  | zero => rfl
  | succ count ih =>
    rw [firstPieces, ← List.map_take, ← List.map_drop, ih, firstPieces, List.map_cons]

/-- A list of whole pieces is cut into them. -/
theorem exactPieces_eq_ok {size count : Nat} {xs : List α} (hsize : 0 < size)
    (h : xs.length = count * size) : exactPieces size xs = .ok (firstPieces size count xs) := by
  rw [exactPieces, if_neg (Nat.ne_of_gt hsize), h, Nat.mul_div_cancel count hsize]

theorem allPieces_eq_ok {size : Nat} (hsize : 0 < size) (xs : List α) :
    allPieces size xs = .ok (firstPieces size ((xs.length + size - 1) / size) xs) :=
  if_neg (Nat.ne_of_gt hsize)

/-! ## Loops over two sequences -/

/-- Two sequences of the same length end together, and nothing is left of the second. -/
theorem zipUpdate_eq_map {f : α → β → Except TensorError β} {g : α → β} {xs : List α} {ys : List β}
    (hlength : xs.length = ys.length) (h : ∀ x ∈ xs, ∀ y ∈ ys, f x y = .ok (g x)) :
    zipUpdate f xs ys = .ok (xs.map g) := by
  induction xs generalizing ys with
  | nil =>
    obtain rfl : ys = [] := List.length_eq_zero_iff.1 hlength.symm
    rfl
  | cons x xs ih =>
    cases ys with
    | nil => cases hlength
    | cons y ys =>
      have hrest := ih (Nat.succ.inj hlength) fun x hx y hy =>
        h x (List.mem_cons_of_mem _ hx) y (List.mem_cons_of_mem _ hy)
      rw [zipUpdate, h x List.mem_cons_self y List.mem_cons_self, hrest]
      rfl

/-- What is not reached stays. -/
theorem zipUpdate_ok_eq (g : α → β → β) (xs : List α) (ys : List β) :
    zipUpdate (fun x y => .ok (g x y)) xs ys =
      .ok (List.zipWith g xs ys ++ ys.drop xs.length) := by
  induction xs generalizing ys with
  | nil => rfl
  | cons x xs ih =>
    cases ys with
    | nil => rfl
    | cons y ys =>
      rw [zipUpdate, ih]
      rfl

/-- The element of a matrix stored row after row. -/
theorem getElem?_rowMajor (f : Nat → Nat → α) {rows cols row col : Nat} (hr : row < rows)
    (hc : col < cols) :
    ((List.range (rows * cols)).map fun k => f (k / cols) (k % cols))[row * cols + col]? =
      some (f row col) := by
  have hk : row * cols + col < rows * cols :=
    calc row * cols + col < (row + 1) * cols := by rw [Nat.succ_mul]; omega
      _ ≤ rows * cols := Nat.mul_le_mul_right cols hr
  have hdiv : (row * cols + col) / cols = row := by
    rw [Nat.mul_comm, Nat.mul_add_div (by omega), Nat.div_eq_of_lt hc, Nat.add_zero]
  have hmod : (row * cols + col) % cols = col := by
    rw [Nat.mul_comm, Nat.mul_add_mod, Nat.mod_eq_of_lt hc]
  rw [List.getElem?_map, List.getElem?_range hk, Option.map_some, hdiv, hmod]

namespace BufferM

/-- A loop over as many rows as the buffer has replaces all of them. -/
theorem runOn_zipPieces {f : β → List α → Except TensorError (List α)} {g : β → List α}
    {size : Nat} {xs : List β} {buffer : List α} (hsize : 0 < size)
    (room : buffer.length = xs.length * size)
    (h : ∀ x ∈ xs, ∀ row : List α, row.length = size → f x row = .ok (g x)) :
    runOn (zipPieces size f xs) buffer = (.ok (), (xs.map g).flatten) := by
  have hchanged : zipUpdate f xs (firstPieces size xs.length buffer) = .ok (xs.map g) :=
    zipUpdate_eq_map (length_firstPieces size xs.length buffer).symm fun x hx row hrow =>
      h x hx row (length_of_mem_firstPieces (Nat.le_of_eq room.symm) hrow)
  have hend : buffer.drop (buffer.length / size * size) = [] := by
    rw [room, Nat.mul_div_cancel _ hsize, ← room, List.drop_length]
  rw [zipPieces, runOn_bind_ok (runOn_get buffer), exactPieces_eq_ok hsize room,
    runOn_bind_ok (runOn_lift _ _), hchanged, runOn_bind_ok (runOn_lift _ _), hend, List.append_nil]
  rfl

/-- A call that fails makes nothing of the buffer, for the reason it failed. -/
theorem raises_filled {kind : TensorError → Prop} {call : BufferM α Unit} {buffer : List α}
    (h : Raises kind (runOn call buffer).1) : Raises kind (call.filled buffer) := by
  rw [filled, on_eq_runOn]
  exact .bind h fun _ _ => .ok _

/-- On this buffer the call fails without a trace or succeeds and keeps the length. -/
inductive AllOrNothing (call : BufferM α Unit) (buffer : List α) : Prop
  | nothing {e : TensorError} (run : runOn call buffer = (.error e, buffer))
  | all {new : List α} (run : runOn call buffer = (.ok (), new))
      (length : new.length = buffer.length)

namespace AllOrNothing

variable {call : BufferM α Unit} {buffer new : List α}

theorem length_filled (h : AllOrNothing call buffer) (hfilled : call.filled buffer = .ok new) :
    new.length = buffer.length := by
  rcases h with run | ⟨run, length⟩ <;> rw [filled, on_eq_runOn, run] at hfilled
  · cases hfilled
  · cases hfilled
    exact length

end AllOrNothing

/-- The end of a call that checks before it writes: `new` in the buffer, or an error and the buffer
as it was. -/
def conclude (buffer new : List α) : Except TensorError Unit → Except TensorError Unit × List α
  | .ok () => (.ok (), new)
  | .error e => (.error e, buffer)

theorem runOn_bind_eq_conclude {read : BufferM α β} {x : Except TensorError β}
    {f : β → BufferM α Unit} {check : β → Except TensorError Unit} {buffer new : List α}
    (hread : runOn read buffer = (x, buffer))
    (h : ∀ b, x = .ok b → runOn (f b) buffer = conclude buffer new (check b)) :
    runOn (read >>= f) buffer = conclude buffer new (x >>= check) := by
  rw [runOn_bind, hread]
  cases x with
  | error e => rfl
  | ok b => exact h b rfl

/-- After the last check the call succeeds. -/
theorem runOn_check_eq_conclude {check : Except TensorError Unit} {f : Unit → BufferM α Unit}
    {buffer new : List α} (h : check = .ok () → runOn (f ()) buffer = (.ok (), new)) :
    runOn (liftM check >>= f) buffer = conclude buffer new check := by
  rw [runOn_bind, runOn_lift]
  cases check with
  | error e => rfl
  | ok _ => exact h rfl

/-- The call checks the length of the buffer and nothing else of it, and then leaves `new`. -/
def Replaces (call : BufferM α Unit) (check : Nat → Except TensorError Unit) (new : List α) :
    Prop :=
  ∀ buffer : List α, runOn call buffer = conclude buffer new (check buffer.length)

namespace Replaces

variable {call : BufferM α Unit} {check : Nat → Except TensorError Unit} {buffer new : List α}

theorem runOn_fst (h : Replaces call check new) (buffer : List α) :
    (runOn call buffer).1 = check buffer.length := by
  rw [h buffer]
  cases check buffer.length <;> rfl

theorem runOn_of_ok (h : Replaces call check new) (hcheck : check buffer.length = .ok ()) :
    runOn call buffer = (.ok (), new) := by
  rw [h buffer, hcheck, conclude]

/-- A call that fails has not touched the buffer. -/
theorem runOn_snd_of_error (h : Replaces call check new) {e : TensorError}
    (he : (runOn call buffer).1 = .error e) : (runOn call buffer).2 = buffer := by
  rw [h.runOn_fst] at he
  rw [h buffer, he, conclude]

theorem runOn_snd_of_ok (h : Replaces call check new) (hok : (runOn call buffer).1 = .ok ()) :
    (runOn call buffer).2 = new := by
  rw [h.runOn_fst] at hok
  rw [h.runOn_of_ok hok]

/-- A call that succeeds does the same on every buffer of that length. -/
theorem runOn_eq_of_length (h : Replaces call check new) (hok : (runOn call buffer).1 = .ok ())
    {other : List α} (hlength : other.length = buffer.length) :
    runOn call other = runOn call buffer := by
  rw [h.runOn_fst] at hok
  rw [h.runOn_of_ok (hlength ▸ hok), h.runOn_of_ok hok]

theorem allOrNothing (h : Replaces call check new)
    (hlength : check buffer.length = .ok () → new.length = buffer.length) :
    AllOrNothing call buffer := by
  cases hcheck : check buffer.length with
  | error e => exact .nothing (by rw [h buffer, hcheck, conclude])
  | ok _ => exact .all (h.runOn_of_ok hcheck) (hlength hcheck)

theorem runOn_eq_ok_iff (h : Replaces call check new) {left : List α} :
    runOn call buffer = (.ok (), left) ↔ check buffer.length = .ok () ∧ left = new := by
  rw [h buffer]
  cases check buffer.length <;> simp [conclude, eq_comm]

theorem filled_eq_ok_iff (h : Replaces call check new) {left : List α} :
    call.filled buffer = .ok left ↔ check buffer.length = .ok () ∧ left = new := by
  rw [filled, on_eq_runOn, h buffer]
  cases check buffer.length <;> simp [conclude, eq_comm]

/-- Only the check raises errors. -/
theorem raises (h : Replaces call check new) {kind : TensorError → Prop}
    (hcheck : Raises kind (check buffer.length)) : Raises kind (runOn call buffer).1 := by
  rw [h.runOn_fst]
  exact hcheck

end Replaces

end BufferM

end OneBit
