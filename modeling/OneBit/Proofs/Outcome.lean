import OneBit.Buffer

/-!
# Outcomes in sequence

What a sequence of computations that may fail gives, read off its first step. Steps on an arena,
calls on a buffer and commands on a machine also change a state as they go: `runOn` runs any of them.
-/

namespace OneBit

variable {ε σ α β : Type}

@[simp] theorem pure_eq_ok (a : α) : (pure a : Except ε α) = .ok a := rfl

@[simp] theorem throw_eq_error (e : ε) : (throw e : Except ε α) = .error e := rfl

@[simp] theorem ok_bind (a : α) (f : α → Except ε β) : (Except.ok a >>= f) = f a := rfl

@[simp] theorem error_bind (e : ε) (f : α → Except ε β) : (Except.error e >>= f) = .error e := rfl

theorem bind_eq_ok_iff {x : Except ε α} {f : α → Except ε β} {b : β} :
    (x >>= f) = .ok b ↔ ∃ a, x = .ok a ∧ f a = .ok b := by
  cases x <;> simp

/-- A check passes exactly when what it refuses does not hold. -/
theorem guard_eq_ok_iff {p : Prop} [Decidable p] {e : ε} {f : PUnit → Except ε β}
    {x : Except ε β} {b : β} :
    (if p then (throw e : Except ε PUnit) >>= f else x) = .ok b ↔ ¬p ∧ x = .ok b := by
  by_cases hp : p
  · rw [if_pos hp]
    exact iff_of_false (by rw [throw_eq_error, error_bind]; simp) fun h => h.1 hp
  · rw [if_neg hp, and_iff_right hp]

/-- A traversal succeeds when each of its steps does. -/
theorem mapM_eq_ok {f : α → Except ε β} {g : α → β} {xs : List α}
    (h : ∀ x ∈ xs, f x = .ok (g x)) : xs.mapM f = .ok (xs.map g) := by
  induction xs with
  | nil => rfl
  | cons x xs ih =>
    rw [List.mapM_cons, h x List.mem_cons_self, ih fun y hy => h y (List.mem_cons_of_mem x hy)]
    rfl

theorem expectLength_eq_ok_iff {expected found : Nat} {u : Unit} :
    expectLength expected found = .ok u ↔ expected = found := by
  unfold expectLength
  split <;> simp [*]

@[simp] theorem expectLength_self (n : Nat) : expectLength n n = .ok () := if_pos rfl

theorem sizeProduct_eq_ok {a b : Nat} (h : a * b < sizeLimit) : sizeProduct a b = .ok (a * b) := by
  rw [sizeProduct, checkedMul?, if_pos h]

theorem sizeProduct_eq_ok_iff {a b n : Nat} :
    sizeProduct a b = .ok n ↔ a * b < sizeLimit ∧ n = a * b := by
  rw [sizeProduct, checkedMul?]
  by_cases h : a * b < sizeLimit <;> simp [h, eq_comm]

theorem roomFor_eq_ok_iff {a b n : Nat} :
    roomFor a b = .ok n ↔ a * b < sizeLimit ∧ n = a * b := by
  rw [roomFor, checkedMul?]
  by_cases h : a * b < sizeLimit <;> simp [h, eq_comm]

/-! ## Which errors come out -/

/-- Every error that comes out is of one kind. -/
def Raises (kind : ε → Prop) (x : Except ε α) : Prop :=
  ∀ e, x = .error e → kind e

namespace Raises

variable {kind : ε → Prop} {x : Except ε α} {f : α → Except ε β} {e : ε}

theorem ok (a : α) : Raises kind (.ok a) := by
  rintro _ ⟨⟩

theorem error (h : kind e) : Raises kind (.error e : Except ε α) := by
  rintro _ ⟨⟩
  exact h

theorem mono {kind' : ε → Prop} (hx : Raises kind x) (h : ∀ e, kind e → kind' e) :
    Raises kind' x :=
  fun e he => h e (hx e he)

/-- What comes after a computation can count on its result. -/
theorem bind (hx : Raises kind x) (hf : ∀ a, x = .ok a → Raises kind (f a)) :
    Raises kind (x >>= f) := by
  cases x with
  | error e => exact error (hx e rfl)
  | ok a => exact hf a rfl

theorem guard {p : Prop} [Decidable p] {g : PUnit → Except ε α} (he : p → kind e)
    (hx : ¬p → Raises kind x) : Raises kind (if p then throw e >>= g else x) := by
  by_cases hp : p
  · rw [if_pos hp]
    exact error (he hp)
  · rw [if_neg hp]
    exact hx hp

end Raises

/-! ## Computations on a state -/

/-- The outcome of a computation, and the state as it left it. -/
def runOn (x : ExceptT ε (StateM σ) α) (s : σ) : Except ε α × σ :=
  StateT.run (ExceptT.run x) s

theorem BufferM.on_eq_runOn (call : BufferM α β) (buffer : List α) :
    call.on buffer = runOn call buffer := rfl

theorem runOn_bind (x : ExceptT ε (StateM σ) α) (f : α → ExceptT ε (StateM σ) β) (s : σ) :
    runOn (x >>= f) s =
      match runOn x s with
      | (.ok a, s) => runOn (f a) s
      | (.error e, s) => (.error e, s) := by
  show (ExceptT.bindCont f (runOn x s).1).run (runOn x s).2 = _
  cases runOn x s with
  | mk outcome t => cases outcome <;> rfl

theorem runOn_bind_ok {x : ExceptT ε (StateM σ) α} {f : α → ExceptT ε (StateM σ) β} {s t : σ} {a : α}
    (h : runOn x s = (.ok a, t)) : runOn (x >>= f) s = runOn (f a) t := by
  rw [runOn_bind, h]

@[simp] theorem runOn_pure (a : α) (s : σ) :
    runOn (pure a : ExceptT ε (StateM σ) α) s = (.ok a, s) := rfl

@[simp] theorem runOn_throw (e : ε) (s : σ) :
    runOn (throw e : ExceptT ε (StateM σ) α) s = (.error e, s) := rfl

@[simp] theorem runOn_lift (outcome : Except ε α) (s : σ) :
    runOn (liftM outcome : ExceptT ε (StateM σ) α) s = (outcome, s) := rfl

/-- A computation that cannot fail. -/
theorem runOn_liftState (x : StateM σ α) (s : σ) :
    runOn (liftM x : ExceptT ε (StateM σ) α) s = (.ok (x.run s).1, (x.run s).2) := rfl

@[simp] theorem runOn_get (s : σ) : runOn (get : ExceptT ε (StateM σ) σ) s = (.ok s, s) := rfl

@[simp] theorem runOn_set (new s : σ) :
    runOn (set new : ExceptT ε (StateM σ) PUnit) s = (.ok ⟨⟩, new) := rfl

@[simp] theorem runOn_modify (f : σ → σ) (s : σ) :
    runOn (modify f : ExceptT ε (StateM σ) PUnit) s = (.ok ⟨⟩, f s) := rfl

end OneBit
