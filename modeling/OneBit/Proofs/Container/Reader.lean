import Mathlib.Algebra.Group.Nat.Defs
import OneBit.Container.Reader
import OneBit.Proofs.Outcome

/-!
# Readers as inverses of writers

`Reader.Inverts r Valid write` says that `r` accepts exactly the written forms of valid values and
leaves what follows them. Every field of a header inverts its little-endian form, and a list of
fields the concatenation of theirs. `Reader.Raises kind r` says which errors there are otherwise.
-/

namespace OneBit

namespace Bytes

theorem toNat_lt (bytes : Bytes) : bytes.toNat < 256 ^ bytes.length := by
  induction bytes with
  | nil => simp [toNat]
  | cons b bytes ih =>
    have hb := b.toNat_lt
    rw [toNat, List.length_cons, Nat.pow_succ]
    omega

theorem littleEndian_toNat (bytes : Bytes) : littleEndian bytes.length bytes.toNat = bytes := by
  induction bytes with
  | nil => rfl
  | cons b bytes ih =>
    have hb := b.toNat_lt
    have hdiv : (b.toNat + 256 * toNat bytes) / 256 = toNat bytes := by omega
    rw [List.length_cons, littleEndian, toNat, hdiv, ih]
    congr 1
    rw [← UInt8.toNat_inj, UInt8.toNat_ofNat']
    omega

theorem toNat_littleEndian_of_lt {width n : Nat} (h : n < 256 ^ width) :
    toNat (littleEndian width n) = n := by
  rw [toNat_littleEndian]
  exact Nat.mod_eq_of_lt h

end Bytes

namespace Reader

variable {α β : Type}

theorem bind_eq_ok_iff {r : Reader α} {f : α → Reader β} {bytes rest : Bytes} {y : β} :
    (r >>= f) bytes = .ok (y, rest) ↔ ∃ x mid, r bytes = .ok (x, mid) ∧ f x mid = .ok (y, rest) := by
  show (r bytes >>= fun p => f p.1 p.2) = _ ↔ _
  rw [OneBit.bind_eq_ok_iff, Prod.exists]

theorem bind_of_ok {r : Reader α} {bytes mid : Bytes} {x : α} (h : r bytes = .ok (x, mid))
    (f : α → Reader β) : (r >>= f) bytes = f x mid := by
  show (r bytes >>= fun p => f p.1 p.2) = _
  rw [h, ok_bind]

theorem bind_of_error {r : Reader α} {bytes : Bytes} {e : ContainerError} (h : r bytes = .error e)
    (f : α → Reader β) : (r >>= f) bytes = .error e := by
  show (r bytes >>= fun p => f p.1 p.2) = _
  rw [h, error_bind]

theorem pure_eq_ok_iff {x y : α} {bytes rest : Bytes} :
    (pure x : Reader α) bytes = .ok (y, rest) ↔ x = y ∧ bytes = rest := by
  show Except.ok (x, bytes) = _ ↔ _
  simp

theorem throw_ne_ok {e : ContainerError} {bytes : Bytes} {p : α × Bytes} :
    (throw e : Reader α) bytes ≠ .ok p := by
  show Except.error e ≠ _
  simp

theorem lift_eq_ok_iff {x : Except ContainerError α} {y : α} {bytes rest : Bytes} :
    (liftM x : Reader α) bytes = .ok (y, rest) ↔ x = .ok y ∧ bytes = rest := by
  show (x >>= fun a => .ok (a, bytes)) = .ok (y, rest) ↔ _
  cases x <;> simp

/-- A check between two fields passes exactly when what it refuses does not hold. -/
theorem guard_eq_ok_iff {p : Prop} [Decidable p] {e : ContainerError} {f : PUnit → Reader α}
    {r : Reader α} {bytes : Bytes} {q : α × Bytes} :
    (if p then (throw e : Reader PUnit) >>= f else r) bytes = .ok q ↔ ¬p ∧ r bytes = .ok q := by
  by_cases hp : p
  · rw [if_pos hp]
    refine iff_of_false (fun h => ?_) (fun h => h.1 hp)
    obtain ⟨_, _, hthrow, -⟩ := bind_eq_ok_iff.1 h
    exact throw_ne_ok hthrow
  · rw [if_neg hp]
    exact (and_iff_right hp).symm

theorem take_eq_ok_iff {width : Nat} {bytes field rest : Bytes} :
    take width bytes = .ok (field, rest) ↔ field.length = width ∧ bytes = field ++ rest := by
  simp only [take]
  constructor
  · intro h
    split at h
    · rename_i hlen
      obtain ⟨rfl, rfl⟩ := Prod.mk.inj (Except.ok.inj h)
      exact ⟨hlen, (List.take_append_drop width bytes).symm⟩
    · cases h
  · rintro ⟨rfl, rfl⟩
    simp

/-- The reader accepts exactly the written forms of valid values and leaves what follows. -/
def Inverts (r : Reader α) (Valid : α → Prop) (write : α → Bytes) : Prop :=
  ∀ bytes x rest, r bytes = .ok (x, rest) ↔ Valid x ∧ bytes = write x ++ rest

/-- A reader of one value, translated without loss. -/
theorem Inverts.map {r : Reader α} {Valid : α → Prop} {write : α → Bytes} (h : r.Inverts Valid write)
    {f : α → β} {g : β → α} (fg : ∀ y, Valid (g y) ∧ f (g y) = y) (gf : ∀ x, Valid x → g (f x) = x) :
    Reader.Inverts (do return f (← r)) (fun _ => True) (fun y => write (g y)) := by
  intro bytes y rest
  rw [bind_eq_ok_iff]
  constructor
  · rintro ⟨x, mid, hx, hy⟩
    obtain ⟨rfl, rfl⟩ := pure_eq_ok_iff.1 hy
    obtain ⟨hv, rfl⟩ := (h bytes x mid).1 hx
    exact ⟨trivial, by simp only [gf x hv]⟩
  · rintro ⟨-, rfl⟩
    exact ⟨g y, rest, (h _ _ _).2 ⟨(fg y).1, rfl⟩, pure_eq_ok_iff.2 ⟨(fg y).2, rfl⟩⟩

theorem number_inverts (width : Nat) :
    (number width).Inverts (· < 256 ^ width) (Bytes.littleEndian width) := by
  intro bytes n rest
  rw [number, bind_eq_ok_iff]
  constructor
  · rintro ⟨field, mid, hfield, hn⟩
    obtain ⟨rfl, rfl⟩ := take_eq_ok_iff.1 hfield
    obtain ⟨rfl, rfl⟩ := pure_eq_ok_iff.1 hn
    exact ⟨field.toNat_lt, by rw [Bytes.littleEndian_toNat]⟩
  · rintro ⟨hn, rfl⟩
    exact ⟨_, rest, take_eq_ok_iff.2 ⟨Bytes.length_littleEndian width n, rfl⟩,
      pure_eq_ok_iff.2 ⟨Bytes.toNat_littleEndian_of_lt hn, rfl⟩⟩

theorem byte_inverts : byte.Inverts (fun _ => True) (fun b => [b]) := by
  have h := (number_inverts 1).map (f := UInt8.ofNat) (g := UInt8.toNat)
    (fun b => ⟨b.toNat_lt, UInt8.ofNat_toNat⟩) (fun n hn => UInt8.toNat_ofNat_of_lt hn)
  intro bytes b rest
  rw [byte, h]
  simp [Bytes.littleEndian]

theorem word_inverts :
    word.Inverts (fun _ => True) (fun w => Bytes.littleEndian 4 w.toNat) :=
  (number_inverts 4).map (fun w => ⟨w.toNat_lt, UInt32.ofNat_toNat⟩)
    (fun _ hn => UInt32.toNat_ofNat_of_lt hn)

theorem long_inverts :
    long.Inverts (fun _ => True) (fun n => Bytes.littleEndian 8 n.toNat) :=
  (number_inverts 8).map (fun n => ⟨n.toNat_lt, UInt64.ofNat_toNat⟩)
    (fun _ hn => UInt64.toNat_ofNat_of_lt hn)

theorem many_inverts {field : Reader α} {Valid : α → Prop} {write : α → Bytes}
    (h : field.Inverts Valid write) (count : Nat) :
    (many field count).Inverts (fun xs => xs.length = count ∧ ∀ x ∈ xs, Valid x)
      (·.flatMap write) := by
  induction count with
  | zero =>
    intro bytes xs rest
    rw [many, pure_eq_ok_iff]
    constructor
    · rintro ⟨rfl, rfl⟩
      simp
    · rintro ⟨⟨hlen, -⟩, rfl⟩
      simp [List.length_eq_zero_iff.1 hlen]
  | succ count ih =>
    intro bytes xs rest
    rw [many, bind_eq_ok_iff]
    constructor
    · rintro ⟨x, mid, hx, hmid⟩
      obtain ⟨hv, rfl⟩ := (h _ _ _).1 hx
      obtain ⟨tail, left, htail, hxs⟩ := bind_eq_ok_iff.1 hmid
      obtain ⟨⟨rfl, hvs⟩, rfl⟩ := (ih _ _ _).1 htail
      obtain ⟨rfl, rfl⟩ := pure_eq_ok_iff.1 hxs
      exact ⟨⟨rfl, List.forall_mem_cons.2 ⟨hv, hvs⟩⟩, by simp⟩
    · rintro ⟨⟨hlen, hvs⟩, rfl⟩
      obtain ⟨x, tail, rfl⟩ := List.exists_cons_of_length_eq_add_one hlen
      rw [List.forall_mem_cons] at hvs
      refine ⟨x, tail.flatMap write ++ rest, (h _ _ _).2 ⟨hvs.1, by simp⟩, bind_eq_ok_iff.2
        ⟨tail, rest, (ih _ _ _).2 ⟨⟨by simpa using hlen, hvs.2⟩, rfl⟩, pure_eq_ok_iff.2 ⟨rfl, rfl⟩⟩⟩

/-! ## Which errors come out -/

/-- Every error of the reader is of one kind, whatever the bytes. -/
def Raises (kind : ContainerError → Prop) (r : Reader α) : Prop :=
  ∀ bytes, OneBit.Raises kind (r bytes)

namespace Raises

variable {kind : ContainerError → Prop} {r : Reader α} {e : ContainerError}

theorem pure (a : α) : Raises kind (Pure.pure a : Reader α) :=
  fun bytes => .ok (a, bytes)

theorem throw (h : kind e) : Raises kind (MonadExcept.throw e : Reader α) :=
  fun _ => .error h

theorem lift {x : Except ContainerError α} (h : OneBit.Raises kind x) :
    Raises kind (liftM x : Reader α) := by
  intro bytes
  show OneBit.Raises kind (x >>= fun a => .ok (a, bytes))
  exact h.bind fun a _ => .ok (a, bytes)

theorem bind {f : α → Reader β} (hr : Raises kind r) (hf : ∀ a, Raises kind (f a)) :
    Raises kind (r >>= f) := by
  intro bytes
  show OneBit.Raises kind (r bytes >>= fun p => f p.1 p.2)
  exact (hr bytes).bind fun p _ => hf p.1 p.2

theorem guard {p : Prop} [Decidable p] {f : PUnit → Reader α} (he : kind e) (hr : Raises kind r) :
    Raises kind (if p then (MonadExcept.throw e : Reader PUnit) >>= f else r) := by
  by_cases hp : p
  · rw [if_pos hp]
    intro bytes
    have hthrow : (MonadExcept.throw e : Reader PUnit) bytes = .error e := rfl
    rw [bind_of_error hthrow]
    exact .error he
  · rw [if_neg hp]
    exact hr

theorem take (h : kind (.io .endOfInput)) (width : Nat) : Raises kind (Reader.take width) := by
  intro bytes
  by_cases hlen : (bytes.take width).length = width
  · rw [Reader.take_eq_ok_iff.2 ⟨hlen, (List.take_append_drop width bytes).symm⟩]
    exact .ok _
  · simp only [Reader.take, if_neg hlen]
    exact .error h

theorem number (h : kind (.io .endOfInput)) (width : Nat) : Raises kind (Reader.number width) :=
  bind (take h width) fun _ => pure _

theorem many {field : Reader α} (h : Raises kind field) (count : Nat) :
    Raises kind (Reader.many field count) := by
  induction count with
  | zero => exact pure []
  | succ count ih => exact bind h fun _ => bind ih fun _ => pure _

end Raises

end Reader

end OneBit
