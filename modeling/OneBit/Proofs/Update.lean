import OneBit.Proofs.Buffer
import OneBit.Proofs.Step

/-!
# Steps as single updates

An operator reads the tensors its node names and then writes one of them. Each of its steps is one
decision made on those tensors, an error or the new output, carried out at once:

* `Arena.commit` : carries out a decision, so that an error leaves the arena alone;
* `Node.onUnary`, `Node.onTernary` : the decision of a node from a function of its tensors;
* `Tensor.Continues` : what a tensor keeps through every write.
-/

namespace OneBit

variable {α : Type}

/-- The tensor to put at an index, or why there is none. -/
abbrev Update := Except TensorError (Nat × Tensor)

namespace Arena

variable {arena : Arena} {i j : Nat} {s t : Tensor}

/-! ## Reading -/

/-- The tensor at an index. -/
def tensor (arena : Arena) (i : Nat) : Except TensorError Tensor :=
  match arena[i]? with
  | some t => .ok t
  | none => .error (.tensorIndex i)

/-- Two different tensors. -/
def pair (arena : Arena) (input output : Nat) : Except TensorError (Tensor × Tensor) := do
  let source ← arena.tensor input
  let target ← arena.tensor output
  if input = output then throw (.aliasedTensor output)
  return (source, target)

theorem tensor_eq_ok_iff : arena.tensor i = .ok t ↔ arena[i]? = some t := by
  unfold tensor
  cases arena[i]? <;> simp

theorem pair_eq_ok_iff :
    arena.pair i j = .ok (s, t) ↔ arena[i]? = some s ∧ arena[j]? = some t ∧ i ≠ j := by
  simp only [pair, bind_eq_ok_iff, guard_eq_ok_iff, tensor_eq_ok_iff, pure_eq_ok, Except.ok.injEq,
    Prod.mk.injEq]
  constructor
  · rintro ⟨_, hs, _, ht, hne, rfl, rfl⟩
    exact ⟨hs, ht, hne⟩
  · rintro ⟨hs, ht, hne⟩
    exact ⟨s, hs, t, ht, hne, rfl, rfl⟩

theorem apart_eq_pair (arena : Arena) (i j : Nat) : arena.apart i j = arena.pair i j := by
  have outside {k : Nat} (h : arena.length ≤ k) : arena.tensor k = .error (.tensorIndex k) := by
    rw [tensor, List.getElem?_eq_none h]
  have inside {k : Nat} (h : k < arena.length) : arena.tensor k = .ok arena[k] :=
    tensor_eq_ok_iff.2 (List.getElem?_eq_getElem h)
  rw [pair]
  by_cases hi : arena.length ≤ i
  · rw [apart, if_pos hi, outside hi]
    rfl
  rw [inside (Nat.not_le.1 hi)]
  by_cases hj : arena.length ≤ j
  · rw [apart, if_neg hi, if_pos hj, outside hj]
    rfl
  rw [inside (Nat.not_le.1 hj)]
  by_cases hij : i = j
  · rw [apart, if_neg hi, if_neg hj, if_pos hij]
    simp only [ok_bind, if_pos hij]
    rfl
  · rw [apart_eq_ok (List.getElem?_eq_getElem (Nat.not_le.1 hi))
      (List.getElem?_eq_getElem (Nat.not_le.1 hj)) hij]
    simp only [ok_bind, if_neg hij]
    rfl

/-! ## Carrying out a decision -/

/-- Carries out an update. -/
def commit (arena : Arena) : Update → Except TensorError Unit × Arena
  | .ok (target, t) => (.ok (), arena.set target t)
  | .error e => (.error e, arena)

/-- Carries out what was decided for the tensor at an index. -/
def put (arena : Arena) (target : Nat) (decision : Except TensorError Tensor) :
    Except TensorError Unit × Arena :=
  arena.commit (do return (target, ← decision))

theorem set_of_getElem? (h : arena[i]? = some t) : arena.set i t = arena := by
  obtain ⟨hi, rfl⟩ := List.getElem?_eq_some_iff.1 h
  exact List.set_getElem_self hi

end Arena

namespace Step

variable {arena : Arena} {target : Nat}

theorem runOn_tensor_eq (i : Nat) (arena : Arena) :
    runOn (tensor i) arena = (arena.tensor i, arena) := by
  rw [tensor, runOn_bind_ok (runOn_get arena), Arena.tensor]
  cases arena[i]? <;> rfl

theorem runOn_inputOutput_eq (i j : Nat) (arena : Arena) :
    runOn (inputOutput i j) arena = (arena.pair i j, arena) := by
  rw [inputOutput, runOn_bind_ok (runOn_get arena), runOn_lift, Arena.apart_eq_pair]

/-- A step that begins by reading goes on as its decision does. -/
theorem runOn_bind_eq_commit {read : Step α} {x : Except TensorError α} {f : α → Step Unit}
    {g : α → Update} (hread : runOn read arena = (x, arena))
    (h : ∀ a, x = .ok a → runOn (f a) arena = arena.commit (g a)) :
    runOn (read >>= f) arena = arena.commit (x >>= g) := by
  rw [runOn_bind, hread]
  cases x with
  | error e => rfl
  | ok a => exact h a rfl

theorem runOn_check_eq_put {x : Except TensorError α} {f : α → Step Unit}
    {g : α → Except TensorError Tensor}
    (h : ∀ a, x = .ok a → runOn (f a) arena = arena.put target (g a)) :
    runOn (liftM x >>= f) arena = arena.put target (x >>= g) := by
  rw [Arena.put, bind_assoc]
  exact runOn_bind_eq_commit (runOn_lift x arena) h

theorem runOn_guard_eq_put {p : Prop} [Decidable p] {e : TensorError} {f : Unit → Step Unit}
    {step : Step Unit} {g : Unit → Except TensorError Tensor} {x : Except TensorError Tensor}
    (h : ¬p → runOn step arena = arena.put target x) :
    runOn (if p then throw e >>= f else step) arena =
      arena.put target (if p then throw e >>= g else x) := by
  by_cases hp : p
  · rw [if_pos hp, if_pos hp, runOn_bind, runOn_throw]
    rfl
  · rw [if_neg hp, if_neg hp, h hp]

/-- Filling the buffer of a tensor is a single update. -/
theorem runOn_fillBuffer_eq_put {call : BufferM α Unit} {buffer : List α}
    {tensorOf : List α → Tensor} (h : call.AllOrNothing buffer)
    (hold : arena[target]? = some (tensorOf buffer)) :
    runOn (fillBuffer call buffer fun new => replace target (tensorOf new)) arena =
      arena.put target (do return tensorOf (← call.filled buffer)) := by
  rcases h with run | ⟨run, -⟩
  · -- The buffer is written back also after a failure, but then it is the one that was there.
    rw [fillBuffer, BufferM.filled, BufferM.on_eq_runOn, run]
    simp only [runOn_bind, runOn_replace, runOn_lift, Arena.set_of_getElem? hold]
    rfl
  · rw [runOn_fillBuffer run, BufferM.filled, BufferM.on_eq_runOn, run]
    rfl

end Step

/-! ## What a write keeps -/

theorem TensorData.overwrite?_eq_some {old new data : TensorData}
    (h : old.overwrite? new = some data) :
    data.dtype = old.dtype ∧ data.length = old.length := by
  cases old <;> cases new <;> simp only [overwrite?, Option.some.injEq, reduceCtorEq] at h <;>
    subst h <;> exact ⟨rfl, length_overwrite _ _⟩

instance (t : Tensor) : Decidable t.WellFormed :=
  inferInstanceAs (Decidable (t.data.length = t.shape.flatSize))

/-- The type, and as many elements as 64 bits count for the shape. -/
structure Tensor.Continues (old new : Tensor) : Prop where
  dtype : new.dtype = old.dtype
  wellFormed : old.WellFormed → new.WellFormed

namespace Tensor.Continues

variable {a b c : Tensor}

theorem refl (t : Tensor) : t.Continues t := ⟨rfl, id⟩

theorem trans (hab : a.Continues b) (hbc : b.Continues c) : a.Continues c :=
  ⟨hbc.dtype.trans hab.dtype, hbc.wellFormed ∘ hab.wellFormed⟩

theorem resize (t : Tensor) (shape : Shape) : t.Continues (t.resize shape) :=
  ⟨dtype_resize t shape, fun _ => wellFormed_resize t shape⟩

/-- The way memory is planned and the parameters do not matter. -/
theorem of_eq {old new : Tensor} (hshape : new.shape = old.shape) (hdata : new.data = old.data) :
    old.Continues new where
  dtype := by rw [Tensor.dtype, hdata, Tensor.dtype]
  wellFormed wf := by rw [WellFormed, hdata, hshape, wf]

theorem data {t : Tensor} {data : TensorData} (hdtype : data.dtype = t.dtype)
    (hlength : data.length = t.data.length) : t.Continues { t with data } :=
  ⟨hdtype, hlength.trans⟩

theorem write {t new : Tensor} {values : TensorData} (h : t.write values = .ok new) :
    t.Continues new := by
  unfold Tensor.write at h
  cases hover : t.data.overwrite? values with
  | none => simp [hover] at h
  | some new =>
    simp only [hover, Except.ok.injEq] at h
    obtain ⟨hdtype, hlength⟩ := TensorData.overwrite?_eq_some hover
    exact h ▸ data hdtype hlength

theorem fill {t new : Tensor} {values : TensorData} (h : t.fill values = .ok new) :
    t.Continues new := by
  unfold Tensor.fill at h
  by_cases hdtype : t.dtype = values.dtype <;> by_cases hlength : t.size = values.length <;>
    simp only [hdtype, hlength, if_true, if_false, Except.ok.injEq, reduceCtorEq] at h
  exact h ▸ data hdtype.symm hlength.symm

/-- A tensor around a buffer that was filled in place. -/
theorem filled {call : BufferM α Unit} {buffer : List α} {old new : Tensor}
    {tensorOf : List α → Tensor} (hcall : call.AllOrNothing buffer)
    (h : (do return tensorOf (← call.filled buffer)) = Except.ok new)
    (hlength : ∀ {b : List α}, b.length = buffer.length → old.Continues (tensorOf b)) :
    old.Continues new := by
  obtain ⟨b, hb, hnew⟩ := bind_eq_ok_iff.1 h
  cases hnew
  exact hlength (hcall.length_filled hb)

end Tensor.Continues

/-! ## The decision of a node -/

/-- A node of three inputs and one output, and the tensors it names in an arena. They need not be
different. -/
structure Node.Gathers (node : Node) (arena : Arena) (target : Nat) (a b c output : Tensor) :
    Prop where
  inputs : node.inputs.map (arena[·]?) = [some a, some b, some c]
  outputs : node.outputs = [target]
  output_at : arena[target]? = some output

namespace Node.Gathers

variable {node : Node} {arena : Arena} {target target' : Nat}
  {a b c output a' b' c' output' t : Tensor}

/-- A node names its tensors. -/
theorem unique (h : node.Gathers arena target a b c output)
    (h' : node.Gathers arena target' a' b' c' output') :
    target' = target ∧ a' = a ∧ b' = b ∧ c' = c ∧ output' = output := by
  obtain rfl : target = target' := by simpa using h.outputs.symm.trans h'.outputs
  obtain ⟨rfl, rfl, rfl⟩ : a = a' ∧ b = b' ∧ c = c' := by
    simpa using h.inputs.symm.trans h'.inputs
  exact ⟨rfl, rfl, rfl, rfl, Option.some.inj (h'.output_at.symm.trans h.output_at)⟩

/-- Each of the inputs is in the arena. -/
theorem mem (h : node.Gathers arena target a b c output) : a ∈ arena ∧ b ∈ arena ∧ c ∈ arena := by
  have hmem {t : Tensor} (ht : some t ∈ node.inputs.map (arena[·]?)) : t ∈ arena := by
    obtain ⟨i, -, hi⟩ := List.mem_map.1 ht
    exact List.mem_of_getElem? hi
  exact ⟨hmem (by simp [h.inputs]), hmem (by simp [h.inputs]), hmem (by simp [h.inputs])⟩

/-- Once the output was exchanged, each input is what it was or the new output. -/
theorem of_set (h : node.Gathers arena target a b c output)
    (h' : node.Gathers (arena.set target t) target' a' b' c' output') :
    (a' = a ∨ a = output ∧ a' = t) ∧ (b' = b ∨ b = output ∧ b' = t) ∧
      (c' = c ∨ c = output ∧ c' = t) := by
  have hset {i : Nat} {u u' : Tensor} (hu : arena[i]? = some u)
      (hu' : (arena.set target t)[i]? = some u') : u' = u ∨ u = output ∧ u' = t := by
    by_cases hi : target = i
    · subst hi
      have hlt := (List.getElem?_eq_some_iff.1 hu).1
      rw [List.getElem?_set_self hlt] at hu'
      exact .inr ⟨Option.some.inj (hu.symm.trans h.output_at), (Option.some.inj hu').symm⟩
    · rw [List.getElem?_set_ne hi] at hu'
      exact .inl (Option.some.inj (hu'.symm.trans hu))
  obtain ⟨first, _, hfirst, ha, hrest⟩ := List.map_eq_cons_iff.1 h.inputs
  obtain ⟨second, _, rfl, hb, hrest⟩ := List.map_eq_cons_iff.1 hrest
  obtain ⟨third, _, rfl, hc, hrest⟩ := List.map_eq_cons_iff.1 hrest
  obtain rfl := List.map_eq_nil_iff.1 hrest
  have hinputs := h'.inputs
  simp only [hfirst, List.map_cons, List.map_nil, List.cons.injEq, and_true] at hinputs
  exact ⟨hset ha hinputs.1, hset hb hinputs.2.1, hset hc hinputs.2.2⟩

end Node.Gathers

namespace Node

variable {node : Node} {arena : Arena} {target : Nat} {t : Tensor}

/-- What a node of one input and one output decides, by a function of the two tensors. -/
def onUnary (node : Node) (f : Tensor → Tensor → Except TensorError Tensor) (arena : Arena) :
    Update := do
  let (source, target) ← node.unary
  let (input, output) ← arena.pair source target
  return (target, ← f input output)

/-- What a node of three inputs and one output decides, by a function of the four tensors. -/
def onTernary (node : Node)
    (f : Tensor → Tensor → Tensor → Tensor → Except TensorError Tensor) (arena : Arena) :
    Update := do
  let ((first, second, third), target) ← node.ternary
  let a ← arena.tensor first
  let b ← arena.tensor second
  let c ← arena.tensor third
  let output ← arena.tensor target
  return (target, ← f a b c output)

theorem unary_eq_ok_iff {source : Nat} :
    node.unary = .ok (source, target) ↔ node.inputs = [source] ∧ node.outputs = [target] := by
  rw [unary_eq]
  split <;> simp_all

theorem ternary_eq_ok_iff {first second third : Nat} :
    node.ternary = .ok ((first, second, third), target) ↔
      node.inputs = [first, second, third] ∧ node.outputs = [target] := by
  rw [ternary_eq]
  split <;> simp_all [and_assoc]

theorem onUnary_eq_ok_iff {f : Tensor → Tensor → Except TensorError Tensor} :
    node.onUnary f arena = .ok (target, t) ↔
      ∃ source input output, node.Connects arena source target input output ∧
        f input output = .ok t := by
  simp only [onUnary, bind_eq_ok_iff, Prod.exists, unary_eq_ok_iff, Arena.pair_eq_ok_iff, pure_eq_ok,
    Except.ok.injEq, Prod.mk.injEq]
  constructor
  · rintro ⟨source, _, ⟨hin, hout⟩, input, output, ⟨hs, ht, hne⟩, _, hf, rfl, rfl⟩
    exact ⟨source, input, output, ⟨hin, hout, hs, ht, hne⟩, hf⟩
  · rintro ⟨source, input, output, h, hf⟩
    exact ⟨source, target, ⟨h.inputs, h.outputs⟩, input, output, ⟨h.input_at, h.output_at, h.ne⟩,
      t, hf, rfl, rfl⟩

theorem onUnary_eq_error {f : Tensor → Tensor → Except TensorError Tensor} {source : Nat}
    {input output : Tensor} {e : TensorError} (h : node.Connects arena source target input output)
    (hf : f input output = .error e) : node.onUnary f arena = .error e := by
  have hpair : arena.pair source target = .ok (input, output) :=
    Arena.pair_eq_ok_iff.2 ⟨h.input_at, h.output_at, h.ne⟩
  simp only [onUnary, h.unary, hpair, hf, ok_bind, error_bind]

/-- The tensors that a node of three inputs and one output names. -/
def gather (node : Node) (arena : Arena) :
    Except TensorError (Nat × Tensor × Tensor × Tensor × Tensor) := do
  let ((first, second, third), target) ← node.ternary
  let a ← arena.tensor first
  let b ← arena.tensor second
  let c ← arena.tensor third
  let output ← arena.tensor target
  return (target, a, b, c, output)

theorem onTernary_eq_gather (node : Node)
    (f : Tensor → Tensor → Tensor → Tensor → Except TensorError Tensor) (arena : Arena) :
    node.onTernary f arena = (do
      let (target, a, b, c, output) ← node.gather arena
      return (target, ← f a b c output)) := by
  simp only [onTernary, gather, bind_assoc, pure_bind]

theorem gather_eq_ok_iff {a b c output : Tensor} :
    node.gather arena = .ok (target, a, b, c, output) ↔ node.Gathers arena target a b c output := by
  simp only [gather, bind_eq_ok_iff, Prod.exists, ternary_eq_ok_iff, Arena.tensor_eq_ok_iff,
    pure_eq_ok, Except.ok.injEq, Prod.mk.injEq]
  constructor
  · rintro ⟨_, _, _, _, ⟨hin, hout⟩, a, ha, b, hb, c, hc, output, ho, rfl, rfl, rfl, rfl, rfl⟩
    exact ⟨by simp [hin, ha, hb, hc], hout, ho⟩
  · rintro ⟨hin, hout, ho⟩
    obtain ⟨first, _, hfirst, ha, hin⟩ := List.map_eq_cons_iff.1 hin
    obtain ⟨second, _, hsecond, hb, hin⟩ := List.map_eq_cons_iff.1 hin
    obtain ⟨third, _, hthird, hc, hin⟩ := List.map_eq_cons_iff.1 hin
    have hinputs : node.inputs = [first, second, third] := by
      rw [hfirst, hsecond, hthird, List.map_eq_nil_iff.1 hin]
    exact ⟨first, second, third, target, ⟨hinputs, hout⟩, a, ha, b, hb, c, hc, output, ho, rfl, rfl,
      rfl, rfl, rfl⟩

theorem onTernary_eq_ok_iff {f : Tensor → Tensor → Tensor → Tensor → Except TensorError Tensor} :
    node.onTernary f arena = .ok (target, t) ↔
      ∃ a b c output, node.Gathers arena target a b c output ∧ f a b c output = .ok t := by
  simp only [onTernary_eq_gather, bind_eq_ok_iff, Prod.exists, gather_eq_ok_iff, pure_eq_ok,
    Except.ok.injEq, Prod.mk.injEq]
  constructor
  · rintro ⟨_, a, b, c, output, hgathers, _, hf, rfl, rfl⟩
    exact ⟨a, b, c, output, hgathers, hf⟩
  · rintro ⟨a, b, c, output, hgathers, hf⟩
    exact ⟨target, a, b, c, output, hgathers, t, hf, rfl, rfl⟩

end Node

/-- A tensor for the one output of a node, which keeps what the tensor there has. -/
structure Node.Writes (node : Node) (arena : Arena) (target : Nat) (new : Tensor) : Prop where
  outputs : node.outputs = [target]
  continues : ∃ old, arena[target]? = some old ∧ old.Continues new

namespace Node.Writes

variable {node : Node} {arena : Arena} {target : Nat} {t new : Tensor}

theorem of_onUnary {f : Tensor → Tensor → Except TensorError Tensor}
    (hf : ∀ {input output new}, f input output = .ok new → output.Continues new)
    (h : node.onUnary f arena = .ok (target, new)) : node.Writes arena target new := by
  obtain ⟨source, input, output, hconnects, hnew⟩ := onUnary_eq_ok_iff.1 h
  exact ⟨hconnects.outputs, output, hconnects.output_at, hf hnew⟩

theorem of_onTernary {f : Tensor → Tensor → Tensor → Tensor → Except TensorError Tensor}
    (hf : ∀ {a b c output new}, f a b c output = .ok new → output.Continues new)
    (h : node.onTernary f arena = .ok (target, new)) : node.Writes arena target new := by
  obtain ⟨a, b, c, output, hgathers, hnew⟩ := onTernary_eq_ok_iff.1 h
  exact ⟨hgathers.outputs, output, hgathers.output_at, hf hnew⟩

/-- Two writes in a row come to one. -/
theorem set {target' : Nat} (h : node.Writes arena target t)
    (h' : node.Writes (arena.set target t) target' new) :
    target' = target ∧ node.Writes arena target new := by
  obtain ⟨houtputs, old, hold, hcontinues⟩ := h
  obtain ⟨houtputs', old', hold', hcontinues'⟩ := h'
  obtain rfl : target = target' := by simpa using houtputs.symm.trans houtputs'
  obtain ⟨hlt, -⟩ := List.getElem?_eq_some_iff.1 hold
  rw [List.getElem?_set_self hlt, Option.some.injEq] at hold'
  exact ⟨rfl, houtputs, old, hold, hcontinues.trans (hold' ▸ hcontinues')⟩

end Node.Writes

end OneBit
