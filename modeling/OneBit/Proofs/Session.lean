import OneBit.Proofs.Operator.Call

/-!
# What holds of an arena at all times

* `Tensor.Created` : how tensors come about; `Edit` : what is done to one of them;
* `Action` : what is done to an arena, calls of operators included;
* `Arena.Continues.run` : whatever is done and whether it succeeds, the tensors of an arena stay, each
  with its type and with as many elements as 64 bits count for its shape;
* `Arena.run_of_created` : so the data of tensors that were created is as long as their dimensions
  multiply to.
-/

namespace OneBit

/-- A tensor of zeros, or one of given elements. -/
inductive Tensor.Created : Tensor → Prop
  | zeros (dtype : DType) (shape : Shape) : Created (Tensor.zeros dtype shape)
  | ofData {shape : Shape} {data : TensorData} {t : Tensor} (h : Tensor.ofData shape data = .ok t) :
      Created t

theorem Tensor.Created.wellFormed {t : Tensor} (h : t.Created) : t.WellFormed := by
  cases h with
  | zeros dtype shape => exact wellFormed_zeros dtype shape
  | ofData h =>
    rename_i shape data
    unfold Tensor.ofData at h
    split at h
    · rename_i hlength
      cases h
      exact hlength
    · cases h

/-! ## Edits of a tensor -/

/-- What is done to a tensor from outside the operators. -/
inductive Edit
  | resize (shape : Shape)
  | setDynamic
  | setAllocation (allocation : Allocation)
  | setQuantization (quantization : Option Quantization)
  /-- Writes elements in place; refused when they are of another type. -/
  | write (values : TensorData)
deriving DecidableEq, Repr

def Edit.apply (t : Tensor) : Edit → Except TensorError Tensor
  | resize shape => .ok (t.resize shape)
  | setDynamic => .ok t.setDynamic
  | setAllocation allocation => .ok { t with allocation }
  | setQuantization quantization => .ok { t with quantization }
  | write values => t.write values

theorem Edit.continues_of_apply {edit : Edit} {t new : Tensor} (h : edit.apply t = .ok new) :
    t.Continues new := by
  cases edit with
  | resize shape =>
    cases h
    exact .resize t shape
  | setDynamic =>
    cases h
    exact .of_eq rfl rfl
  | setAllocation allocation =>
    cases h
    exact .of_eq rfl rfl
  | setQuantization quantization =>
    cases h
    exact .of_eq rfl rfl
  | write values => exact .write h

/-- Any elements of the right type and number can be written. -/
theorem Edit.apply_write {t : Tensor} {values : TensorData} (hdtype : values.dtype = t.dtype)
    (hlength : values.length = t.data.length) :
    (write values).apply t = .ok { t with data := values } := by
  obtain ⟨shape, data, quantization, allocation⟩ := t
  cases values <;> cases data <;> cases hdtype <;>
    simp only [apply, Tensor.write, TensorData.overwrite?, overwrite_eq_new hlength.symm]

/-! ## Actions on an arena -/

inductive Action
  | edit (i : Nat) (change : Edit)
  | call (op : Operator) (way : Call) (node : Node)
deriving DecidableEq, Repr

namespace Action

def step : Action → Step Unit
  | edit i change => do
    let t ← Step.tensor i
    Step.replace i (← change.apply t)
  | call op way node => op.call way node

/-- The arena after an action, which may have failed. -/
def after (arena : Arena) (action : Action) : Arena :=
  (runOn action.step arena).2

theorem runOn_edit (i : Nat) (change : Edit) (arena : Arena) :
    runOn (edit i change).step arena =
      arena.commit (do let t ← arena.tensor i; return (i, ← change.apply t)) :=
  Step.runOn_bind_eq_commit (Step.runOn_tensor_eq i arena) fun _ _ =>
    Step.runOn_bind_eq_commit (runOn_lift _ _) fun _ _ => rfl

end Action

namespace Arena

/-- The arena that a sequence of actions leaves. -/
def run (arena : Arena) (actions : List Action) : Arena :=
  actions.foldl Action.after arena

/-! ## What every action keeps -/

/-- The same tensors, each continued. -/
structure Continues (before after : Arena) : Prop where
  length : after.length = before.length
  tensors : ∀ {i : Nat} {old new : Tensor}, before[i]? = some old → after[i]? = some new →
    old.Continues new

namespace Continues

variable {a b c : Arena}

theorem refl (arena : Arena) : arena.Continues arena where
  length := rfl
  tensors hold hnew := by
    cases Option.some.inj (hold.symm.trans hnew)
    exact .refl _

theorem trans (hab : a.Continues b) (hbc : b.Continues c) : a.Continues c where
  length := hbc.length.trans hab.length
  tensors {i old new} hold hnew := by
    have hi : i < b.length := by
      rw [hab.length]
      exact (List.getElem?_eq_some_iff.1 hold).1
    have hmid := List.getElem?_eq_getElem hi
    exact (hab.tensors hold hmid).trans (hbc.tensors hmid hnew)

theorem set {arena : Arena} {target : Nat} {old new : Tensor} (hold : arena[target]? = some old)
    (h : old.Continues new) : arena.Continues (arena.set target new) where
  length := List.length_set
  tensors {i before after} hbefore hafter := by
    by_cases hi : target = i
    · subst hi
      rw [List.getElem?_set_self (List.getElem?_eq_some_iff.1 hold).1, Option.some.injEq] at hafter
      cases Option.some.inj (hold.symm.trans hbefore)
      exact hafter ▸ h
    · rw [List.getElem?_set_ne hi] at hafter
      cases Option.some.inj (hbefore.symm.trans hafter)
      exact .refl _

theorem after (arena : Arena) (action : Action) : arena.Continues (action.after arena) := by
  cases action with
  | edit i change =>
    rw [Action.after, Action.runOn_edit]
    cases htensor : arena.tensor i with
    | error e => exact .refl arena
    | ok t =>
      simp only [ok_bind]
      cases hnew : change.apply t with
      | error e => exact .refl arena
      | ok new => exact set (tensor_eq_ok_iff.1 htensor) (Edit.continues_of_apply hnew)
  | call op way node =>
    rcases Operator.runOn_call_cases op way node arena with hsame | ⟨target, new, hwrites, hset⟩
    · rw [Action.after, Action.step, hsame]
      exact .refl arena
    · obtain ⟨old, hold, hcontinues⟩ := hwrites.continues
      rw [Action.after, Action.step, hset]
      exact set hold hcontinues

/-- Whatever is done, the tensors stay. -/
theorem run (arena : Arena) (actions : List Action) : arena.Continues (arena.run actions) := by
  induction actions generalizing arena with
  | nil => exact .refl arena
  | cons action actions ih => exact (after arena action).trans (ih (action.after arena))

theorem map_dtype (h : a.Continues b) : b.map Tensor.dtype = a.map Tensor.dtype := by
  refine List.ext_getElem (by simp [h.length]) fun i hb ha => ?_
  rw [List.length_map] at ha hb
  rw [List.getElem_map, List.getElem_map]
  exact (h.tensors (List.getElem?_eq_getElem ha) (List.getElem?_eq_getElem hb)).dtype

theorem wellFormed (h : a.Continues b) (ha : ∀ t ∈ a, t.WellFormed) : ∀ t ∈ b, t.WellFormed := by
  intro t ht
  obtain ⟨i, hi, rfl⟩ := List.getElem_of_mem ht
  have hold := List.getElem?_eq_getElem (h.length ▸ hi)
  exact (h.tensors hold (List.getElem?_eq_getElem hi)).wellFormed (ha _ (List.getElem_mem _))

end Continues

/-- Of an arena of created tensors, after any actions at all: each tensor has as many elements as the
product of its dimensions, taken in 64 bits, and the type it was created with, and there are as many
tensors as before. Where the product is a 64-bit size, it is the number of elements; a program that
stops at an overflow has no other tensors. -/
theorem run_of_created {arena : Arena} (h : ∀ t ∈ arena, t.Created) (actions : List Action) :
    (∀ t ∈ arena.run actions, t.data.length = t.shape.elementCount % sizeLimit ∧
      (t.shape.elementCount < sizeLimit → t.data.length = t.shape.elementCount)) ∧
      (arena.run actions).map Tensor.dtype = arena.map Tensor.dtype ∧
      (arena.run actions).length = arena.length := by
  have hcontinues := Continues.run arena actions
  refine ⟨fun t ht => ?_, hcontinues.map_dtype, hcontinues.length⟩
  have wf : t.WellFormed := hcontinues.wellFormed (fun t ht => (h t ht).wellFormed) t ht
  exact ⟨wf.trans t.shape.flatSize_eq_mod, Tensor.length_data wf⟩

/-- Packs two elements, fails to unpack them into their own words, and goes on. -/
def sampleActions : List Action :=
  [.call (.quantize .full Ieee.Binary32.zero) .invoke ⟨[0], [1]⟩,
    .call (.dequantize .full) .eval ⟨[1], [1]⟩, .edit 0 (.resize [5]), .edit 1 .setDynamic,
    .edit 1 (.write (.int32 [7, 8, 9]))]

theorem run_of_created_sample :
    let arena : Arena := [.zeros .bool [1, 2], .zeros .int32 [1, 1]]
    (∀ t ∈ arena, t.Created) ∧
      (∀ t ∈ arena.run sampleActions, t.data.length = t.shape.elementCount % sizeLimit ∧
        (t.shape.elementCount < sizeLimit → t.data.length = t.shape.elementCount)) ∧
      (arena.run sampleActions).map Tensor.dtype = [.bool, .int32] ∧
      (arena.run sampleActions).length = 2 := by
  intro arena
  have hcreated : ∀ t ∈ arena, t.Created := by
    intro t ht
    rcases List.mem_pair.1 ht with rfl | rfl
    · exact .zeros .bool [1, 2]
    · exact .zeros .int32 [1, 1]
  exact ⟨hcreated, run_of_created hcreated sampleActions⟩

/-- Dimensions that multiply to 2⁶⁴ count no element. -/
example : (Tensor.zeros .bool [2 ^ 32, 2 ^ 32]).data.length = 0 := by decide

end Arena

end OneBit
