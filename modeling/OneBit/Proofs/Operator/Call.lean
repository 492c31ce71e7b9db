import OneBit.Proofs.Operator.Dequantize
import OneBit.Proofs.Operator.Quantize
import OneBit.Proofs.Operator.UnsortedSegmentProd

/-!
# Calls of operators

* `Operator.prepared`, `Operator.evaluated` : what the two steps of an operator decide;
* `Operator.call` : the three ways to call an operator on a node;
* `Operator.runOn_call_cases` : whatever comes of a call, it leaves the arena as it was or with one
  tensor changed, the one at the output of the node.
-/

namespace OneBit

open Ieee

namespace Operator

/-! ## The two steps -/

/-- What `prepare` decides. -/
def prepared (op : Operator) (node : Node) (arena : Arena) : Update :=
  match op with
  | quantize layout _ => node.onUnary (Quantize.prepared layout) arena
  | dequantize layout => node.onUnary (Dequantize.prepared layout) arena
  | unsortedSegmentProd => node.onTernary UnsortedSegmentProd.prepared arena

/-- What `eval` decides. -/
def evaluated (op : Operator) (node : Node) (arena : Arena) : Update :=
  match op with
  | quantize layout threshold => node.onUnary (Quantize.evaluated layout threshold) arena
  | dequantize layout => node.onUnary (Dequantize.evaluated layout) arena
  | unsortedSegmentProd => node.onTernary UnsortedSegmentProd.evaluated arena

variable {op : Operator} {node : Node} {arena after : Arena} {target : Nat} {new : Tensor}

theorem runOn_prepare (op : Operator) (node : Node) (arena : Arena) :
    runOn (op.prepare node) arena = arena.commit (op.prepared node arena) := by
  cases op with
  | quantize layout threshold => exact Quantize.runOn_prepare_eq layout node arena
  | dequantize layout => exact Dequantize.runOn_prepare_eq layout node arena
  | unsortedSegmentProd => exact UnsortedSegmentProd.runOn_prepare_eq node arena

theorem runOn_eval (op : Operator) (node : Node) (arena : Arena) :
    runOn (op.eval node) arena = arena.commit (op.evaluated node arena) := by
  cases op with
  | quantize layout threshold => exact Quantize.runOn_eval_eq layout threshold node arena
  | dequantize layout => exact Dequantize.runOn_eval_eq layout node arena
  | unsortedSegmentProd => exact UnsortedSegmentProd.runOn_eval_eq node arena

theorem runOn_invoke (op : Operator) (node : Node) (arena : Arena) :
    runOn (op.invoke node) arena =
      match op.prepared node arena with
      | .ok (target, t) => runOn (op.eval node) (arena.set target t)
      | .error e => (.error e, arena) := by
  rw [invoke, runOn_bind, runOn_prepare]
  rcases op.prepared node arena with e | ⟨target, t⟩ <;> rfl

theorem writes_of_prepared (h : op.prepared node arena = .ok (target, new)) :
    node.Writes arena target new := by
  cases op with
  | quantize layout threshold =>
    exact .of_onUnary (f := Quantize.prepared layout) Quantize.continues_of_prepared h
  | dequantize layout =>
    exact .of_onUnary (f := Dequantize.prepared layout)
      (fun h => Dequantize.eq_of_prepared h ▸ .refl _) h
  | unsortedSegmentProd =>
    exact .of_onTernary (f := UnsortedSegmentProd.prepared)
      UnsortedSegmentProd.continues_of_prepared h

theorem writes_of_evaluated (h : op.evaluated node arena = .ok (target, new)) :
    node.Writes arena target new := by
  cases op with
  | quantize layout threshold =>
    exact .of_onUnary (f := Quantize.evaluated layout threshold) Quantize.continues_of_evaluated h
  | dequantize layout =>
    exact .of_onUnary (f := Dequantize.evaluated layout) Dequantize.continues_of_evaluated h
  | unsortedSegmentProd =>
    exact .of_onTernary (f := UnsortedSegmentProd.evaluated)
      UnsortedSegmentProd.continues_of_evaluated h

/-- An `invoke` succeeds when both of its steps do. -/
theorem runOn_invoke_eq_ok_iff : runOn (op.invoke node) arena = (.ok (), after) ↔
    ∃ target t new, op.prepared node arena = .ok (target, t) ∧
      op.evaluated node (arena.set target t) = .ok (target, new) ∧ after = arena.set target new := by
  rw [runOn_invoke]
  constructor
  · intro h
    cases hprepared : op.prepared node arena with
    | error e => simp [hprepared] at h
    | ok update =>
      obtain ⟨target, t⟩ := update
      simp only [hprepared, runOn_eval] at h
      cases hevaluated : op.evaluated node (arena.set target t) with
      | error e => simp [hevaluated, Arena.commit] at h
      | ok update =>
        obtain ⟨target', new⟩ := update
        obtain ⟨rfl, -⟩ := (writes_of_prepared hprepared).set (writes_of_evaluated hevaluated)
        simp only [hevaluated, Arena.commit, List.set_set, Prod.mk.injEq, true_and] at h
        exact ⟨_, t, new, rfl, hevaluated, h.symm⟩
  · rintro ⟨target, t, new, hprepared, hevaluated, rfl⟩
    simp [hprepared, runOn_eval, hevaluated, Arena.commit]

end Operator

/-! ## The three calls -/

/-- The ways to call an operator. -/
inductive Call
  | prepare
  | eval
  | invoke
deriving DecidableEq, Repr

namespace Operator

variable {op : Operator} {node : Node} {arena : Arena}

def call (op : Operator) : Call → Node → Step Unit
  | .prepare => op.prepare
  | .eval => op.eval
  | .invoke => op.invoke

/-- A call leaves the arena as it was or with one tensor changed. -/
theorem runOn_call_cases (op : Operator) (call : Call) (node : Node) (arena : Arena) :
    (runOn (op.call call node) arena).2 = arena ∨
      ∃ target new, node.Writes arena target new ∧
        (runOn (op.call call node) arena).2 = arena.set target new := by
  have commit_cases {arena : Arena} {x : Update}
      (h : ∀ {target new}, x = .ok (target, new) → node.Writes arena target new) :
      (arena.commit x).2 = arena ∨ ∃ target new, node.Writes arena target new ∧
        (arena.commit x).2 = arena.set target new := by
    rcases x with e | ⟨target, new⟩
    · exact .inl rfl
    · exact .inr ⟨target, new, h rfl, rfl⟩
  cases call with
  | prepare =>
    rw [Operator.call, runOn_prepare]
    exact commit_cases writes_of_prepared
  | eval =>
    rw [Operator.call, runOn_eval]
    exact commit_cases writes_of_evaluated
  | invoke =>
    rw [Operator.call, runOn_invoke]
    cases hprepared : op.prepared node arena with
    | error e => exact .inl rfl
    | ok update =>
      obtain ⟨target, t⟩ := update
      have hwrites := writes_of_prepared hprepared
      simp only [runOn_eval]
      -- The second step finds what the first one wrote, and goes on from there.
      rcases commit_cases (x := op.evaluated node (arena.set target t)) writes_of_evaluated with
        h | ⟨target', new, hnew, h⟩
      · exact .inr ⟨target, t, hwrites, h⟩
      · obtain ⟨rfl, hwrites⟩ := hwrites.set hnew
        exact .inr ⟨target', new, hwrites, h.trans (List.set_set ..)⟩

end Operator

end OneBit
