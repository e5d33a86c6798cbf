import Mathlib.Data.List.Basic

/-!
# Query programs and their step semantics

A `Program` is the plan that both protocols compile their requests into: an ordered list of
steps, each a query guarded by an optional condition over the outcomes of earlier steps.
`connection/program.rs` and the engine that runs programs are not part of the sources, so the
condition language and the executor below are modelled from §4.1 of the specification:

* a step runs iff its condition holds over the results recorded so far (no condition means
  always);
* a run step records the engine's success or failure, a step that does not run is
  `skipped`, and a skipped step is neither `ok` nor `err` for later conditions.

The engine is left abstract: `outcome i` is its answer for the step at position `i`, so every
assignment of successes and failures to the steps is covered.
-/

namespace Sqld

/-- Modelled from the spec: `Cond` of `program.rs`, a boolean tree over the outcomes of the
steps at the given positions. -/
inductive Cond
  | ok (step : Nat)
  | err (step : Nat)
  | not (cond : Cond)
  | and (lhs rhs : Cond)
  | or (lhs rhs : Cond)
  deriving DecidableEq, Repr

/-- Modelled from the spec: a `Step` is a query with an optional guard. -/
structure Step (Q : Type) where
  cond : Option Cond
  query : Q
  deriving DecidableEq, Repr

/-- Modelled from the spec: `Program::new(steps)` wraps the steps, in order. -/
structure Program (Q : Type) where
  steps : List (Step Q)
  deriving DecidableEq, Repr

/-- What the executor records for one step. -/
inductive StepResult
  | skipped
  | ok
  | err
  deriving DecidableEq, Repr

variable {Q : Type}

/-- The record of a step that ran, from the engine's answer. -/
def StepResult.ofOutcome : Bool → StepResult
  | true => .ok
  | false => .err

@[simp] theorem StepResult.ofOutcome_ne_skipped (b : Bool) : StepResult.ofOutcome b ≠ .skipped := by
  cases b <;> decide

@[simp] theorem StepResult.ofOutcome_eq_ok (b : Bool) : StepResult.ofOutcome b = .ok ↔ b = true := by
  cases b <;> decide

/-- Modelled from the spec: a condition over the results recorded so far.  A position that
was skipped, or has not run yet, is neither `ok` nor `err`. -/
def Cond.eval (results : List StepResult) : Cond → Bool
  | .ok i => decide (results[i]? = some .ok)
  | .err i => decide (results[i]? = some .err)
  | .not c => !c.eval results
  | .and a b => a.eval results && b.eval results
  | .or a b => a.eval results || b.eval results

/-- The positions a condition reads. -/
def Cond.refs : Cond → List Nat
  | .ok i => [i]
  | .err i => [i]
  | .not c => c.refs
  | .and a b => a.refs ++ b.refs
  | .or a b => a.refs ++ b.refs

/-- A condition reads only its positions: two vectors that agree there give it the same
value. -/
theorem Cond.eval_congr {results results' : List StepResult} :
    ∀ c : Cond, (∀ j ∈ c.refs, results[j]? = results'[j]?) → c.eval results = c.eval results'
  | .ok i, h | .err i, h => by simp [Cond.eval, h i (by simp [Cond.refs])]
  | .not c, h => by simp only [Cond.eval, Cond.eval_congr c h]
  | .and a b, h | .or a b, h => by
    simp only [Cond.refs, List.mem_append] at h
    simp only [Cond.eval, Cond.eval_congr a fun j hj => h j (.inl hj),
      Cond.eval_congr b fun j hj => h j (.inr hj)]

/-- A step runs iff its condition holds; an absent condition means always. -/
def Step.enabled (step : Step Q) (results : List StepResult) : Bool :=
  step.cond.all (Cond.eval results)

/-- Modelled from the spec: the executor loop, which appends one result per step to the
outcome vector it carries. -/
def execSteps (outcome : Nat → Bool) : List StepResult → List (Step Q) → List StepResult
  | results, [] => results
  | results, step :: rest =>
      execSteps outcome
        (results ++ [if step.enabled results then .ofOutcome (outcome results.length)
          else .skipped]) rest

/-- Modelled from the spec: the results of running a program from its first step; these are
the step slots the result builder receives. -/
def Program.execute (pgm : Program Q) (outcome : Nat → Bool) : List StepResult :=
  execSteps outcome [] pgm.steps

@[simp] theorem execSteps_nil (outcome : Nat → Bool) (results : List StepResult) :
    execSteps outcome results ([] : List (Step Q)) = results := rfl

/-- Running two lists of steps one after the other is running their concatenation. -/
theorem execSteps_append (outcome : Nat → Bool) (results : List StepResult)
    (steps steps' : List (Step Q)) :
    execSteps outcome results (steps ++ steps') =
      execSteps outcome (execSteps outcome results steps) steps' := by
  induction steps generalizing results with
  | nil => rfl
  | cons step rest ih => exact ih _

/-- One result is recorded per step. -/
@[simp] theorem execSteps_length (outcome : Nat → Bool) (results : List StepResult)
    (steps : List (Step Q)) :
    (execSteps outcome results steps).length = results.length + steps.length := by
  induction steps generalizing results with
  | nil => rfl
  | cons step rest ih => simp [execSteps, ih]; omega

/-- Later steps never rewrite the results of earlier ones. -/
theorem execSteps_prefix (outcome : Nat → Bool) (results : List StepResult)
    (steps : List (Step Q)) : results <+: execSteps outcome results steps := by
  induction steps generalizing results with
  | nil => exact List.prefix_refl _
  | cons step rest ih => exact (List.prefix_append _ _).trans (ih _)

/-- The result of the step at position `k` of a run: its condition is read over the results
recorded before it. -/
theorem execSteps_getElem?_of_getElem? (outcome : Nat → Bool) (results : List StepResult)
    {steps : List (Step Q)} {k : Nat} {step : Step Q} (h : steps[k]? = some step) :
    (execSteps outcome results steps)[results.length + k]? =
      some (if step.enabled (execSteps outcome results (steps.take k))
        then .ofOutcome (outcome (results.length + k)) else .skipped) := by
  obtain ⟨hk, rfl⟩ := List.getElem?_eq_some_iff.1 h
  have hlen : (execSteps outcome results (steps.take k)).length = results.length + k := by
    simp only [execSteps_length, List.length_take]; omega
  obtain ⟨rest, hrest⟩ := execSteps_prefix outcome
    (execSteps outcome results (steps.take k) ++
      [if steps[k].enabled (execSteps outcome results (steps.take k))
        then .ofOutcome (outcome (execSteps outcome results (steps.take k)).length)
        else .skipped]) (steps.drop (k + 1))
  conv_lhs => rw [← List.take_append_drop k steps, List.drop_eq_getElem_cons hk,
    execSteps_append, execSteps, ← hrest, ← hlen]
  rw [List.getElem?_append_left (by simp), List.getElem?_append_right le_rfl]
  simp [hlen]

/-! ## Well-formed programs -/

/-- Modelled from the spec: every condition of a program reads only positions of earlier
steps. -/
def Program.WellFormed (pgm : Program Q) : Prop :=
  ∀ p ∈ pgm.steps.enum, ∀ c ∈ p.2.cond, ∀ j ∈ c.refs, j < p.1

instance (pgm : Program Q) : Decidable pgm.WellFormed := by
  unfold Program.WellFormed; infer_instance

theorem Program.wellFormed_iff (pgm : Program Q) :
    pgm.WellFormed ↔
      ∀ (i : Nat) (step : Step Q), pgm.steps[i]? = some step →
        ∀ c ∈ step.cond, ∀ j ∈ c.refs, j < i := by
  simp only [Program.WellFormed, List.mem_enum_iff_getElem?, Prod.forall]

/-- In a well-formed program the executor's vector is a fixed point of the conditions: each
step ran iff its condition holds over the final vector, whatever the steps after it did. -/
theorem Program.WellFormed.execute_getElem? {pgm : Program Q} (hwf : pgm.WellFormed)
    (outcome : Nat → Bool) {i : Nat} {step : Step Q} (h : pgm.steps[i]? = some step) :
    (pgm.execute outcome)[i]? =
      some (if step.enabled (pgm.execute outcome) then .ofOutcome (outcome i) else .skipped) := by
  have hat := execSteps_getElem?_of_getElem? outcome [] h
  rw [List.length_nil, Nat.zero_add] at hat
  obtain ⟨rest, hrest⟩ := execSteps_prefix outcome (execSteps outcome [] (pgm.steps.take i))
    (pgm.steps.drop i)
  rw [← execSteps_append, List.take_append_drop] at hrest
  have hlen : (execSteps outcome [] (pgm.steps.take i)).length = i := by
    simp only [execSteps_length, List.length_nil, List.length_take, Nat.zero_add]
    exact Nat.min_eq_left (List.getElem?_eq_some_iff.1 h).1.le
  have henabled : step.enabled (execSteps outcome [] (pgm.steps.take i)) =
      step.enabled (pgm.execute outcome) := by
    cases hc : step.cond with
    | none => simp [Step.enabled, hc]
    | some c =>
      simp only [Step.enabled, hc, Option.all_some]
      refine Cond.eval_congr c fun j hj => ?_
      have hj' := (pgm.wellFormed_iff.1 hwf) i step h c hc j hj
      rw [Program.execute, ← hrest, List.getElem?_append_left (by omega)]
  rw [Program.execute, hat, henabled, Program.execute]

end Sqld
