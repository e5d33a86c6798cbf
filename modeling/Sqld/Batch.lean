import Sqld.Program

/-!
# Batches lowered to programs

`connection/mod.rs` lowers a flat batch of queries into a `Program`:

* `make_batch_program` guards step `i > 0` by `Ok(i - 1)`, so the batch stops at its first
  failing query;
* `Connection::execute_batch` runs that program as is;
* `Connection::execute_batch_or_rollback` appends a `ROLLBACK` step guarded by
  `Not(Ok(last))` when the batch is not empty, and hands the engine a builder narrowed by
  `take(batch_len)`, so that the rollback's slot never reaches the caller.

The main result, `executeBatchOrRollback_runs_failed_prefix`, compares the results of both
programs with `batchResults`, the law of §4.1 written directly: query `i` runs iff every
earlier query succeeded.
-/

namespace Sqld

variable {Q : Type}

/-- The body of the loop of `make_batch_program`: step `i` runs only if step `i - 1`
succeeded. -/
def batchStep (i : Nat) (query : Q) : Step Q :=
  { cond := if i > 0 then some (.ok (i - 1)) else none, query }

/-- `make_batch_program`: one step per query, in batch order. -/
def makeBatchProgram (batch : List Q) : List (Step Q) :=
  batch.enum.map fun (i, query) => batchStep i query

/-- `Connection::execute_batch`: the slots of the batch program's run. -/
def executeBatch (batch : List Q) (outcome : Nat → Bool) : List StepResult :=
  (Program.mk (makeBatchProgram batch)).execute outcome

/-- The steps built by `Connection::execute_batch_or_rollback`: the batch program, followed,
when it is not empty, by the `rollback` query guarded by `Not(Ok(steps.len() - 1))`. -/
def batchOrRollbackSteps (rollback : Q) (batch : List Q) : List (Step Q) :=
  let steps := makeBatchProgram batch
  if steps.isEmpty then steps
  else steps ++ [{ query := rollback, cond := some (.not (.ok (steps.length - 1))) }]

/-- `Connection::execute_batch_or_rollback`: the program's slots as seen through
`take(batch_len)`, which forwards the first `batch_len` slots and drops the rest. -/
def executeBatchOrRollback (rollback : Q) (batch : List Q) (outcome : Nat → Bool) :
    List StepResult :=
  let batchLen := batch.length
  ((Program.mk (batchOrRollbackSteps rollback batch)).execute outcome).take batchLen

/-! ## The batch law -/

/-- Query `i` of a batch is to run iff every earlier query succeeded. -/
def batchRuns (outcome : Nat → Bool) (i : Nat) : Bool :=
  (List.range i).all outcome

/-- The slots §4.1 prescribes for a batch of `n` queries. -/
def batchResults (outcome : Nat → Bool) (n : Nat) : List StepResult :=
  (List.range n).map fun i => if batchRuns outcome i then .ofOutcome (outcome i) else .skipped

theorem batchRuns_iff (outcome : Nat → Bool) (i : Nat) :
    batchRuns outcome i = true ↔ ∀ j < i, outcome j = true := by
  simp [batchRuns]

@[simp] theorem batchRuns_zero (outcome : Nat → Bool) : batchRuns outcome 0 = true := rfl

theorem batchRuns_succ (outcome : Nat → Bool) (i : Nat) :
    batchRuns outcome (i + 1) = (batchRuns outcome i && outcome i) := by
  simp [batchRuns, List.range_succ]

@[simp] theorem batchResults_zero (outcome : Nat → Bool) : batchResults outcome 0 = [] := rfl

@[simp] theorem batchResults_length (outcome : Nat → Bool) (n : Nat) :
    (batchResults outcome n).length = n := by
  simp [batchResults]

theorem batchResults_succ (outcome : Nat → Bool) (n : Nat) :
    batchResults outcome (n + 1) = batchResults outcome n ++
      [if batchRuns outcome n then .ofOutcome (outcome n) else .skipped] := by
  simp [batchResults, List.range_succ]

/-- The last slot of a batch of `n + 1` queries is `ok` iff the whole batch succeeded. -/
theorem batchResults_last_eq_ok (outcome : Nat → Bool) (n : Nat) :
    (batchResults outcome (n + 1))[n]? = some .ok ↔ batchRuns outcome (n + 1) = true := by
  rw [batchResults_succ, batchRuns_succ]
  cases batchRuns outcome n <;> simp [List.getElem?_append_right]

/-- Step `k` of the batch program is enabled, over the slots of the first `k` queries, iff
the batch law lets query `k` run. -/
theorem batchStep_enabled (outcome : Nat → Bool) (k : Nat) (query : Q) :
    (batchStep k query).enabled (batchResults outcome k) = batchRuns outcome k := by
  cases k with
  | zero => rfl
  | succ j =>
      have h := batchResults_last_eq_ok outcome j
      simp only [batchStep, Step.enabled, Option.all, Cond.eval, Nat.succ_sub_one,
        Nat.succ_pos, if_true]
      exact Bool.eq_iff_iff.mpr (by simpa using h)

/-- The loop invariant of the executor on a batch program: after the first `k` steps the
outcome vector is `batchResults outcome k`. -/
theorem execSteps_batch (outcome : Nat → Bool) (k : Nat) (qs : List Q) :
    execSteps outcome (batchResults outcome k) ((qs.enumFrom k).map fun (i, q) => batchStep i q) =
      batchResults outcome (k + qs.length) := by
  induction qs generalizing k with
  | nil => rfl
  | cons q qs ih =>
      simp only [List.enumFrom_cons, List.map_cons, execSteps, batchResults_length,
        batchStep_enabled]
      rw [← batchResults_succ, ih]
      simp only [List.length_cons]
      congr 1; omega

/-- `execute_batch` follows the batch law. -/
theorem executeBatch_eq_batchResults (batch : List Q) (outcome : Nat → Bool) :
    executeBatch batch outcome = batchResults outcome batch.length := by
  simpa using execSteps_batch outcome 0 batch

@[simp] theorem makeBatchProgram_length (batch : List Q) :
    (makeBatchProgram batch).length = batch.length := by
  simp [makeBatchProgram]

/-- A non-empty batch gets its `ROLLBACK` step, guarded by the position of its last query. -/
theorem batchOrRollbackSteps_of_ne_nil (rollback : Q) {batch : List Q} (h : batch ≠ []) :
    batchOrRollbackSteps rollback batch = makeBatchProgram batch ++
      [{ query := rollback, cond := some (.not (.ok (batch.length - 1))) }] := by
  have : (makeBatchProgram batch).isEmpty = false := by
    simpa [List.isEmpty_iff, ← List.length_eq_zero] using h
  simp [batchOrRollbackSteps, this]

/-- The program of `execute_batch_or_rollback` runs the batch law on the original queries,
then its `ROLLBACK` step, present iff the batch is not empty, runs iff some query failed. -/
theorem execute_batchOrRollbackSteps (rollback : Q) (batch : List Q) (outcome : Nat → Bool) :
    (Program.mk (batchOrRollbackSteps rollback batch)).execute outcome =
      batchResults outcome batch.length ++
        if batch.isEmpty then [] else
          [if batchRuns outcome batch.length then .skipped
            else .ofOutcome (outcome batch.length)] := by
  cases batch with
  | nil => rfl
  | cons q qs =>
      have hbatch := executeBatch_eq_batchResults (q :: qs) outcome
      have hlast := batchResults_last_eq_ok outcome qs.length
      rw [executeBatch, Program.execute] at hbatch
      rw [batchOrRollbackSteps_of_ne_nil rollback (List.cons_ne_nil q qs), Program.execute,
        execSteps_append, hbatch]
      cases h : batchRuns outcome (qs.length + 1) <;>
        simp_all [execSteps, Step.enabled, Cond.eval]

/-- The batch law for both lowerings: `execute_batch` runs exactly the queries up to the first
failing one; the program of `execute_batch_or_rollback` runs the same prefix and then its
`ROLLBACK` step iff the batch is not empty and some query failed; and the builder narrowed by
`take(batch_len)` hands back only the slots of the original queries. -/
theorem executeBatchOrRollback_runs_failed_prefix (rollback : Q) (batch : List Q)
    (outcome : Nat → Bool) :
    executeBatch batch outcome = batchResults outcome batch.length ∧
    (Program.mk (batchOrRollbackSteps rollback batch)).execute outcome =
      batchResults outcome batch.length ++
        (if batch.isEmpty then [] else
          [if batchRuns outcome batch.length then .skipped
            else .ofOutcome (outcome batch.length)]) ∧
    executeBatchOrRollback rollback batch outcome = batchResults outcome batch.length := by
  have hpgm := execute_batchOrRollbackSteps rollback batch outcome
  refine ⟨executeBatch_eq_batchResults batch outcome, hpgm, ?_⟩
  simp only [executeBatchOrRollback, hpgm]
  simp

/-! ## The shape of the batch programs -/

theorem makeBatchProgram_getElem? (batch : List Q) (i : Nat) :
    (makeBatchProgram batch)[i]? = batch[i]?.map (batchStep i) := by
  simp only [makeBatchProgram, List.getElem?_map, List.getElem?_enum, Option.map_map]
  rfl

@[simp] theorem makeBatchProgram_map_query (batch : List Q) :
    (makeBatchProgram batch).map (·.query) = batch := by
  refine List.ext_getElem? fun i => ?_
  rw [List.getElem?_map, makeBatchProgram_getElem?, Option.map_map]
  cases batch[i]? <;> rfl

/-- Step `0` of a batch program has no guard and step `j + 1` is guarded by `Ok(j)`. -/
theorem batchStep_cond (i : Nat) (query : Q) :
    (i = 0 ∧ (batchStep i query).cond = none) ∨
      ∃ j, i = j + 1 ∧ (batchStep i query).cond = some (.ok j) := by
  cases i with
  | zero => exact .inl ⟨rfl, rfl⟩
  | succ j => exact .inr ⟨j, rfl, by simp [batchStep]⟩

theorem makeBatchProgram_wellFormed (batch : List Q) :
    (Program.mk (makeBatchProgram batch)).WellFormed := by
  refine (Program.wellFormed_iff _).2 fun i step h c hc j hj => ?_
  rw [makeBatchProgram_getElem?] at h
  obtain ⟨query, -, rfl⟩ := Option.map_eq_some'.1 h
  rcases batchStep_cond i query with ⟨-, hnone⟩ | ⟨k, rfl, hk⟩
  · simp [hnone] at hc
  · simp only [hk, Option.mem_def, Option.some.injEq] at hc
    subst hc
    simp only [Cond.refs, List.mem_singleton] at hj
    omega

/-- The program of `execute_batch_or_rollback` for a batch of `j + 1` queries: the batch
program, then the `ROLLBACK` step guarded by `Not(Ok(j))`. -/
theorem batchOrRollbackSteps_of_length_succ (rollback : Q) {batch : List Q} {j : Nat}
    (h : batch.length = j + 1) :
    batchOrRollbackSteps rollback batch = makeBatchProgram batch ++
      [{ query := rollback, cond := some (.not (.ok j)) }] := by
  rw [batchOrRollbackSteps_of_ne_nil rollback (List.ne_nil_of_length_eq_add_one h), h,
    Nat.add_sub_cancel]

/-- The program of `execute_batch_or_rollback` reads only earlier steps: the batch program's
guards, and the `ROLLBACK` step's `Not(Ok(j))` after step `j`. -/
theorem batchOrRollbackSteps_wellFormed (rollback : Q) (batch : List Q) :
    (Program.mk (batchOrRollbackSteps rollback batch)).WellFormed := by
  cases hlen : batch.length with
  | zero =>
    rw [List.length_eq_zero.1 hlen]
    exact fun p hp => by simp [batchOrRollbackSteps, makeBatchProgram] at hp
  | succ j =>
    rw [batchOrRollbackSteps_of_length_succ rollback hlen]
    refine (Program.wellFormed_iff _).2 fun i step h c hc k hk => ?_
    by_cases hi : i < batch.length
    · rw [List.getElem?_append_left (by simpa using hi)] at h
      exact (Program.wellFormed_iff _).1 (makeBatchProgram_wellFormed batch) i step h c hc k hk
    · rw [List.getElem?_append_right (by simpa using hi), makeBatchProgram_length] at h
      have hi' : i - batch.length = 0 := by
        by_contra hne
        rw [List.getElem?_eq_none (by simp; omega)] at h
        exact Option.noConfusion h
      simp only [hi', List.getElem?_cons_zero, Option.some.injEq] at h
      subst h
      simp only [Option.mem_def, Option.some.injEq] at hc
      subst hc
      simp only [Cond.refs, List.mem_singleton] at hk
      omega

/-- The lowerings of a batch of `n` queries: `make_batch_program` gives `n` steps carrying the
queries in order, step `0` unguarded and step `j + 1` guarded by `Ok(j)`; the program of
`execute_batch_or_rollback` is empty for an empty batch, and otherwise has the `ROLLBACK`
step guarded by `Not(Ok(j))` with `j + 1 = n` as its step `n`.  Both programs read only
earlier steps, and every index is an exact predecessor, never a truncated subtraction.  So,
whatever each query's outcome, every step of `execute_batch_or_rollback`'s program runs
exactly when its guard holds over the results of the steps before it. -/
theorem batch_programs_wellFormed (rollback : Q) (batch : List Q) :
    (makeBatchProgram batch).map (·.query) = batch ∧
    (∀ i step, (makeBatchProgram batch)[i]? = some step →
      (i = 0 ∧ step.cond = none) ∨ ∃ j, i = j + 1 ∧ step.cond = some (.ok j)) ∧
    (Program.mk (makeBatchProgram batch)).WellFormed ∧
    (batch = [] → batchOrRollbackSteps rollback batch = []) ∧
    (∀ j, batch.length = j + 1 → batchOrRollbackSteps rollback batch =
      makeBatchProgram batch ++ [{ query := rollback, cond := some (.not (.ok j)) }]) ∧
    (Program.mk (batchOrRollbackSteps rollback batch)).WellFormed ∧
    ∀ (outcome : Nat → Bool) i (step : Step Q), (batchOrRollbackSteps rollback batch)[i]? = some step →
      ((Program.mk (batchOrRollbackSteps rollback batch)).execute outcome)[i]? =
        some (if step.enabled ((Program.mk (batchOrRollbackSteps rollback batch)).execute outcome)
          then StepResult.ofOutcome (outcome i) else StepResult.skipped) := by
  have hwf := batchOrRollbackSteps_wellFormed rollback batch
  refine ⟨makeBatchProgram_map_query batch, fun i step h => ?_, makeBatchProgram_wellFormed batch,
    fun h => by subst h; rfl, fun j => batchOrRollbackSteps_of_length_succ rollback, hwf,
    fun outcome _ _ h => hwf.execute_getElem? outcome h⟩
  rw [makeBatchProgram_getElem?] at h
  obtain ⟨query, -, rfl⟩ := Option.map_eq_some'.1 h
  exact batchStep_cond i query

/-- Scenario S1 of the specification: the third of four queries fails. -/
example : executeBatchOrRollback 0 [1, 2, 3, 4] (fun i => i != 2) =
    [.ok, .ok, .err, .skipped] := by decide

end Sqld
