import Mathlib

/-!
# The dump stream

`handle_dump` runs the exporter on a blocking task that writes into an in-memory pipe, and
answers with a `DumpStream` over `ReaderStream::new(reader).fuse()` and the task's
`JoinHandle`.  `DumpStream::poll_next` forwards the reader's items until the fused stream
ends, then calls itself to poll the join handle: a task that failed or panicked adds one error,
and then the stream ends.

The reader's stream and the join handle are the environment: each is given as the list of the
answers it gives to its successive polls (an exhausted list keeps answering `Pending`), so every
interleaving of readiness and every outcome of the task is covered.  `poll_next` is modelled
with the number of activations the call stack may hold, which makes its self-call visible.

The main result, `dumpStream_poll_next`, says that each call needs two activations, that the
ready values of any number of polls follow the reader's items, the task's error if any, and
then `None` for good, and that once the reader ends and the task finishes, enough polls yield
all of them: a pending join handle is kept and polled again.
-/

namespace Sqld
namespace Http

/-- `std::task::Poll`. -/
inductive Poll (α : Type)
  | ready (value : α)
  | pending
  deriving DecidableEq, Repr

/-- The value of a ready answer. -/
def Poll.ready? {α : Type} : Poll α → Option α
  | .ready value => some value
  | .pending => none

@[simp] theorem Poll.ready?_ready {α : Type} (value : α) : (Poll.ready value).ready? = some value :=
  rfl

@[simp] theorem Poll.ready?_pending {α : Type} : (Poll.pending : Poll α).ready? = none := rfl

variable {ε T J Err : Type}

/-- A `DumpStream`: the answers the reader's stream has still to give, whether the `Fuse`
around it has seen it end, and the `JoinHandle` with the answers it has still to give, until
`poll_next` takes it for good.  The task's result is `Result<(), Error>`, and the handle fails
with a join error of type `J`. -/
structure DumpStream (ε T J Err : Type) where
  inner : List (Poll (Option (Except ε T)))
  terminated : Bool
  joinHandle : Option (List (Poll (Except J (Except Err Unit))))

/-- The stream `handle_dump` returns: the fused reader, not yet ended, and the task's handle. -/
def DumpStream.start (inner : List (Poll (Option (Except ε T))))
    (join : List (Poll (Except J (Except Err Unit)))) : DumpStream ε T J Err :=
  ⟨inner, false, some join⟩

section PollNext

variable (into : ε → Err) (crashed : J → Err)

/-- `DumpStream::poll_next` with `depth` activations of stack left for it: `none` when the call
would need more.  `into` is `Into::into` for the reader's errors, and `crashed` the error
`anyhow!(err).context("Dump task crashed").into()` made from a join error. -/
def pollNext : Nat → DumpStream ε T J Err →
    Option (Poll (Option (Except Err T)) × DumpStream ε T J Err)
  | 0, _ => none
  | depth + 1, s =>
    if !s.terminated then
      match s.inner with
      | [] => some (.pending, s)
      | .pending :: inner => some (.pending, { s with inner })
      | .ready (some item) :: inner => some (.ready (some (item.mapError into)), { s with inner })
      | .ready none :: inner => pollNext depth { s with inner, terminated := true }
    else
      match s.joinHandle with
      | none => some (.ready none, s)
      | some [] => some (.pending, s)
      | some (.pending :: results) => some (.pending, { s with joinHandle := some results })
      | some (.ready (.ok (.error err)) :: _) =>
        some (.ready (some (.error err)), { s with joinHandle := none })
      | some (.ready (.error err) :: _) =>
        some (.ready (some (.error (crashed err))), { s with joinHandle := none })
      | some (.ready (.ok (.ok ())) :: _) => some (.ready none, { s with joinHandle := none })

/-- Once the fused stream has ended, `poll_next` does not call itself. -/
theorem pollNext_terminated_succ (depth : Nat) {s : DumpStream ε T J Err}
    (h : s.terminated = true) :
    pollNext into crashed (depth + 1) s = pollNext into crashed 1 s := by
  simp only [pollNext, h, Bool.not_true, Bool.false_eq_true, ↓reduceIte]

theorem pollNext_terminated_isSome {s : DumpStream ε T J Err} (h : s.terminated = true) :
    ∃ r, pollNext into crashed 1 s = some r := by
  simp only [pollNext, h, Bool.not_true, Bool.false_eq_true, ↓reduceIte]
  split <;> exact ⟨_, rfl⟩

/-- `poll_next` calls itself at most once: two activations always suffice. -/
theorem pollNext_two_isSome (s : DumpStream ε T J Err) : ∃ r, pollNext into crashed 2 s = some r := by
  cases hterm : s.terminated
  · rw [pollNext]
    simp only [hterm, Bool.not_false, ↓reduceIte]
    split <;> first | exact ⟨_, rfl⟩ | exact pollNext_terminated_isSome into crashed rfl
  · rw [pollNext_terminated_succ into crashed 1 hterm]
    exact pollNext_terminated_isSome into crashed hterm

/-- One call of `poll_next`, on a stack of two activations. -/
def poll (s : DumpStream ε T J Err) : Poll (Option (Except Err T)) × DumpStream ε T J Err :=
  (pollNext into crashed 2 s).getD (.pending, s)

theorem pollNext_two (s : DumpStream ε T J Err) :
    pollNext into crashed 2 s = some (poll into crashed s) := by
  obtain ⟨r, hr⟩ := pollNext_two_isSome into crashed s
  simp [poll, hr]

/-- `n` successive calls of `poll_next`: their answers, and the stream after them. -/
def polls : Nat → DumpStream ε T J Err → List (Poll (Option (Except Err T))) × DumpStream ε T J Err
  | 0, s => ([], s)
  | n + 1, s =>
    let first := poll into crashed s
    let rest := polls n first.2
    (first.1 :: rest.1, rest.2)

@[simp] theorem polls_zero (s : DumpStream ε T J Err) : polls into crashed 0 s = ([], s) := rfl

theorem polls_succ_fst (n : Nat) (s : DumpStream ε T J Err) :
    (polls into crashed (n + 1) s).1 =
      (poll into crashed s).1 :: (polls into crashed n (poll into crashed s).2).1 := rfl

@[simp] theorem polls_length (n : Nat) (s : DumpStream ε T J Err) :
    (polls into crashed n s).1.length = n := by
  induction n generalizing s with
  | zero => rfl
  | succ n ih => simp [polls_succ_fst, ih]

end PollNext

/-! ## One poll, case by case -/

section Cases

variable (into : ε → Err) (crashed : J → Err) (rest : List (Poll (Option (Except ε T))))
  (joinHandle : Option (List (Poll (Except J (Except Err Unit)))))

@[simp] theorem poll_running_nil :
    poll into crashed (⟨[], false, joinHandle⟩ : DumpStream ε T J Err) =
      (.pending, ⟨[], false, joinHandle⟩) := rfl

@[simp] theorem poll_running_pending :
    poll into crashed (⟨.pending :: rest, false, joinHandle⟩ : DumpStream ε T J Err) =
      (.pending, ⟨rest, false, joinHandle⟩) := rfl

@[simp] theorem poll_running_item (item : Except ε T) :
    poll into crashed (⟨.ready (some item) :: rest, false, joinHandle⟩ : DumpStream ε T J Err) =
      (.ready (some (item.mapError into)), ⟨rest, false, joinHandle⟩) := rfl

/-- When the reader's stream ends, the call goes on as a call on the ended stream. -/
@[simp] theorem poll_running_end :
    poll into crashed (⟨.ready none :: rest, false, joinHandle⟩ : DumpStream ε T J Err) =
      poll into crashed ⟨rest, true, joinHandle⟩ := by
  have h := pollNext_two into crashed (⟨.ready none :: rest, false, joinHandle⟩ : DumpStream ε T J Err)
  rw [show pollNext into crashed 2 (⟨.ready none :: rest, false, joinHandle⟩ : DumpStream ε T J Err) =
      pollNext into crashed 1 ⟨rest, true, joinHandle⟩ from rfl,
    ← pollNext_terminated_succ into crashed 1 rfl, pollNext_two] at h
  exact (Option.some.inj h).symm

@[simp] theorem poll_taken :
    poll into crashed (⟨rest, true, none⟩ : DumpStream ε T J Err) = (.ready none, ⟨rest, true, none⟩) :=
  rfl

@[simp] theorem poll_join_nil :
    poll into crashed (⟨rest, true, some []⟩ : DumpStream ε T J Err) =
      (.pending, ⟨rest, true, some []⟩) := rfl

/-- A join handle that is still pending is put back. -/
@[simp] theorem poll_join_pending (results : List (Poll (Except J (Except Err Unit)))) :
    poll into crashed (⟨rest, true, some (.pending :: results)⟩ : DumpStream ε T J Err) =
      (.pending, ⟨rest, true, some results⟩) := rfl

/-- The answer of `poll_next` when the join handle is ready with the task's `outcome`. -/
def joinAnswer : Except J (Except Err Unit) → Option (Except Err T)
  | .ok (.ok ()) => none
  | .ok (.error err) => some (.error err)
  | .error err => some (.error (crashed err))

@[simp] theorem poll_join_ready (outcome : Except J (Except Err Unit))
    (results : List (Poll (Except J (Except Err Unit)))) :
    poll into crashed (⟨rest, true, some (.ready outcome :: results)⟩ : DumpStream ε T J Err) =
      (.ready (joinAnswer crashed outcome), ⟨rest, true, none⟩) := by
  rcases outcome with err | err | ⟨⟩ <;> rfl

end Cases

/-! ## What the stream is to yield -/

/-- The items the reader's stream gives before it ends, in order. -/
def innerItems : List (Poll (Option (Except ε T))) → List (Except ε T)
  | [] => []
  | .pending :: rest => innerItems rest
  | .ready (some item) :: rest => item :: innerItems rest
  | .ready none :: _ => []

/-- Whether the reader's stream ends. -/
def innerEnds : List (Poll (Option (Except ε T))) → Bool
  | [] => false
  | .pending :: rest => innerEnds rest
  | .ready (some _) :: rest => innerEnds rest
  | .ready none :: _ => true

/-- The first ready answer of a join handle: the task's outcome, if it finishes. -/
def joinOutcome {α : Type} : List (Poll α) → Option α
  | [] => none
  | .pending :: rest => joinOutcome rest
  | .ready outcome :: _ => some outcome

/-- What the task's outcome adds to the stream before its end: an error when it failed or
panicked, nothing when it succeeded. -/
def taskError (crashed : J → Err) : Except J (Except Err Unit) → List (Option (Except Err T))
  | .ok (.ok ()) => []
  | .ok (.error err) => [some (.error err)]
  | .error err => [some (.error (crashed err))]

/-- What is left once the reader has ended: the task's error if any, then `None`, `n` times;
nothing while the task has not finished. -/
def afterReader (crashed : J → Err) (joinHandle : Option (List (Poll (Except J (Except Err Unit)))))
    (n : Nat) : List (Option (Except Err T)) :=
  match joinHandle with
  | none => List.replicate n none
  | some results =>
    match joinOutcome results with
    | some outcome => taskError crashed outcome ++ List.replicate n none
    | none => []

/-- The ready values a stream in state `s` is to give over at most `n` more polls. -/
def DumpStream.expected (into : ε → Err) (crashed : J → Err) (s : DumpStream ε T J Err)
    (n : Nat) : List (Option (Except Err T)) :=
  if s.terminated then afterReader crashed s.joinHandle n
  else (innerItems s.inner).map (fun item => some (item.mapError into)) ++
    if innerEnds s.inner then afterReader crashed s.joinHandle n else []

section Spec

variable (into : ε → Err) (crashed : J → Err)

theorem replicate_prefix_cons {α : Type} (n : Nat) (a : α) :
    List.replicate n a <+: a :: List.replicate n a := by
  rw [← List.replicate_succ, List.replicate_succ']
  exact List.prefix_append _ _

theorem afterReader_mono (joinHandle : Option (List (Poll (Except J (Except Err Unit)))))
    {n m : Nat} (h : n ≤ m) :
    (afterReader crashed joinHandle n : List (Option (Except Err T))) <+:
      afterReader crashed joinHandle m := by
  have hrep : (List.replicate n (none : Option (Except Err T))) <+: List.replicate m none := by
    rw [← Nat.add_sub_cancel' h, List.replicate_add]
    exact List.prefix_append _ _
  unfold afterReader
  split
  · exact hrep
  · split
    · exact (List.prefix_append_right_inj _).2 hrep
    · exact List.prefix_refl _

theorem expected_mono (s : DumpStream ε T J Err) {n m : Nat} (h : n ≤ m) :
    s.expected into crashed n <+: s.expected into crashed m := by
  unfold DumpStream.expected
  split
  · exact afterReader_mono crashed _ h
  · refine (List.prefix_append_right_inj _).2 ?_
    split
    · exact afterReader_mono crashed _ h
    · exact List.prefix_refl _

/-- On an ended stream, one poll gives the next value the stream is to give, or `Pending` and
leaves what it is to give unchanged. -/
theorem poll_expected_terminated (inner : List (Poll (Option (Except ε T))))
    (joinHandle : Option (List (Poll (Except J (Except Err Unit))))) (n : Nat) :
    (poll into crashed ⟨inner, true, joinHandle⟩).1.ready?.toList ++
        (poll into crashed ⟨inner, true, joinHandle⟩).2.expected into crashed n <+:
      (⟨inner, true, joinHandle⟩ : DumpStream ε T J Err).expected into crashed (n + 1) := by
  rcases joinHandle with _ | results
  · simp [DumpStream.expected, afterReader, List.replicate_succ]
  rcases results with _ | ⟨p, results⟩
  · simp [DumpStream.expected, afterReader, joinOutcome]
  rcases p with outcome | _
  · rcases outcome with err | err | ⟨⟩ <;>
      simp [DumpStream.expected, afterReader, joinOutcome, taskError, joinAnswer,
        List.replicate_succ, replicate_prefix_cons]
  · simp only [poll_join_pending, Poll.ready?_pending, Option.toList_none, List.nil_append]
    exact afterReader_mono crashed (some results) (Nat.le_succ n)

theorem poll_expected (s : DumpStream ε T J Err) (n : Nat) :
    (poll into crashed s).1.ready?.toList ++ (poll into crashed s).2.expected into crashed n <+:
      s.expected into crashed (n + 1) := by
  obtain ⟨inner, _ | _, joinHandle⟩ := s
  · rcases inner with _ | ⟨p, rest⟩
    · simp [DumpStream.expected, innerItems, innerEnds]
    rcases p with (_ | item) | _
    · rw [poll_running_end]
      exact poll_expected_terminated into crashed rest joinHandle n
    · simp only [poll_running_item, Poll.ready?_ready, Option.toList_some, List.singleton_append]
      exact (List.prefix_cons_inj _).2 (expected_mono into crashed _ (Nat.le_succ n))
    · simp only [poll_running_pending, Poll.ready?_pending, Option.toList_none, List.nil_append]
      exact expected_mono into crashed _ (Nat.le_succ n)
  · exact poll_expected_terminated into crashed inner joinHandle n

theorem filterMap_ready?_cons {α : Type} (o : Poll α) (os : List (Poll α)) :
    (o :: os).filterMap Poll.ready? = o.ready?.toList ++ os.filterMap Poll.ready? := by
  cases o <;> rfl

/-- Over any number of polls, the ready values are a prefix of what the stream is to give. -/
theorem polls_expected (n : Nat) (s : DumpStream ε T J Err) :
    (polls into crashed n s).1.filterMap Poll.ready? <+: s.expected into crashed n := by
  induction n generalizing s with
  | zero => exact List.nil_prefix
  | succ n ih =>
    rw [polls_succ_fst, filterMap_ready?_cons]
    exact ((List.prefix_append_right_inj _).2 (ih _)).trans (poll_expected into crashed s n)

end Spec

/-! ## The end of the stream -/

/-- The stream has ended and the join handle has been taken: every poll answers `None`. -/
def DumpStream.Done (s : DumpStream ε T J Err) : Prop := s.terminated = true ∧ s.joinHandle = none

section End

variable (into : ε → Err) (crashed : J → Err)

theorem poll_done {s : DumpStream ε T J Err} (h : s.Done) : poll into crashed s = (.ready none, s) := by
  obtain ⟨inner, terminated, joinHandle⟩ := s
  obtain ⟨rfl, rfl⟩ := h
  exact poll_taken into crashed inner

theorem polls_done {s : DumpStream ε T J Err} (h : s.Done) (n : Nat) :
    (polls into crashed n s).1 = List.replicate n (.ready none) := by
  induction n with
  | zero => rfl
  | succ n ih => rw [polls_succ_fst, poll_done into crashed h, ih, List.replicate_succ]

/-- A poll that answers `None` leaves the stream done. -/
theorem poll_ready_none_done (s : DumpStream ε T J Err) (h : (poll into crashed s).1 = .ready none) :
    (poll into crashed s).2.Done := by
  have hterm : ∀ (inner : List (Poll (Option (Except ε T)))) joinHandle,
      (poll into crashed ⟨inner, true, joinHandle⟩).1 = .ready none →
      (poll into crashed (⟨inner, true, joinHandle⟩ : DumpStream ε T J Err)).2.Done := by
    intro inner joinHandle h
    rcases joinHandle with _ | _ | ⟨outcome | _, results⟩
    · rw [poll_taken]; exact ⟨rfl, rfl⟩
    · simp at h
    · rw [poll_join_ready]; exact ⟨rfl, rfl⟩
    · simp at h
  obtain ⟨inner, _ | _, joinHandle⟩ := s
  · rcases inner with _ | ⟨(_ | item) | _, rest⟩
    · simp at h
    · rw [poll_running_end] at h ⊢
      exact hterm rest joinHandle h
    · simp at h
    · simp at h
  · exact hterm inner joinHandle h

/-- After the first `Ready(None)`, every poll answers `Ready(None)`. -/
theorem polls_ready_none_stays :
    ∀ (n : Nat) (s : DumpStream ε T J Err) (i j : Nat), i ≤ j → j < n →
      (polls into crashed n s).1[i]? = some (.ready none) →
      (polls into crashed n s).1[j]? = some (.ready none)
  | 0, _, _, _, _, hj, _ => absurd hj (Nat.not_lt_zero _)
  | n + 1, s, 0, j, _, hj, hi => by
    rw [polls_succ_fst] at hi ⊢
    have hfirst : (poll into crashed s).1 = .ready none := by simpa using hi
    rw [polls_done into crashed (poll_ready_none_done into crashed s hfirst), hfirst,
      ← List.replicate_succ]
    exact List.getElem?_replicate_of_lt hj
  | n + 1, s, i + 1, j + 1, hij, hj, hi => by
    rw [polls_succ_fst, List.getElem?_cons_succ] at hi ⊢
    exact polls_ready_none_stays n _ i j (by omega) (by omega) hi
  | n + 1, _, _ + 1, 0, hij, _, _ => absurd hij (by omega)

/-- The answers still to come from the reader's stream and from the join handle. -/
def DumpStream.pending (s : DumpStream ε T J Err) : Nat :=
  (if s.terminated then 0 else s.inner.length) + (s.joinHandle.map List.length).getD 0

theorem pending_running_cons (p : Poll (Option (Except ε T))) (rest : List (Poll (Option (Except ε T))))
    (joinHandle : Option (List (Poll (Except J (Except Err Unit))))) :
    (⟨p :: rest, false, joinHandle⟩ : DumpStream ε T J Err).pending =
      (⟨rest, false, joinHandle⟩ : DumpStream ε T J Err).pending + 1 := by
  simp only [DumpStream.pending, Bool.false_eq_true, ↓reduceIte, List.length_cons]
  omega

/-- An ended stream whose task finishes answers `None` once each of its join handle's answers
has been polled. -/
theorem ready_none_mem_polls_terminated :
    ∀ (n : Nat) (inner : List (Poll (Option (Except ε T))))
      (joinHandle : Option (List (Poll (Except J (Except Err Unit))))),
      (∀ results, joinHandle = some results → (joinOutcome results).isSome) →
      (joinHandle.map List.length).getD 0 < n →
      .ready none ∈ (polls into crashed n (⟨inner, true, joinHandle⟩ : DumpStream ε T J Err)).1
  | 0, _, _, _, hn => absurd hn (Nat.not_lt_zero _)
  | n + 1, inner, joinHandle, hfin, hn => by
    rw [polls_succ_fst]
    rcases joinHandle with _ | _ | ⟨outcome | _, results⟩
    · simp
    · simp [joinOutcome] at hfin
    · simp only [poll_join_ready, List.mem_cons]
      refine .inr ?_
      rw [polls_done into crashed ⟨rfl, rfl⟩]
      simp at hn
      exact List.mem_replicate.2 ⟨by omega, rfl⟩
    · simp only [poll_join_pending, List.mem_cons]
      refine .inr (ready_none_mem_polls_terminated n inner (some results) ?_ ?_)
      · simpa [joinOutcome] using hfin
      · simp at hn ⊢; omega

/-- A stream whose reader ends and whose task finishes answers `None` once each answer of the
reader and of the join handle has been polled. -/
theorem ready_none_mem_polls :
    ∀ (n : Nat) (s : DumpStream ε T J Err),
      (s.terminated = true ∨ innerEnds s.inner = true) →
      (∀ results, s.joinHandle = some results → (joinOutcome results).isSome) →
      s.pending < n → .ready none ∈ (polls into crashed n s).1
  | 0, _, _, _, hn => absurd hn (Nat.not_lt_zero _)
  | n + 1, ⟨inner, true, joinHandle⟩, _, hfin, hn =>
    ready_none_mem_polls_terminated into crashed (n + 1) inner joinHandle hfin
      (by simpa [DumpStream.pending] using hn)
  | n + 1, ⟨inner, false, joinHandle⟩, hends, hfin, hn => by
    simp only [Bool.false_eq_true, false_or] at hends
    rcases inner with _ | ⟨(_ | item) | _, rest⟩
    · simp [innerEnds] at hends
    · have hpoll : polls into crashed (n + 1) (⟨.ready none :: rest, false, joinHandle⟩ :
          DumpStream ε T J Err) = polls into crashed (n + 1) ⟨rest, true, joinHandle⟩ := by
        simp only [polls, poll_running_end]
      rw [hpoll]
      have hn' := (pending_running_cons _ rest joinHandle).symm.trans_lt hn
      exact ready_none_mem_polls_terminated into crashed (n + 1) rest joinHandle hfin
        (by simp only [DumpStream.pending, Bool.false_eq_true, ↓reduceIte] at hn'; omega)
    · have hn' := (pending_running_cons _ rest joinHandle).symm.trans_lt hn
      rw [polls_succ_fst, poll_running_item]
      exact List.mem_cons_of_mem _ (ready_none_mem_polls n ⟨rest, false, joinHandle⟩
        (.inr (by simpa [innerEnds] using hends)) hfin (by omega))
    · have hn' := (pending_running_cons _ rest joinHandle).symm.trans_lt hn
      rw [polls_succ_fst, poll_running_pending]
      exact List.mem_cons_of_mem _ (ready_none_mem_polls n ⟨rest, false, joinHandle⟩
        (.inr (by simpa [innerEnds] using hends)) hfin (by omega))

end End

/-- For every schedule of the reader's answers (items, errors, `Pending`, its end) and of the
join handle's (`Pending` any number of times, then the task's outcome): each `poll_next` call
returns within two activations, its self-call not calling itself again; the ready values of any
number of polls are, in order, the reader's items with their errors converted, then the task's
error if it failed or panicked, then `None` repeated; after the first `Ready(None)` every poll
answers `Ready(None)`; and when the reader ends and the task finishes, a pending join handle is
polled again until the stream answers `Ready(None)`, within one poll more than the answers of
the reader and of the join handle. -/
theorem dumpStream_poll_next (into : ε → Err) (crashed : J → Err)
    (inner : List (Poll (Option (Except ε T)))) (join : List (Poll (Except J (Except Err Unit)))) :
    (∀ s : DumpStream ε T J Err, ∃ r, pollNext into crashed 2 s = some r) ∧
    (∀ n, (polls into crashed n (.start inner join)).1.filterMap Poll.ready? <+:
      (innerItems inner).map (fun item => some (item.mapError into)) ++
        if innerEnds inner then afterReader crashed (some join) n else []) ∧
    (∀ n i j, i ≤ j → j < n →
      (polls into crashed n (.start inner join)).1[i]? = some (.ready none) →
      (polls into crashed n (.start inner join)).1[j]? = some (.ready none)) ∧
    (innerEnds inner = true → (joinOutcome join).isSome →
      ∀ n, inner.length + join.length < n →
        .ready none ∈ (polls into crashed n (.start inner join)).1) :=
  ⟨pollNext_two_isSome into crashed, fun n => polls_expected into crashed n _,
    fun n => polls_ready_none_stays into crashed n _,
    fun hends hfin n hn => ready_none_mem_polls into crashed n _ (.inr hends)
      (fun results h => by cases h; exact hfin) (by simpa [DumpStream.pending, DumpStream.start])⟩

/- An item, a `Pending`, the end of the reader while the task still runs, then a crash. -/
example : (polls (fun _ => 0) (fun _ => 1) 6
    (.start [.ready (some (.ok 7)), .pending, .ready none] [.pending, .ready (.error ())] :
      DumpStream Unit Nat Unit Nat)).1 =
    [.ready (some (.ok 7)), .pending, .pending, .ready (some (.error 1)), .ready none, .ready none] :=
  rfl

end Http
end Sqld
