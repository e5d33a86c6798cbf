import Sqld.Throttle.Permits

/-!
# When the throttler deadlocks

A `create` call keeps its first permit while it waits for the second acquisition, so calls
can hold every permit while each waits for more: with no connection alive to release any, the
calls wait forever, or until their timers fire.  Under high pressure a call asks for 16 units
twice, so one call deadlocks a semaphore of 16 permits by itself (`sixteen_permits_deadlock`).

The semaphore's own invariant bounds what the blocked calls can hold: the wait list is exactly
the blocked calls, only its oldest waiter has been assigned permits, and no permit is available
while anyone waits (`SemaphoreInv`).  The `waiters` check admits at most 127 calls at a time
(`WaitersInv`).  Blocked calls therefore hold at most 127 first permits of 16 units and 15
assigned units, 2047 in all, and a semaphore of 2048 permits or more never deadlocks
(`no_deadlock_of_concurrency_ge`).  The bound is exact: below 2048 permits, `N / 16` calls
under high pressure take 16 permits each and then all wait for 16 more
(`deadlock_reachable_of_concurrency_lt`), so the throttler is free of deadlock exactly when it
has 2048 permits or more (`deadlock_free_iff_concurrency_ge`).
-/

namespace Sqld
namespace Throttle

open ThrottleState

/-! ## The semaphore's invariant -/

/-- `tokio`'s batch semaphore, over the available permits, the wait list and the calls: the
wait list holds each blocked call once and nothing else, only its oldest waiter has been
assigned permits, and permits are available only while nobody waits. -/
structure SemaphoreInv (permits : Nat) (queue : List Nat) (creates : List Create) : Prop where
  mem_queue : ∀ i, i ∈ queue ↔ ∃ c, creates[i]? = some c ∧ c.state.isWaiting
  nodup : queue.Nodup
  assigned_head : ∀ i c, creates[i]? = some c → 0 < c.state.assigned → queue.head? = some i
  permits_eq_zero : queue ≠ [] → permits = 0

namespace SemaphoreInv

variable {permits : Nat} {queue : List Nat} {creates : List Create}

theorem exists_waiting_set {i j : Nat} {c c' : Create} (hc : creates[i]? = some c) :
    (∃ x, (creates.set i c')[j]? = some x ∧ x.state.isWaiting) ↔
      if i = j then c'.state.isWaiting = true
      else ∃ x, creates[j]? = some x ∧ x.state.isWaiting := by
  rw [List.getElem?_set']
  split
  · next hij => subst hij; simp [hc]
  · rfl

/-- A call that does not wait becomes another that does not. -/
theorem set (h : SemaphoreInv permits queue creates) {i : Nat} {c c' : Create}
    (hc : creates[i]? = some c) (hw : c.state.isWaiting = false)
    (hw' : c'.state.isWaiting = false) : SemaphoreInv permits queue (creates.set i c') where
  mem_queue j := by
    rw [h.mem_queue j, exists_waiting_set hc]
    split
    · next hij => subst hij; simp [hc, hw, hw']
    · rfl
  nodup := h.nodup
  assigned_head j x hx hpos := by
    rw [List.getElem?_set'] at hx
    split at hx
    · next hij =>
      subst hij
      simp only [hc, Option.map_eq_map, Option.map_some', Function.const_apply,
        Option.some.injEq] at hx
      subst hx
      simp [CreateState.assigned_pos_isWaiting hpos] at hw'
    · exact h.assigned_head j x hx hpos
  permits_eq_zero := h.permits_eq_zero

theorem mono (h : SemaphoreInv permits queue creates) {permits' : Nat} (hle : permits' ≤ permits) :
    SemaphoreInv permits' queue creates :=
  ⟨h.mem_queue, h.nodup, h.assigned_head, fun hq => by have := h.permits_eq_zero hq; omega⟩

theorem append_start (h : SemaphoreInv permits queue creates) :
    SemaphoreInv permits queue (creates ++ [⟨.start, []⟩]) where
  mem_queue j := by
    rw [h.mem_queue j]
    constructor
    · rintro ⟨x, hx, hxw⟩
      exact ⟨x, getElem?_append_of_getElem? hx _, hxw⟩
    · rintro ⟨x, hx, hxw⟩
      rcases getElem?_append_singleton hx with hx | rfl
      · exact ⟨x, hx, hxw⟩
      · simp [CreateState.isWaiting] at hxw
  nodup := h.nodup
  assigned_head j x hx hpos := by
    rcases getElem?_append_singleton hx with hx | rfl
    · exact h.assigned_head j x hx hpos
    · simp [CreateState.assigned] at hpos
  permits_eq_zero := h.permits_eq_zero

/-- An acquisition that cannot be served at once takes every available permit and joins the
end of the wait list. -/
theorem enqueue (h : SemaphoreInv permits queue creates) {i : Nat} {c : Create}
    (hc : creates[i]? = some c) (hw : c.state.isWaiting = false) (permit : Option Nat)
    (units : Nat) (samples : List UInt64) :
    SemaphoreInv 0 (queue ++ [i]) (creates.set i ⟨.waiting permit units permits, samples⟩) where
  mem_queue j := by
    rw [List.mem_append, h.mem_queue j, exists_waiting_set hc, List.mem_singleton]
    split
    · next hij => subst hij; simp [hc, hw, CreateState.isWaiting]
    · next hij => simp [Ne.symm hij]
  nodup := by
    refine List.nodup_append.mpr ⟨h.nodup, List.nodup_singleton i, fun j hj hk => ?_⟩
    rw [List.mem_singleton] at hk
    subst hk
    obtain ⟨x, hx, hxw⟩ := (h.mem_queue j).mp hj
    rw [hc] at hx
    cases hx
    simp [hw] at hxw
  assigned_head j x hx hpos := by
    rw [List.getElem?_set'] at hx
    split at hx
    · next hij =>
      subst hij
      simp only [hc, Option.map_eq_map, Option.map_some', Function.const_apply,
        Option.some.injEq] at hx
      subst hx
      have hq : queue = [] := by
        by_contra hne
        have := h.permits_eq_zero hne
        simp [CreateState.assigned, this] at hpos
      simp [hq]
    · have hhead := h.assigned_head j x hx hpos
      have hne : queue ≠ [] := by rintro rfl; simp at hhead
      obtain ⟨k, rest, rfl⟩ := List.exists_cons_of_ne_nil hne
      simpa using hhead
  permits_eq_zero _ := rfl

/-- A blocked call leaves the wait list and stops waiting. -/
theorem dequeue (h : SemaphoreInv permits queue creates) {i : Nat} {c c' : Create}
    (hc : creates[i]? = some c) (hw' : c'.state.isWaiting = false) :
    SemaphoreInv permits (queue.erase i) (creates.set i c') where
  mem_queue j := by
    rw [h.nodup.mem_erase_iff, h.mem_queue j, exists_waiting_set hc]
    split
    · next hij => subst hij; simp [hw']
    · next hij => simp [Ne.symm hij]
  nodup := h.nodup.erase i
  assigned_head j x hx hpos := by
    rw [List.getElem?_set'] at hx
    split at hx
    · next hij =>
      subst hij
      simp only [hc, Option.map_eq_map, Option.map_some', Function.const_apply,
        Option.some.injEq] at hx
      subst hx
      simp [CreateState.assigned_pos_isWaiting hpos] at hw'
    · next hij =>
      have hhead := h.assigned_head j x hx hpos
      have hne : queue ≠ [] := by rintro rfl; simp at hhead
      obtain ⟨k, rest, rfl⟩ := List.exists_cons_of_ne_nil hne
      simp only [List.head?_cons, Option.some.injEq] at hhead
      subst hhead
      simp [List.erase_cons, Ne.symm hij]
  permits_eq_zero hq := h.permits_eq_zero fun h' => hq (by simp [h'])

/-- Released permits complete the oldest waiters and are assigned to the next one. -/
theorem assignPermits :
    ∀ (rem : Nat) {permits : Nat} {queue : List Nat} {creates : List Create},
      SemaphoreInv permits queue creates →
      SemaphoreInv (permits + (Throttle.assignPermits rem queue creates).1)
        (Throttle.assignPermits rem queue creates).2.1 (Throttle.assignPermits rem queue creates).2.2
  | rem, permits, [], creates, h =>
    ⟨h.mem_queue, h.nodup, h.assigned_head, fun hq => absurd rfl hq⟩
  | rem, permits, i :: queue, creates, h => by
    have hi : i ∉ queue := (List.nodup_cons.mp h.nodup).1
    unfold Throttle.assignPermits
    split
    · next permit units assigned samples hc =>
      split
      · refine assignPermits _ ⟨fun j => ?_, (List.nodup_cons.mp h.nodup).2, fun j x hx hpos => ?_,
          fun _ => h.permits_eq_zero (List.cons_ne_nil _ _)⟩
        · rw [exists_waiting_set hc]
          split
          · next hij => subst hij; simp [hi]
          · next hij => rw [← h.mem_queue j, List.mem_cons]; simp [Ne.symm hij]
        · rw [List.getElem?_set'] at hx
          split at hx
          · next hij =>
            subst hij
            simp only [hc, Option.map_eq_map, Option.map_some', Function.const_apply,
              Option.some.injEq] at hx
            subst hx
            simp at hpos
          · next hij => exact absurd (by simpa using h.assigned_head j x hx hpos) hij
      · refine ⟨fun j => ?_, h.nodup, fun j x hx hpos => ?_, fun hq => h.permits_eq_zero hq⟩
        · rw [exists_waiting_set hc]
          split
          · next hij => subst hij; simp [CreateState.isWaiting]
          · next hij => rw [← h.mem_queue j]
        · rw [List.getElem?_set'] at hx
          split at hx
          · next hij => subst hij; rfl
          · exact h.assigned_head j x hx hpos
    · next hnot =>
      obtain ⟨c, hc, hw⟩ := (h.mem_queue i).mp (List.mem_cons_self i queue)
      obtain ⟨permit, units, assigned, hs⟩ := CreateState.isWaiting_eq_true.mp hw
      exact absurd (by rw [hc, ← hs]) (hnot permit units assigned c.samples)

end SemaphoreInv

variable {throttle : MakeThrottledConnection}

theorem Step.semaphoreInv {st st' : ThrottleState} (hstep : Step throttle st st')
    (h : SemaphoreInv st.permits st.queue st.creates) :
    SemaphoreInv st'.permits st'.queue st'.creates := by
  cases hstep with
  | call => exact h.append_start
  | sample i gauge hc => exact h.set hc rfl rfl
  | count i units hc => exact h.set hc rfl rfl
  | check i units hc => split <;> exact h.set hc rfl rfl
  | poll i permit units hc =>
    unfold acquireManyOwned
    split
    · exact (h.set hc rfl (CreateState.isWaiting_grant _ _)).mono (Nat.sub_le _ _)
    · exact h.enqueue hc rfl _ _ _
  | resample i permit gauge hc => exact h.set hc rfl (by split <;> rfl)
  | timeout i permit units assigned ht hc =>
    unfold abandon
    cases permit <;> exact (h.dequeue hc (by rfl)).assignPermits _
  | cancel i permit units assigned hc =>
    unfold abandon
    cases permit <;> exact (h.dequeue hc (by rfl)).assignPermits _
  | cancelFactory i permit hc => exact h.set hc rfl rfl
  | connect i permit hc => exact h.set hc rfl rfl
  | factoryError i permit hc => exact h.set hc rfl rfl
  | release i permit outcome hc => exact (h.set hc rfl (by rfl)).assignPermits _
  | exit i outcome hc => exact h.set hc rfl rfl
  | drop j conn hc => exact h.assignPermits _

theorem Reachable.semaphoreInv {st : ThrottleState} (hreach : Reachable throttle st) :
    SemaphoreInv st.permits st.queue st.creates := by
  induction hreach with
  | init => exact ⟨fun i => by simp [ThrottleState.new], List.nodup_nil,
      fun i c hc => by simp [ThrottleState.new] at hc, fun h => absurd rfl h⟩
  | step _ hstep ih => exact hstep.semaphoreInv ih

/-! ## The waiters counter -/

/-- `waiters` counts the calls that hold a `WaitersGuard`, and at most 127 calls are past the
check. -/
structure WaitersInv (waiters : Nat) (creates : List Create) : Prop where
  waiters_eq : waiters = creates.countP (·.state.guarded)
  admitted_le : creates.countP (·.state.admitted) ≤ 127

theorem countP_assignPermits (f : CreateState → Bool) (hw : ∀ p u a, f (.waiting p u a) = true)
    (hg : ∀ p u, f (.grant p u) = true) :
    ∀ (rem : Nat) (queue : List Nat) (creates : List Create),
      (assignPermits rem queue creates).2.2.countP (f ·.state) = creates.countP (f ·.state)
  | rem, [], creates => rfl
  | rem, i :: queue, creates => by
    unfold assignPermits
    split
    · next permit units assigned samples hc =>
      split
      · rw [countP_assignPermits f hw hg]
        have := countP_set_add (f ·.state) ⟨.grant permit units, samples⟩ hc
        simp only [hw, hg, if_true] at this
        omega
      · have := countP_set_add (f ·.state) ⟨.waiting permit units (assigned + rem), samples⟩ hc
        simp only [hw, if_true] at this
        dsimp only
        omega
    · exact countP_assignPermits f hw hg rem queue creates

namespace WaitersInv

variable {waiters : Nat} {creates : List Create}

theorem assignPermits (h : WaitersInv waiters creates) (rem : Nat) (queue : List Nat) :
    WaitersInv waiters (Throttle.assignPermits rem queue creates).2.2 := by
  refine ⟨?_, ?_⟩
  · rw [countP_assignPermits _ (fun _ _ _ => rfl) CreateState.guarded_grant]
    exact h.waiters_eq
  · rw [countP_assignPermits _ (fun _ _ _ => rfl) CreateState.admitted_grant]
    exact h.admitted_le

/-- A call moves to a state that is not newly past the check, and `waiters` follows its guard. -/
theorem set (h : WaitersInv waiters creates) {i : Nat} {c : Create} (hc : creates[i]? = some c)
    (c' : Create) {waiters' : Nat}
    (hg : waiters' + c.state.guarded.toNat = waiters + c'.state.guarded.toNat)
    (ha : c'.state.admitted = true → c.state.admitted = true) :
    WaitersInv waiters' (creates.set i c') := by
  have h1 := countP_set_eq_add (·.state.guarded) hc c' c.state.guarded c'.state.guarded rfl rfl
  have h2 := countP_set_eq_add (·.state.admitted) hc c' c.state.admitted c'.state.admitted rfl rfl
  have := h.admitted_le
  refine ⟨?_, ?_⟩
  · rw [h.waiters_eq] at hg
    omega
  · cases hc' : c'.state.admitted
    · rw [hc'] at h2; simp only [Bool.toNat_false] at h2; omega
    · rw [hc', ha hc'] at h2; omega

theorem abandon {st : ThrottleState} (h : WaitersInv st.waiters st.creates) {i : Nat}
    {permit : Option Nat} {units assigned : Nat} {samples : List UInt64}
    (hc : st.creates[i]? = some ⟨.waiting permit units assigned, samples⟩) (outcome : CreateOutcome) :
    WaitersInv (st.abandon i permit assigned samples outcome).waiters
      (st.abandon i permit assigned samples outcome).creates := by
  unfold ThrottleState.abandon
  cases permit
  · exact (h.set hc ⟨.exiting outcome, samples⟩ rfl (fun _ => rfl)).assignPermits _ _
  · exact (h.set hc ⟨.dropping _ outcome, samples⟩ rfl (fun _ => rfl)).assignPermits _ _

end WaitersInv

theorem Step.waitersInv {st st' : ThrottleState} (hstep : Step throttle st st')
    (h : WaitersInv st.waiters st.creates) : WaitersInv st'.waiters st'.creates := by
  cases hstep with
  | call =>
    exact ⟨by simp [h.waiters_eq, CreateState.guarded],
      by simpa [CreateState.admitted] using h.admitted_le⟩
  | sample i gauge hc => exact h.set hc _ rfl (fun _ => by assumption)
  | count i units hc => exact h.set hc _ rfl nofun
  | check i units hc =>
    rename_i samples
    split
    · exact h.set hc ⟨.exiting .tooManyRequests, samples⟩ rfl
        (fun h => by simp [CreateState.admitted] at h)
    · next hroom =>
      have hg :=
        countP_set_eq_add (·.state.guarded) hc ⟨.polling none units, samples⟩ true true rfl rfl
      rw [h.waiters_eq] at hroom
      simp only [Bool.toNat_true] at hg
      refine ⟨by simp only [setCreate_waiters, setCreate_creates, h.waiters_eq]; omega, ?_⟩
      simp only [setCreate_creates]
      exact (List.countP_mono_left fun c _ hc => CreateState.admitted_guarded hc).trans (by omega)
  | poll i permit units hc =>
    rename_i samples
    unfold acquireManyOwned
    split
    · exact h.set hc ⟨.grant permit units, samples⟩ (by rw [CreateState.guarded_grant]; rfl)
        (fun _ => rfl)
    · exact h.set hc ⟨.waiting permit units st.permits, samples⟩ rfl (fun _ => rfl)
  | resample i permit gauge hc => exact h.set hc _ (by split <;> rfl) (fun _ => rfl)
  | timeout i permit units assigned ht hc => exact h.abandon hc _
  | cancel i permit units assigned hc => exact h.abandon hc _
  | cancelFactory i permit hc => exact h.set hc _ rfl (fun _ => rfl)
  | connect i permit hc => exact h.set hc _ rfl (fun _ => rfl)
  | factoryError i permit hc => exact h.set hc _ rfl (fun _ => rfl)
  | release i permit outcome hc =>
    rename_i samples
    exact (h.set hc ⟨.exiting outcome, samples⟩ rfl (fun _ => rfl)).assignPermits _ _
  | exit i outcome hc =>
    have : 0 < st.waiters := h.waiters_eq ▸ List.countP_pos_iff.2 ⟨_, List.getElem?_mem hc, rfl⟩
    exact h.set hc _ (by simp only [CreateState.guarded, Bool.toNat_true, Bool.toNat_false]; omega)
      nofun
  | drop j conn hc => exact h.assignPermits _ _

theorem Reachable.waitersInv {st : ThrottleState} (hreach : Reachable throttle st) :
    WaitersInv st.waiters st.creates := by
  induction hreach with
  | init => exact ⟨rfl, by simp [ThrottleState.new]⟩
  | step _ hstep ih => exact hstep.waitersInv ih

/-- In every run, whatever path each `create` call takes (`TooManyRequests`,
`DbCreateTimeout`, a factory error, success, or a drop at an `await`): `waiters` is the number
of calls between `WaitersGuard::new` and the guard's drop, so a call that exits finds it
positive and it is `0` whenever no call is in flight; and fewer than 128 calls that passed the
check are in flight. -/
theorem waiters_counts_guarded_calls {st : ThrottleState} (hreach : Reachable throttle st) :
    st.waiters = st.creates.countP (·.state.guarded) ∧
    (∀ (i : Nat) (outcome : CreateOutcome) (samples : List UInt64),
      st.creates[i]? = some ⟨.exiting outcome, samples⟩ → 0 < st.waiters) ∧
    ((∀ c ∈ st.creates, ¬ c.state.InFlight) → st.waiters = 0) ∧
    st.creates.countP (·.state.admitted) < 128 := by
  have h := hreach.waitersInv
  refine ⟨h.waiters_eq, fun i outcome samples hc => ?_, fun hidle => ?_, by
    have := h.admitted_le; omega⟩
  · exact h.waiters_eq ▸ List.countP_pos_iff.2 ⟨_, List.getElem?_mem hc, rfl⟩
  · rw [h.waiters_eq, List.countP_eq_zero]
    exact fun c hc hg => hidle c hc (CreateState.inFlight_of_guarded hg)

/-- A call that has counted itself, with the gauge at `0`. -/
def countedState : ThrottleState := ⟨16, [], 1, [⟨.counted 1, [0]⟩], []⟩

theorem waiters_counts_guarded_calls_counted :
    Reachable ⟨16, none, 0⟩ countedState ∧
      (countedState.waiters = countedState.creates.countP (·.state.guarded) ∧
      (∀ (i : Nat) (outcome : CreateOutcome) (samples : List UInt64),
        countedState.creates[i]? = some ⟨.exiting outcome, samples⟩ → 0 < countedState.waiters) ∧
      ((∀ c ∈ countedState.creates, ¬ c.state.InFlight) → countedState.waiters = 0) ∧
      countedState.creates.countP (·.state.admitted) < 128) := by
  have h1 := (Reachable.init : Reachable ⟨16, none, 0⟩ _).step (.call _)
  have h2 := h1.step (.sample _ 0 0 rfl)
  have h3 : Reachable ⟨16, none, 0⟩ countedState := h2.step (.count _ 0 _ rfl)
  exact ⟨h3, waiters_counts_guarded_calls h3⟩

/-! ## Deadlock -/

/-- At least one call is in flight, every call in flight is blocked in `acquire_many_owned` on
more than the available permits, and no connection is alive to release any. -/
def ThrottleState.Deadlocked (st : ThrottleState) : Prop :=
  (∃ c ∈ st.creates, c.state.InFlight) ∧
  (∀ c ∈ st.creates, c.state.InFlight →
    ∃ permit units assigned, c.state = .waiting permit units assigned ∧
      st.permits < units - assigned) ∧
  st.connections = []

/-- A throttler of 16 permits, with no timeout, under a gauge reading above half of a zero
response budget. -/
def smallThrottle : MakeThrottledConnection := ⟨16, none, 0⟩

/-- One call took all 16 permits, re-sampled the gauge and waits for 16 more. -/
def selfBlockedState : ThrottleState := ⟨0, [0], 1, [⟨.waiting (some 16) 16 0, [1, 1]⟩], []⟩

theorem smallThrottle_selfBlocked : Reachable smallThrottle selfBlockedState := by
  have h1 := (Reachable.init : Reachable smallThrottle _).step (.call _)
  have h2 := h1.step (.sample _ 0 1 rfl)
  have h3 := h2.step (.count _ 0 _ rfl)
  have h4 := h3.step (.check _ 0 _ rfl)
  have h5 := h4.step (.poll _ 0 none 16 rfl)
  have h6 := h5.step (.resample _ 0 16 1 rfl)
  exact h6.step (.poll _ 0 (some 16) 16 rfl)

/-- A semaphore of 16 permits deadlocks, with no connection alive and no timeout. -/
theorem sixteen_permits_deadlock :
    ¬ ∀ (throttle : MakeThrottledConnection), 16 ≤ throttle.concurrency →
      ∀ st, Reachable throttle st → ¬ st.Deadlocked := by
  intro h
  refine h smallThrottle le_rfl _ smallThrottle_selfBlocked
    ⟨⟨_, List.mem_singleton_self _, trivial⟩, fun c hc _ => ?_, rfl⟩
  rw [List.mem_singleton.mp hc]
  exact ⟨_, _, _, rfl, by decide⟩

theorem Create.Traced.waiting_le {c : Create} (h : c.Traced throttle) {permit : Option Nat}
    {units assigned : Nat} (hs : c.state = .waiting permit units assigned) :
    permit.getD 0 ≤ 16 ∧ assigned < units ∧ units ≤ 16 := by
  obtain ⟨state, samples⟩ := c
  dsimp only at hs
  subst hs
  rcases samples with _ | ⟨r1, _ | ⟨r2, _ | _⟩⟩ <;> cases permit <;> simp only [Create.Traced] at h
  · obtain ⟨rfl, ha⟩ := h
    exact ⟨Nat.zero_le _, ha, throttle.unitsToTake_le r1⟩
  · obtain ⟨rfl, rfl, -, ha⟩ := h
    exact ⟨throttle.unitsToTake_le r1, ha, throttle.unitsToTake_le r2⟩

/-- With 2048 permits or more the throttler never deadlocks: the calls blocked in a
deadlock hold at most 127 first permits of 16 units and 15 assigned units. -/
theorem no_deadlock_of_concurrency_ge (hN : 2048 ≤ throttle.concurrency) {st : ThrottleState}
    (hreach : Reachable throttle st) : ¬ st.Deadlocked := by
  rintro ⟨⟨c0, hc0, hfl0⟩, hblocked, hconn⟩
  have hinv := hreach.inv
  have hsem := hreach.semaphoreInv
  have hwait := hreach.waitersInv
  -- a blocked call is in the wait list, so no permit is available
  obtain ⟨p0, u0, a0, hs0, -⟩ := hblocked c0 hc0 hfl0
  obtain ⟨i0, hi0⟩ := List.mem_iff_getElem?.mp hc0
  have hq : st.queue ≠ [] := fun hq => by
    simpa [hq] using (hsem.mem_queue i0).mpr ⟨c0, hi0, by simp [hs0, CreateState.isWaiting]⟩
  have hp : st.permits = 0 := hsem.permits_eq_zero hq
  -- each call holds at most its first permit, if past the check, and what it was assigned
  have hheld : (st.creates.map (·.state.held)).sum ≤
      16 * st.creates.countP (·.state.admitted) + (st.creates.map (·.state.assigned)).sum := by
    refine sum_map_le_countP _ _ _ 16 _ fun c hc => ?_
    by_cases hfl : c.state.InFlight
    · obtain ⟨p, u, a, hs, -⟩ := hblocked c hc hfl
      have := ((hinv.traced c hc).waiting_le hs).1
      simp only [hs, CreateState.held_waiting, CreateState.assigned, CreateState.admitted,
        Bool.toNat_true]
      omega
    · simp [CreateState.held_eq_zero_of_not_inFlight hfl]
  -- only the oldest waiter has been assigned permits, less than 16
  have hassigned : (st.creates.map (·.state.assigned)).sum ≤ 15 := by
    refine sum_le_of_unique_pos _ 15 _ (fun c hc => ?_) fun i j x y hx hy px py => ?_
    · cases hs : c.state with
      | waiting p u a =>
        have := (hinv.traced c hc).waiting_le hs
        simp only [CreateState.assigned]; omega
      | _ => simp [CreateState.assigned]
    · have := (hsem.assigned_head i x hx px).symm.trans (hsem.assigned_head j y hy py)
      simpa using this
  have hcount := hwait.admitted_le
  have htotal := hinv.conserved
  simp only [total, hconn, hp, List.map_nil, List.sum_nil] at htotal
  omega

/-! ## Deadlock below 2048 permits -/

section Construction

variable {gauge : UInt64} {p k : Nat} {cs : List Create}

/-- A call that took a first permit of 16 units, read a high gauge again and is about to ask
for 16 more. -/
def repolling (gauge : UInt64) : Create := ⟨.polling (some 16) 16, [gauge, gauge]⟩

/-- One more call reads a high gauge and passes the check. -/
theorem Reachable.passCheck (hg : throttle.unitsToTake gauge = 16)
    (h : Reachable throttle ⟨p, [], k, cs, []⟩) (hlen : cs.length = k) (hk : k < 127) :
    Reachable throttle ⟨p, [], k + 1, cs ++ [⟨.polling none 16, [gauge]⟩], []⟩ := by
  have hget : ∀ x : Create, (cs ++ [x])[k]? = some x := fun x => by subst hlen; simp
  have hset : ∀ x y : Create, (cs ++ [x]).set k y = cs ++ [y] := fun x y => by subst hlen; simp
  have h2 : Reachable throttle ⟨p, [], k, cs ++ [⟨.sampled 16, [gauge]⟩], []⟩ := by
    simpa [setCreate, hset, hg] using (h.step (.call _)).step (.sample _ k gauge (hget _))
  have h3 : Reachable throttle ⟨p, [], k + 1, cs ++ [⟨.counted 16, [gauge]⟩], []⟩ := by
    simpa [setCreate, hset] using h2.step (.count _ k 16 (hget _))
  simpa [setCreate, hset, show ¬ 128 ≤ k + 1 by omega] using h3.step (.check _ k 16 (hget _))

/-- One more call reads a high gauge, passes the check, takes 16 permits, reads a high gauge
again and is about to ask for 16 more. -/
theorem Reachable.prime (hg : throttle.unitsToTake gauge = 16)
    (h : Reachable throttle ⟨p, [], k, cs, []⟩) (hlen : cs.length = k) (hp : 16 ≤ p)
    (hk : k < 127) : Reachable throttle ⟨p - 16, [], k + 1, cs ++ [repolling gauge], []⟩ := by
  have hget : ∀ x : Create, (cs ++ [x])[k]? = some x := fun x => by subst hlen; simp
  have hset : ∀ x y : Create, (cs ++ [x]).set k y = cs ++ [y] := fun x y => by subst hlen; simp
  have h5 : Reachable throttle ⟨p - 16, [], k + 1, cs ++ [⟨.acquired 16, [gauge]⟩], []⟩ := by
    have := (h.passCheck hg hlen hk).step (.poll _ k none 16 (hget _))
    rw [acquireManyOwned, if_pos hp] at this
    simpa [setCreate, hset, CreateState.grant] using this
  simpa [setCreate, hset, hg, repolling] using h5.step (.resample _ k 16 gauge (hget _))

/-- `k` calls have each taken 16 permits and are about to ask for 16 more. -/
theorem reachable_primed (hg : throttle.unitsToTake gauge = 16) :
    ∀ k, 16 * k ≤ throttle.concurrency → k ≤ 127 →
      Reachable throttle
        ⟨throttle.concurrency - 16 * k, [], k, List.replicate k (repolling gauge), []⟩
  | 0, _, _ => by simpa using (Reachable.init : Reachable throttle _)
  | k + 1, hN, hk => by
    rw [List.replicate_succ', show throttle.concurrency - 16 * (k + 1) =
      throttle.concurrency - 16 * k - 16 by omega]
    exact (reachable_primed hg k (by omega) (by omega)).prime hg (List.length_replicate _ _)
      (by omega) (by omega)

/-- `q` primed calls of which the first `k` have asked for their 16 more units and wait; the
oldest was assigned the `r` permits that were left. -/
def waitingCreates (q k r : Nat) (gauge : UInt64) : List Create :=
  (List.range q).map fun j =>
    if j < k then ⟨.waiting (some 16) 16 (if j = 0 then r else 0), [gauge, gauge]⟩
    else repolling gauge

theorem waitingCreates_getElem? {q r : Nat} (hk : k < q) :
    (waitingCreates q k r gauge)[k]? = some (repolling gauge) := by
  simp [waitingCreates, hk]

theorem waitingCreates_set {q r : Nat} :
    (waitingCreates q k r gauge).set k
        ⟨.waiting (some 16) 16 (if k = 0 then r else 0), [gauge, gauge]⟩ =
      waitingCreates q (k + 1) r gauge := by
  refine List.ext_getElem? fun j => ?_
  have hnone : ¬ j < q → (List.range q)[j]? = none :=
    fun hj => List.getElem?_eq_none (by simpa using hj)
  rw [List.getElem?_set]
  by_cases hkj : k = j
  · subst hkj
    by_cases hk : k < q
    · simp [waitingCreates, hk]
    · simp [waitingCreates, hk, hnone hk]
  · by_cases hj : j < q
    · simp only [hkj, if_false, waitingCreates, List.getElem?_map, List.getElem?_range hj,
        Option.map_some']
      by_cases hjk : j < k
      · simp [hjk, show j < k + 1 by omega]
      · simp [hjk, show ¬ j < k + 1 by omega]
    · simp [hkj, waitingCreates, hnone hj]

/-- The primed calls ask for their 16 more units one after the other. -/
theorem reachable_waiting {q r : Nat} (hr : r < 16)
    (h0 : Reachable throttle ⟨r, [], q, List.replicate q (repolling gauge), []⟩) :
    ∀ k, k ≤ q →
      Reachable throttle ⟨if k = 0 then r else 0, List.range k, q, waitingCreates q k r gauge, []⟩
  | 0, _ => by simpa [waitingCreates, List.map_const'] using h0
  | k + 1, hk => by
    have := (reachable_waiting hr h0 k (by omega)).step
      (.poll _ k (some 16) 16 (waitingCreates_getElem? (by omega)))
    rw [acquireManyOwned, if_neg (show ¬ 16 ≤ if k = 0 then r else 0 by split <;> omega)] at this
    simpa [setCreate, waitingCreates_set, List.range_succ] using this

end Construction

/-- Below 2048 permits the throttler deadlocks once the gauge reads high: `N / 16` calls each
take 16 permits and then wait for 16 more, the oldest assigned the `N % 16` left over; with
fewer than 16 permits, one call waits for its first 16. -/
theorem deadlock_reachable_of_concurrency_lt {gauge : UInt64}
    (hg : throttle.unitsToTake gauge = 16) (hN : throttle.concurrency < 2048) :
    ∃ st, Reachable throttle st ∧ st.Deadlocked := by
  by_cases hsmall : throttle.concurrency < 16
  · have h1 := ((Reachable.init : Reachable throttle _).passCheck hg rfl (by omega)).step
      (.poll _ 0 none 16 rfl)
    rw [acquireManyOwned, if_neg (by simpa using hsmall)] at h1
    refine ⟨_, h1, ⟨_, List.mem_singleton_self _, trivial⟩, fun c hc _ => ?_, rfl⟩
    rw [List.mem_singleton.1 hc]
    exact ⟨none, 16, throttle.concurrency, rfl, by simp; omega⟩
  · have hq : 0 < throttle.concurrency / 16 := Nat.div_pos (by omega) (by decide)
    have h0 := reachable_primed hg (throttle.concurrency / 16) (Nat.mul_div_le _ _) (by omega)
    rw [show throttle.concurrency - 16 * (throttle.concurrency / 16) =
      throttle.concurrency % 16 by omega] at h0
    have h := reachable_waiting (Nat.mod_lt _ (by decide)) h0 _ le_rfl
    rw [if_neg (by omega)] at h
    refine ⟨_, h, ⟨_, List.mem_map.2 ⟨0, List.mem_range.2 hq, rfl⟩, ?_⟩, fun c hc _ => ?_, rfl⟩
    · simp [hq, CreateState.InFlight]
    · obtain ⟨j, hj, rfl⟩ := List.mem_map.1 hc
      simp only [List.mem_range.1 hj, if_true]
      exact ⟨_, _, _, rfl, by split <;> omega⟩

/-- The throttler is free of deadlock exactly when it has 2048 permits or more, for every
response budget under which the gauge can read high. -/
theorem deadlock_free_iff_concurrency_ge (hg : ∃ gauge, throttle.unitsToTake gauge = 16) :
    (∀ st, Reachable throttle st → ¬ st.Deadlocked) ↔ 2048 ≤ throttle.concurrency := by
  refine ⟨fun h => Nat.le_of_not_lt fun hN => ?_, fun hN _ => no_deadlock_of_concurrency_ge hN⟩
  obtain ⟨st, hreach, hdead⟩ := deadlock_reachable_of_concurrency_lt hg.choose_spec hN
  exact h st hreach hdead

/-- A throttler of 2048 permits, with no timeout and a zero response budget. -/
def largeThrottle : MakeThrottledConnection := ⟨2048, none, 0⟩

theorem deadlock_free_iff_concurrency_ge_large :
    (∃ gauge, largeThrottle.unitsToTake gauge = 16) ∧
      ((∀ st, Reachable largeThrottle st → ¬ st.Deadlocked) ↔
        2048 ≤ largeThrottle.concurrency) :=
  ⟨⟨1, by decide⟩, deadlock_free_iff_concurrency_ge ⟨1, by decide⟩⟩

end Throttle
end Sqld
