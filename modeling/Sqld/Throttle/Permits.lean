import Sqld.Throttle.Machine
import Sqld.ListFacts

/-!
# Every permit is accounted for, and what a connection holds

The invariant `Inv` of every reachable throttler state says

* the available permits, the permits the `create` calls hold (their first permit and what their
  pending acquisition was assigned) and the permits of the live connections add up to the
  semaphore's `concurrency`: no path of `create`, error paths and drops included, loses or
  duplicates a permit;
* each call's locals are the unit costs its gauge samples give, and a pending acquisition has
  been assigned less than it asks for;
* a connection made from gauge samples `r1`, `r2` holds `unitsToTake r1` units, plus
  `unitsToTake r2` when that is above 1: the re-sample acquires its whole cost again on top of
  the first permit.

`assignPermits` moves permits from the released count to the waiters one by one, so the
conservation law holds through it (`assignPermits_conserves`).
-/

namespace Sqld
namespace Throttle

open ThrottleState

/-- The units the permit of a connection holds when its `create` call read the gauge values
`r1` and `r2`. -/
def MakeThrottledConnection.permitUnits (throttle : MakeThrottledConnection)
    (r1 r2 : UInt64) : Nat :=
  throttle.unitsToTake r1 + if throttle.unitsToTake r2 > 1 then throttle.unitsToTake r2 else 0

/-- A pending acquisition has been assigned less than it asks for. -/
def CreateState.WellAssigned : CreateState → Prop
  | .waiting _ units assigned => assigned < units
  | _ => True

/-- A call's locals are what its gauge samples give: the unit cost of the first sample until
the first permit is held, then the cost of the second, and the merged permit after both. -/
def Create.Traced (throttle : MakeThrottledConnection) (c : Create) : Prop :=
  match c.state, c.samples with
  | .start, samples => samples = []
  | .sampled units, [r1] | .counted units, [r1] | .polling none units, [r1] =>
      units = throttle.unitsToTake r1
  | .waiting none units assigned, [r1] => units = throttle.unitsToTake r1 ∧ assigned < units
  | .acquired permit, [r1] => permit = throttle.unitsToTake r1
  | .polling (some permit) units, [r1, r2] =>
      permit = throttle.unitsToTake r1 ∧ units = throttle.unitsToTake r2 ∧ 1 < units
  | .waiting (some permit) units assigned, [r1, r2] =>
      permit = throttle.unitsToTake r1 ∧ units = throttle.unitsToTake r2 ∧ 1 < units ∧
        assigned < units
  | .connecting permit, [r1, r2] => permit = throttle.permitUnits r1 r2
  | .dropping .., _ | .exiting _, _ | .finished _, _ => True
  | _, _ => False

/-- A live connection holds the merged permit of the gauge values its call read. -/
def TrackedConnection.Traced (throttle : MakeThrottledConnection) (conn : TrackedConnection) :
    Prop :=
  ∃ r1 r2, conn.samples = [r1, r2] ∧ conn.permit = throttle.permitUnits r1 r2

/-- The permits of the semaphore, of the calls and of the live connections. -/
def ThrottleState.total (st : ThrottleState) : Nat :=
  st.permits + (st.creates.map (·.state.held)).sum + (st.connections.map (·.permit)).sum

variable {throttle : MakeThrottledConnection}

theorem CreateState.held_eq_zero_of_not_inFlight {s : CreateState} (h : ¬ s.InFlight) :
    s.held = 0 := by
  cases s <;> simp_all [InFlight, held]

theorem Create.Traced.wellAssigned {c : Create} (h : c.Traced throttle) : c.state.WellAssigned := by
  rcases c with ⟨_ | _ | _ | _ | ⟨_ | _, _, _⟩ | _ | _ | _ | _ | _, _ | ⟨_, _ | ⟨_, _ | _⟩⟩⟩ <;>
    simp only [Traced, CreateState.WellAssigned] at h ⊢ <;> omega

theorem TrackedConnection.Traced.one_le {conn : TrackedConnection} (h : conn.Traced throttle) :
    1 ≤ conn.permit := by
  obtain ⟨r1, r2, -, hp⟩ := h
  have := throttle.unitsToTake_pos r1
  rw [hp, MakeThrottledConnection.permitUnits]; omega

section Traced

variable {permit : Option Nat} {units assigned : Nat} {samples : List UInt64}

theorem Create.traced_waiting (h : (⟨.polling permit units, samples⟩ : Create).Traced throttle)
    (ha : assigned < units) : (⟨.waiting permit units assigned, samples⟩ : Create).Traced throttle := by
  rcases samples with _ | ⟨r1, _ | ⟨r2, _ | _⟩⟩ <;> cases permit <;>
    simp only [Traced] at h ⊢ <;> omega

theorem Create.traced_rewaiting {assigned' : Nat}
    (h : (⟨.waiting permit units assigned, samples⟩ : Create).Traced throttle)
    (ha : assigned' < units) :
    (⟨.waiting permit units assigned', samples⟩ : Create).Traced throttle := by
  rcases samples with _ | ⟨r1, _ | ⟨r2, _ | _⟩⟩ <;> cases permit <;>
    simp only [Traced] at h ⊢ <;> omega

theorem Create.traced_counted (h : (⟨.sampled units, samples⟩ : Create).Traced throttle) :
    (⟨.counted units, samples⟩ : Create).Traced throttle := by
  rcases samples with _ | ⟨_, _ | _⟩ <;> exact h

theorem Create.traced_polling (h : (⟨.counted units, samples⟩ : Create).Traced throttle) :
    (⟨.polling none units, samples⟩ : Create).Traced throttle := by
  rcases samples with _ | ⟨_, _ | _⟩ <;> exact h

theorem Create.traced_grant_of_polling
    (h : (⟨.polling permit units, samples⟩ : Create).Traced throttle) :
    (⟨.grant permit units, samples⟩ : Create).Traced throttle := by
  rcases samples with _ | ⟨r1, _ | ⟨r2, _ | _⟩⟩ <;> cases permit <;>
    simp only [Traced, CreateState.grant, MakeThrottledConnection.permitUnits] at h ⊢ <;> aesop

theorem Create.traced_grant
    (h : (⟨.waiting permit units assigned, samples⟩ : Create).Traced throttle) :
    (⟨.grant permit units, samples⟩ : Create).Traced throttle := by
  rcases samples with _ | ⟨r1, _ | ⟨r2, _ | _⟩⟩ <;> cases permit <;>
    simp only [Traced, CreateState.grant, MakeThrottledConnection.permitUnits] at h ⊢ <;> aesop

end Traced

/-! ## Releasing permits -/

theorem assignPermits_conserves :
    ∀ (rem : Nat) (queue : List Nat) (creates : List Create),
      (∀ c ∈ creates, c.state.WellAssigned) →
      (assignPermits rem queue creates).1 +
          ((assignPermits rem queue creates).2.2.map (·.state.held)).sum =
        rem + (creates.map (·.state.held)).sum
  | rem, [], creates, _ => rfl
  | rem, i :: queue, creates, hw => by
    unfold assignPermits
    split
    · next permit units assigned samples hc =>
      have hlt : assigned < units := hw _ (List.getElem?_mem hc)
      split
      · have hset := sum_map_set (·.state.held) ⟨.grant permit units, samples⟩ hc
        have hg : (⟨.grant permit units, samples⟩ : Create).state.WellAssigned := by
          cases permit <;> exact trivial
        have ih := assignPermits_conserves (rem - (units - assigned)) queue _
          (forall_mem_set hw i hg)
        simp only [CreateState.held_grant, CreateState.held_waiting] at hset ih ⊢
        omega
      · have hset := sum_map_set (·.state.held) ⟨.waiting permit units (assigned + rem), samples⟩ hc
        simp only [CreateState.held_waiting] at hset ⊢
        omega
    · exact assignPermits_conserves rem queue creates hw

theorem assignPermits_traced :
    ∀ (rem : Nat) (queue : List Nat) (creates : List Create),
      (∀ c ∈ creates, c.Traced throttle) →
      ∀ c ∈ (assignPermits rem queue creates).2.2, c.Traced throttle
  | rem, [], creates, h => h
  | rem, i :: queue, creates, h => by
    unfold assignPermits
    split
    · next permit units assigned samples hc =>
      have hi := h _ (List.getElem?_mem hc)
      split
      · exact assignPermits_traced _ queue _ (forall_mem_set h i (Create.traced_grant hi))
      · exact forall_mem_set h i (Create.traced_rewaiting hi (by omega))
    · exact assignPermits_traced rem queue creates h

theorem total_addPermits {st : ThrottleState} (hw : ∀ c ∈ st.creates, c.state.WellAssigned)
    (rem : Nat) : (st.addPermits rem).total = st.total + rem := by
  have := assignPermits_conserves rem st.queue st.creates hw
  simp only [addPermits, total] at this ⊢
  omega

theorem total_setCreate {st : ThrottleState} {i : Nat} {c : Create} (hc : st.creates[i]? = some c)
    (c' : Create) : (st.setCreate i c').total + c.state.held = st.total + c'.state.held := by
  have := sum_map_set (·.state.held) c' hc
  simp only [setCreate, total] at this ⊢
  omega

theorem traced_addPermits {st : ThrottleState} (h : ∀ c ∈ st.creates, c.Traced throttle)
    (rem : Nat) : ∀ c ∈ (st.addPermits rem).creates, c.Traced throttle :=
  assignPermits_traced rem st.queue st.creates h

/-! ## The invariant -/

/-- What every reachable state of the throttler satisfies. -/
structure Inv (throttle : MakeThrottledConnection) (st : ThrottleState) : Prop where
  /-- No permit is lost or duplicated. -/
  conserved : st.total = throttle.concurrency
  /-- The calls' locals follow their gauge samples. -/
  traced : ∀ c ∈ st.creates, c.Traced throttle
  /-- The connections hold the merged permit of their samples. -/
  connections : ∀ conn ∈ st.connections, conn.Traced throttle

theorem Inv.wellAssigned {st : ThrottleState} (h : Inv throttle st) :
    ∀ c ∈ st.creates, c.state.WellAssigned :=
  fun c hc => (h.traced c hc).wellAssigned

theorem inv_new (throttle : MakeThrottledConnection) :
    Inv throttle (ThrottleState.new throttle.concurrency) :=
  ⟨by simp [ThrottleState.new, total], by simp [ThrottleState.new], by simp [ThrottleState.new]⟩

/-- The waiters counter is not part of the invariant. -/
theorem Inv.setWaiters {st : ThrottleState} (hinv : Inv throttle st) (waiters : Nat) :
    Inv throttle { st with waiters } :=
  ⟨hinv.conserved, hinv.traced, hinv.connections⟩

/-- A call moves to a state that holds as many permits. -/
theorem Inv.setCreate {st : ThrottleState} (hinv : Inv throttle st) {i : Nat} {c c' : Create}
    (h : st.creates[i]? = some c) (htr : c'.Traced throttle) (hheld : c'.state.held = c.state.held) :
    Inv throttle (st.setCreate i c') := by
  refine ⟨?_, forall_mem_set hinv.traced i htr, hinv.connections⟩
  have := total_setCreate h c'
  have := hinv.conserved
  omega

/-- A call takes `k` of the available permits. -/
theorem Inv.setCreate_take {st : ThrottleState} (hinv : Inv throttle st) {i : Nat} {c c' : Create}
    (h : st.creates[i]? = some c) (htr : c'.Traced throttle) (k : Nat) {permits : Nat}
    (hk : permits + k = st.permits) (hheld : c'.state.held = c.state.held + k) (queue : List Nat) :
    Inv throttle { st.setCreate i c' with permits, queue } := by
  refine ⟨?_, forall_mem_set hinv.traced i htr, hinv.connections⟩
  have := total_setCreate h c'
  have := hinv.conserved
  simp only [total, setCreate_permits, setCreate_connections] at *
  omega

/-- A call gives `rem` of its permits back to the semaphore. -/
theorem Inv.setCreate_addPermits {st : ThrottleState} (hinv : Inv throttle st) {i : Nat}
    {c c' : Create} (h : st.creates[i]? = some c) (htr : c'.Traced throttle) {rem : Nat}
    (hheld : c.state.held = c'.state.held + rem) (queue : List Nat) :
    Inv throttle ({ st.setCreate i c' with queue }.addPermits rem) := by
  have hw : ∀ x ∈ ({ st.setCreate i c' with queue } : ThrottleState).creates,
      x.state.WellAssigned :=
    forall_mem_set hinv.wellAssigned i htr.wellAssigned
  refine ⟨?_, traced_addPermits (forall_mem_set hinv.traced i htr) rem, hinv.connections⟩
  rw [total_addPermits hw]
  have := total_setCreate h c'
  have := hinv.conserved
  simp only [total, setCreate_permits, setCreate_connections] at *
  omega

theorem Inv.abandon {st : ThrottleState} (hinv : Inv throttle st) {i : Nat} {permit : Option Nat}
    {units assigned : Nat} {samples : List UInt64}
    (h : st.creates[i]? = some ⟨.waiting permit units assigned, samples⟩) (outcome : CreateOutcome) :
    Inv throttle (st.abandon i permit assigned samples outcome) := by
  unfold ThrottleState.abandon
  cases permit <;> refine hinv.setCreate_addPermits h ?_ ?_ _ <;> simp [Create.Traced]

theorem Inv.step {st st' : ThrottleState} (hinv : Inv throttle st)
    (hstep : Step throttle st st') : Inv throttle st' := by
  cases hstep with
  | call =>
    refine ⟨?_, List.forall_mem_append.mpr ⟨hinv.traced, by simp [Create.Traced]⟩, hinv.connections⟩
    simpa [total] using hinv.conserved
  | sample i gauge h =>
    rename_i samples
    have hi : samples = [] := hinv.traced _ (List.getElem?_mem h)
    subst hi
    exact hinv.setCreate h rfl rfl
  | count i units h =>
    exact (hinv.setCreate h (Create.traced_counted (hinv.traced _ (List.getElem?_mem h)))
      rfl).setWaiters _
  | check i units h =>
    have hi := hinv.traced _ (List.getElem?_mem h)
    split
    · exact hinv.setCreate h trivial rfl
    · exact hinv.setCreate h (Create.traced_polling hi) rfl
  | poll i permit units h =>
    have hi := hinv.traced _ (List.getElem?_mem h)
    unfold acquireManyOwned
    split
    · exact hinv.setCreate_take h (Create.traced_grant_of_polling hi) units (by omega) (by simp) _
    · exact hinv.setCreate_take h (Create.traced_waiting hi (by omega)) st.permits (by omega)
        (by simp) _
  | resample i permit gauge h =>
    rename_i samples
    have hi := hinv.traced _ (List.getElem?_mem h)
    obtain ⟨r1, rfl, rfl⟩ : ∃ r1, samples = [r1] ∧ permit = throttle.unitsToTake r1 := by
      rcases samples with _ | ⟨r1, _ | _⟩ <;> simp only [Create.Traced] at hi
      exact ⟨r1, rfl, hi⟩
    apply hinv.setCreate h
    · split <;> simp_all [Create.Traced, MakeThrottledConnection.permitUnits]
    · split <;> rfl
  | timeout i permit units assigned ht h => exact hinv.abandon h _
  | cancel i permit units assigned h => exact hinv.abandon h _
  | cancelFactory i permit h => exact hinv.setCreate h trivial rfl
  | connect i permit h =>
    rename_i samples
    have hi := hinv.traced _ (List.getElem?_mem h)
    refine ⟨?_, forall_mem_set hinv.traced i trivial, ?_⟩
    · have := total_setCreate h ⟨.exiting .connection, samples⟩
      have := hinv.conserved
      simp only [CreateState.held_connecting, CreateState.held_exiting, total, setCreate_permits,
        setCreate_connections,
        List.map_append, List.sum_append, List.map_cons, List.map_nil, List.sum_cons,
        List.sum_nil] at *
      omega
    · refine List.forall_mem_append.mpr ⟨hinv.connections, ?_⟩
      rcases samples with _ | ⟨r1, _ | ⟨r2, _ | _⟩⟩ <;> simp only [Create.Traced] at hi
      simp only [List.mem_singleton]
      rintro _ rfl
      exact ⟨r1, r2, rfl, hi⟩
  | factoryError i permit h => exact hinv.setCreate h trivial rfl
  | release i permit outcome h =>
    rename_i samples
    exact hinv.setCreate_addPermits h
      (show Create.Traced throttle ⟨.exiting outcome, samples⟩ from trivial) (by simp) _
  | exit i outcome h =>
    rename_i samples
    exact (hinv.setCreate h (show Create.Traced throttle ⟨.finished outcome, samples⟩ from trivial)
      rfl).setWaiters _
  | drop j conn h =>
    have hw : ∀ x ∈ ({ st with connections := st.connections.eraseIdx j } : ThrottleState).creates,
        x.state.WellAssigned :=
      hinv.wellAssigned
    refine ⟨?_, traced_addPermits hinv.traced _,
      fun c hc => hinv.connections c (List.mem_of_mem_eraseIdx hc)⟩
    rw [total_addPermits hw]
    have := sum_map_eraseIdx (·.permit) h
    have := hinv.conserved
    simp only [total] at *
    omega

theorem Reachable.inv {st : ThrottleState} (hreach : Reachable throttle st) : Inv throttle st := by
  induction hreach with
  | init => exact inv_new throttle
  | step _ hstep ih => exact ih.step hstep

/-! ## Conservation of permits -/

/-- Over every run, the available permits, the permits the calls hold and those of the live
connections add up to `concurrency`; every live connection holds a permit, so at most
`concurrency` connections are alive at once.  (A call that has not begun or has returned holds
nothing: `CreateState.held_eq_zero_of_not_inFlight`.) -/
theorem permits_conserved {st : ThrottleState} (hreach : Reachable throttle st) :
    st.permits + (st.creates.map (·.state.held)).sum + (st.connections.map (·.permit)).sum =
        throttle.concurrency ∧
      (∀ conn ∈ st.connections, 1 ≤ conn.permit) ∧
      st.connections.length ≤ throttle.concurrency := by
  have hinv := hreach.inv
  have hpos : ∀ conn ∈ st.connections, 1 ≤ conn.permit :=
    fun conn hc => (hinv.connections conn hc).one_le
  refine ⟨hinv.conserved, hpos, ?_⟩
  have hlen := List.length_le_sum_of_one_le (st.connections.map (·.permit)) (by simpa using hpos)
  have := hinv.conserved
  simp only [total, List.length_map] at *
  omega

/-- A throttler of 32 permits that sees a gauge reading above half of a zero response budget. -/
def pressuredThrottle : MakeThrottledConnection := ⟨32, none, 0⟩

/-- The state after one `create` call under `pressuredThrottle` returned its connection. -/
def connectedState : ThrottleState :=
  ⟨0, [], 1, [⟨.exiting .connection, [1, 1]⟩], [⟨32, [1, 1]⟩]⟩

/-- The call's two samples cost 16 units each, both acquisitions are served at once, and the
factory succeeds. -/
theorem pressuredThrottle_connected : Reachable pressuredThrottle connectedState := by
  have h1 := (Reachable.init : Reachable pressuredThrottle _).step (.call _)
  have h2 := h1.step (.sample _ 0 1 rfl)
  have h3 := h2.step (.count _ 0 _ rfl)
  have h4 := h3.step (.check _ 0 _ rfl)
  have h5 := h4.step (.poll _ 0 none 16 rfl)
  have h6 := h5.step (.resample _ 0 16 1 rfl)
  have h7 := h6.step (.poll _ 0 (some 16) 16 rfl)
  exact h7.step (.connect _ 0 32 rfl)

theorem permits_conserved_connected :
    Reachable pressuredThrottle connectedState ∧
      connectedState.permits + (connectedState.creates.map (·.state.held)).sum +
          (connectedState.connections.map (·.permit)).sum = pressuredThrottle.concurrency ∧
      (∀ conn ∈ connectedState.connections, 1 ≤ conn.permit) ∧
      connectedState.connections.length ≤ pressuredThrottle.concurrency :=
  ⟨pressuredThrottle_connected, permits_conserved pressuredThrottle_connected⟩

/-! ## What a connection's permit holds -/

/-- The permit is not the larger of the two unit costs: under `pressuredThrottle` a connection
holds 32 units where both samples cost 16. -/
theorem connection_permit_not_max :
    ¬ ∀ (throttle : MakeThrottledConnection) (st : ThrottleState), Reachable throttle st →
      ∀ conn ∈ st.connections, ∀ r1 r2, conn.samples = [r1, r2] →
        conn.permit = max (throttle.unitsToTake r1) (throttle.unitsToTake r2) := by
  intro h
  have := h _ _ pressuredThrottle_connected ⟨32, [1, 1]⟩ (by decide) 1 1 rfl
  exact absurd this (by decide)

/-- Every live connection holds the first sample's unit cost, plus the second sample's cost
when that is above 1, so at most 32 units. -/
theorem connection_permit_units {st : ThrottleState} (hreach : Reachable throttle st) :
    ∀ conn ∈ st.connections, ∃ r1 r2, conn.samples = [r1, r2] ∧
      conn.permit = throttle.unitsToTake r1 +
        (if throttle.unitsToTake r2 > 1 then throttle.unitsToTake r2 else 0) ∧
      conn.permit ≤ 32 := by
  intro conn hc
  obtain ⟨r1, r2, hs, hp⟩ := hreach.inv.connections conn hc
  refine ⟨r1, r2, hs, hp, ?_⟩
  have := throttle.unitsToTake_le r1
  have := throttle.unitsToTake_le r2
  rw [hp, MakeThrottledConnection.permitUnits]
  split <;> omega

theorem connection_permit_units_connected :
    Reachable pressuredThrottle connectedState ∧
      ∀ conn ∈ connectedState.connections, ∃ r1 r2, conn.samples = [r1, r2] ∧
        conn.permit = pressuredThrottle.unitsToTake r1 +
          (if pressuredThrottle.unitsToTake r2 > 1 then pressuredThrottle.unitsToTake r2 else 0) ∧
        conn.permit ≤ 32 :=
  ⟨pressuredThrottle_connected, connection_permit_units pressuredThrottle_connected⟩

end Throttle
end Sqld
