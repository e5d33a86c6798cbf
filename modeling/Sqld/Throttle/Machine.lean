import Mathlib

/-!
# The connection throttler as a state machine

`MakeThrottledConnection` admits connections through a `tokio` semaphore of `concurrency`
permits.  A `create` call

* reads the response-size gauge and turns it into a unit cost (`units_to_take`, line 231),
* counts itself in `waiters` (`WaitersGuard::new`, line 232) and gives up with
  `TooManyRequests` when the count it loads is 128 or more (line 233),
* awaits `acquire_many_owned(units)` (line 236), re-reads the gauge, and when the new cost is
  above 1 awaits a second acquisition of that cost and merges it into the first permit
  (lines 243-253),
* awaits the factory, and returns a `TrackedConnection` that holds the merged permit.

Each `await` can end early: the timer of `timeout` fires while an acquisition is pending, the
factory fails, or the caller drops the future.  The drops then run in order: the pending
`Acquire` leaves the wait list and gives back what it was assigned, the first permit is
dropped, and last the `WaitersGuard`.

The semaphore is `tokio`'s batch semaphore: an acquisition that cannot be served at once takes
every available permit and queues for the rest; released permits go to the oldest waiter
first, and a waiter leaves the queue when its request is complete.  The waiter's node lives in
the `Acquire` future, so here the units a pending acquisition was assigned live in the
call's state (`CreateState.waiting`) and the queue holds call indices.

A run interleaves the steps of any number of calls with drops of the returned connections.
Each call also records, as ghost state that the code never reads, the gauge values it sampled.
-/

namespace Sqld
namespace Throttle

/-- The parameters of `MakeThrottledConnection::new`; the timeout's length does not matter
here, only whether there is one. -/
structure MakeThrottledConnection where
  concurrency : Nat
  timeout : Option Nat
  maxTotalResponseSize : UInt64
  deriving DecidableEq, Repr

/-- `MakeThrottledConnection::units_to_take`: the semaphore units a connection costs when the
response-size gauge reads `totalResponseSize` (`u64` arithmetic). -/
def MakeThrottledConnection.unitsToTake (self : MakeThrottledConnection)
    (totalResponseSize : UInt64) : Nat :=
  if totalResponseSize * 2 > self.maxTotalResponseSize then 16
  else if totalResponseSize * 4 > self.maxTotalResponseSize then 4
  else 1

theorem MakeThrottledConnection.unitsToTake_pos (self : MakeThrottledConnection) (r : UInt64) :
    0 < self.unitsToTake r := by
  unfold unitsToTake; split_ifs <;> decide

theorem MakeThrottledConnection.unitsToTake_le (self : MakeThrottledConnection) (r : UInt64) :
    self.unitsToTake r ≤ 16 := by
  unfold unitsToTake; split_ifs <;> decide

theorem UInt64.toNat_mul_of_lt {a b : UInt64} (h : a.toNat * b.toNat < 2 ^ 64) :
    (a * b).toNat = a.toNat * b.toNat :=
  (BitVec.toNat_mul ..).trans (Nat.mod_eq_of_lt h)

theorem UInt64.lt_iff_toNat_lt {a b : UInt64} : a < b ↔ a.toNat < b.toNat := .rfl

/-- Below `2^62` neither product wraps, and the cost is what the comparisons mean over the
integers. -/
theorem MakeThrottledConnection.unitsToTake_of_lt (self : MakeThrottledConnection) {r : UInt64}
    (hr : r.toNat < 2 ^ 62) :
    self.unitsToTake r =
      if self.maxTotalResponseSize.toNat < 2 * r.toNat then 16
      else if self.maxTotalResponseSize.toNat < 4 * r.toNat then 4 else 1 := by
  have h2 : (r * 2).toNat = 2 * r.toNat := by
    rw [UInt64.toNat_mul_of_lt (by simp only [show (2 : UInt64).toNat = 2 from rfl]; omega)]
    simp only [show (2 : UInt64).toNat = 2 from rfl, Nat.mul_comm]
  have h4 : (r * 4).toNat = 4 * r.toNat := by
    rw [UInt64.toNat_mul_of_lt (by simp only [show (4 : UInt64).toNat = 4 from rfl]; omega)]
    simp only [show (4 : UInt64).toNat = 4 from rfl, Nat.mul_comm]
  simp only [unitsToTake, gt_iff_lt, UInt64.lt_iff_toNat_lt, h2, h4]

/-- Below `2^62` a higher gauge never asks for fewer units. -/
theorem MakeThrottledConnection.unitsToTake_mono (self : MakeThrottledConnection) {r r' : UInt64}
    (hle : r.toNat ≤ r'.toNat) (hr' : r'.toNat < 2 ^ 62) :
    self.unitsToTake r ≤ self.unitsToTake r' := by
  rw [self.unitsToTake_of_lt (by omega), self.unitsToTake_of_lt hr']
  split_ifs <;> omega

/-- For every limit and every two gauge readings below `2^62`, `units_to_take` computes `R * 2`
and `R * 4` without wrapping, costs 1, 4 or 16 units, and never asks fewer units for the higher
reading: of the two samples `create` takes, the one under more pressure costs at least as
much. -/
theorem unitsToTake_mono_below_two_pow_62 (throttle : MakeThrottledConnection) {r r' : UInt64}
    (hle : r.toNat ≤ r'.toNat) (hr' : r'.toNat < 2 ^ 62) :
    (r' * 2).toNat = 2 * r'.toNat ∧ (r' * 4).toNat = 4 * r'.toNat ∧
      (throttle.unitsToTake r' = 1 ∨ throttle.unitsToTake r' = 4 ∨ throttle.unitsToTake r' = 16) ∧
      throttle.unitsToTake r ≤ throttle.unitsToTake r' := by
  have h2 : (r' * 2).toNat = 2 * r'.toNat := by
    rw [UInt64.toNat_mul_of_lt (by simp only [show (2 : UInt64).toNat = 2 from rfl]; omega)]
    simp only [show (2 : UInt64).toNat = 2 from rfl, Nat.mul_comm]
  have h4 : (r' * 4).toNat = 4 * r'.toNat := by
    rw [UInt64.toNat_mul_of_lt (by simp only [show (4 : UInt64).toNat = 4 from rfl]; omega)]
    simp only [show (4 : UInt64).toNat = 4 from rfl, Nat.mul_comm]
  refine ⟨h2, h4, ?_, throttle.unitsToTake_mono hle hr'⟩
  rw [throttle.unitsToTake_of_lt hr']
  split_ifs <;> simp

/-- A throttler with a response-size limit of 32,000,000 bytes. -/
def pressureThrottle : MakeThrottledConnection := ⟨128, none, 32000000⟩

/-- Two readings of `pressureThrottle`'s gauge: a quarter of the limit plus one, and half the limit
plus one. -/
theorem unitsToTake_mono_below_two_pow_62_pressure :
    (8000001 : UInt64).toNat ≤ (16000001 : UInt64).toNat ∧ (16000001 : UInt64).toNat < 2 ^ 62 ∧
      ((16000001 : UInt64) * 2).toNat = 2 * (16000001 : UInt64).toNat ∧
      ((16000001 : UInt64) * 4).toNat = 4 * (16000001 : UInt64).toNat ∧
      (pressureThrottle.unitsToTake 16000001 = 1 ∨ pressureThrottle.unitsToTake 16000001 = 4 ∨
        pressureThrottle.unitsToTake 16000001 = 16) ∧
      pressureThrottle.unitsToTake 8000001 ≤ pressureThrottle.unitsToTake 16000001 :=
  ⟨by decide, by decide, unitsToTake_mono_below_two_pow_62 pressureThrottle (by decide) (by decide)⟩

/-- Read over every `u64` gauge, the bound fails at `2^63`: the doubled reading is `2^64`, one
past `u64::MAX`, and wraps to `0` (a release build; a debug build panics), so the cost falls
from 16 at `2^62` to 1. -/
theorem unitsToTake_wraps_at_two_pow_63 :
    ¬ ∀ (throttle : MakeThrottledConnection) (r r' : UInt64), r.toNat ≤ r'.toNat →
        (r' * 2).toNat = 2 * r'.toNat ∧ throttle.unitsToTake r ≤ throttle.unitsToTake r' := by
  intro h
  have := (h pressureThrottle 4611686018427387904 9223372036854775808 (by decide)).2
  revert this
  decide

/-- How a `create` call ended. -/
inductive CreateOutcome
  | connection
  | tooManyRequests
  | dbCreateTimeout
  | factoryError
  | cancelled
  deriving DecidableEq, Repr

/-- Where a `create` call is, with the locals it holds there.  `permit` is the permit of the
first acquisition (`none` while that acquisition is still to come), `units` the cost being
acquired, `assigned` what the pending acquisition has been given so far. -/
inductive CreateState
  | start
  | sampled (units : Nat)
  | counted (units : Nat)
  | polling (permit : Option Nat) (units : Nat)
  | waiting (permit : Option Nat) (units assigned : Nat)
  | acquired (permit : Nat)
  | connecting (permit : Nat)
  | dropping (permit : Nat) (outcome : CreateOutcome)
  | exiting (outcome : CreateOutcome)
  | finished (outcome : CreateOutcome)
  deriving DecidableEq, Repr

namespace CreateState

/-- The semaphore permits a call holds: its permit, and what its pending acquisition has been
assigned. -/
def held : CreateState → Nat
  | polling permit _ => permit.getD 0
  | waiting permit _ assigned => permit.getD 0 + assigned
  | acquired permit => permit
  | connecting permit => permit
  | dropping permit _ => permit
  | _ => 0

/-- What a pending acquisition has been assigned. -/
def assigned : CreateState → Nat
  | waiting _ _ assigned => assigned
  | _ => 0

/-- The call is blocked in `acquire_many_owned`. -/
def isWaiting : CreateState → Bool
  | waiting .. => true
  | _ => false

/-- The call holds its `WaitersGuard`. -/
def guarded : CreateState → Bool
  | start | sampled _ | finished _ => false
  | _ => true

/-- The call passed the `waiters` check. -/
def admitted : CreateState → Bool
  | polling .. | waiting .. | acquired _ | connecting _ | dropping .. => true
  | exiting outcome => outcome != .tooManyRequests
  | _ => false

/-- The call has begun and not returned. -/
def InFlight : CreateState → Prop
  | start | finished _ => False
  | _ => True

/-- The state an acquisition of `units` completes into: after the first acquisition the call
holds the new permit; after the second, `permit.merge(mem_permit)` adds the units to it. -/
def grant : Option Nat → Nat → CreateState
  | none, units => acquired units
  | some permit, units => connecting (permit + units)

@[simp] theorem held_start : start.held = 0 := rfl
@[simp] theorem held_sampled (units : Nat) : (sampled units).held = 0 := rfl
@[simp] theorem held_counted (units : Nat) : (counted units).held = 0 := rfl
@[simp] theorem held_polling (permit : Option Nat) (units : Nat) :
    (polling permit units).held = permit.getD 0 := rfl
@[simp] theorem held_waiting (permit : Option Nat) (units assigned : Nat) :
    (waiting permit units assigned).held = permit.getD 0 + assigned := rfl
@[simp] theorem held_acquired (permit : Nat) : (acquired permit).held = permit := rfl
@[simp] theorem held_connecting (permit : Nat) : (connecting permit).held = permit := rfl
@[simp] theorem held_dropping (permit : Nat) (outcome : CreateOutcome) :
    (dropping permit outcome).held = permit := rfl
@[simp] theorem held_exiting (outcome : CreateOutcome) : (exiting outcome).held = 0 := rfl
@[simp] theorem held_finished (outcome : CreateOutcome) : (finished outcome).held = 0 := rfl

@[simp] theorem held_grant (permit : Option Nat) (units : Nat) :
    (grant permit units).held = permit.getD 0 + units := by
  cases permit <;> simp [grant]

@[simp] theorem assigned_grant (permit : Option Nat) (units : Nat) :
    (grant permit units).assigned = 0 := by
  cases permit <;> rfl

@[simp] theorem isWaiting_grant (permit : Option Nat) (units : Nat) :
    (grant permit units).isWaiting = false := by
  cases permit <;> rfl

@[simp] theorem guarded_grant (permit : Option Nat) (units : Nat) :
    (grant permit units).guarded = true := by
  cases permit <;> rfl

@[simp] theorem admitted_grant (permit : Option Nat) (units : Nat) :
    (grant permit units).admitted = true := by
  cases permit <;> rfl

theorem isWaiting_eq_true {s : CreateState} :
    s.isWaiting = true ↔ ∃ permit units assigned, s = waiting permit units assigned := by
  cases s <;> simp [isWaiting]

theorem admitted_guarded {s : CreateState} (h : s.admitted = true) : s.guarded = true := by
  cases s <;> simp_all [admitted, guarded]

/-- A call that counted itself in `waiters` is in flight. -/
theorem inFlight_of_guarded {s : CreateState} (h : s.guarded = true) : s.InFlight := by
  cases s <;> trivial

theorem assigned_pos_isWaiting {s : CreateState} (h : 0 < s.assigned) : s.isWaiting = true := by
  cases s <;> simp_all [assigned, isWaiting]

end CreateState

/-- A `create` call: where it is, and (ghost) the gauge values it has read. -/
structure Create where
  state : CreateState
  samples : List UInt64
  deriving DecidableEq, Repr

/-- A `TrackedConnection`: the units its permit holds, and (ghost) the gauge values the call
that made it read. -/
structure TrackedConnection where
  permit : Nat
  samples : List UInt64
  deriving DecidableEq, Repr

/-- The shared state: the semaphore's available permits and wait list (oldest first), the
`waiters` counter, every `create` call so far, and the live connections. -/
structure ThrottleState where
  permits : Nat
  queue : List Nat
  waiters : Nat
  creates : List Create
  connections : List TrackedConnection
  deriving DecidableEq, Repr

/-- `MakeThrottledConnection::new`: `Semaphore::new(concurrency)` and no waiters. -/
def ThrottleState.new (concurrency : Nat) : ThrottleState := ⟨concurrency, [], 0, [], []⟩

/-- `add_permits_locked`: hand `rem` released permits to the wait list, oldest first.  A
waiter whose request is complete leaves the list and its acquisition completes; what no
waiter needs is returned, to go back to `permits`. -/
def assignPermits : Nat → List Nat → List Create → Nat × List Nat × List Create
  | rem, [], creates => (rem, [], creates)
  | rem, i :: queue, creates =>
    match creates[i]? with
    | some ⟨.waiting permit units assigned, samples⟩ =>
      if units - assigned ≤ rem then
        assignPermits (rem - (units - assigned)) queue
          (creates.set i ⟨.grant permit units, samples⟩)
      else (0, i :: queue, creates.set i ⟨.waiting permit units (assigned + rem), samples⟩)
    | _ => assignPermits rem queue creates

namespace ThrottleState

/-- Release `rem` permits to the semaphore. -/
def addPermits (st : ThrottleState) (rem : Nat) : ThrottleState :=
  let assignment := assignPermits rem st.queue st.creates
  { st with
    permits := st.permits + assignment.1
    queue := assignment.2.1
    creates := assignment.2.2 }

/-- Call `i` becomes `c`. -/
def setCreate (st : ThrottleState) (i : Nat) (c : Create) : ThrottleState :=
  { st with creates := st.creates.set i c }

@[simp] theorem addPermits_permits (st : ThrottleState) (rem : Nat) :
    (st.addPermits rem).permits = st.permits + (assignPermits rem st.queue st.creates).1 := rfl
@[simp] theorem addPermits_queue (st : ThrottleState) (rem : Nat) :
    (st.addPermits rem).queue = (assignPermits rem st.queue st.creates).2.1 := rfl
@[simp] theorem addPermits_creates (st : ThrottleState) (rem : Nat) :
    (st.addPermits rem).creates = (assignPermits rem st.queue st.creates).2.2 := rfl
@[simp] theorem addPermits_waiters (st : ThrottleState) (rem : Nat) :
    (st.addPermits rem).waiters = st.waiters := rfl
@[simp] theorem addPermits_connections (st : ThrottleState) (rem : Nat) :
    (st.addPermits rem).connections = st.connections := rfl
@[simp] theorem setCreate_creates (st : ThrottleState) (i : Nat) (c : Create) :
    (st.setCreate i c).creates = st.creates.set i c := rfl
@[simp] theorem setCreate_permits (st : ThrottleState) (i : Nat) (c : Create) :
    (st.setCreate i c).permits = st.permits := rfl
@[simp] theorem setCreate_queue (st : ThrottleState) (i : Nat) (c : Create) :
    (st.setCreate i c).queue = st.queue := rfl
@[simp] theorem setCreate_waiters (st : ThrottleState) (i : Nat) (c : Create) :
    (st.setCreate i c).waiters = st.waiters := rfl
@[simp] theorem setCreate_connections (st : ThrottleState) (i : Nat) (c : Create) :
    (st.setCreate i c).connections = st.connections := rfl

/-- The first poll of `acquire_many_owned(units)` by call `i`: served at once when enough
permits are available, and otherwise given every available permit and queued for the rest. -/
def acquireManyOwned (st : ThrottleState) (i : Nat) (permit : Option Nat) (units : Nat)
    (samples : List UInt64) : ThrottleState :=
  if units ≤ st.permits then
    { st.setCreate i ⟨.grant permit units, samples⟩ with permits := st.permits - units }
  else
    { st.setCreate i ⟨.waiting permit units st.permits, samples⟩ with
      permits := 0, queue := st.queue ++ [i] }

/-- Call `i` returns early from a pending acquisition: the `Acquire` future leaves the wait list
and gives back what it was assigned; the first permit, if there is one, is dropped next. -/
def abandon (st : ThrottleState) (i : Nat) (permit : Option Nat) (assigned : Nat)
    (samples : List UInt64) (outcome : CreateOutcome) : ThrottleState :=
  let state := match permit with
    | none => CreateState.exiting outcome
    | some permit => .dropping permit outcome
  ({ st.setCreate i ⟨state, samples⟩ with queue := st.queue.erase i }).addPermits assigned

end ThrottleState

open ThrottleState

/-- The steps of a run: one atomic action of one `create` call, a new call, or the drop of a
live connection. -/
inductive Step (throttle : MakeThrottledConnection) : ThrottleState → ThrottleState → Prop
  | call (st : ThrottleState) :
      Step throttle st { st with creates := st.creates ++ [⟨.start, []⟩] }
  | sample (st : ThrottleState) (i : Nat) (gauge : UInt64) {samples : List UInt64}
      (h : st.creates[i]? = some ⟨.start, samples⟩) :
      Step throttle st (st.setCreate i ⟨.sampled (throttle.unitsToTake gauge), samples ++ [gauge]⟩)
  | count (st : ThrottleState) (i units : Nat) {samples : List UInt64}
      (h : st.creates[i]? = some ⟨.sampled units, samples⟩) :
      Step throttle st { st.setCreate i ⟨.counted units, samples⟩ with waiters := st.waiters + 1 }
  | check (st : ThrottleState) (i units : Nat) {samples : List UInt64}
      (h : st.creates[i]? = some ⟨.counted units, samples⟩) :
      Step throttle st (if st.waiters ≥ 128 then st.setCreate i ⟨.exiting .tooManyRequests, samples⟩
        else st.setCreate i ⟨.polling none units, samples⟩)
  | poll (st : ThrottleState) (i : Nat) (permit : Option Nat) (units : Nat)
      {samples : List UInt64} (h : st.creates[i]? = some ⟨.polling permit units, samples⟩) :
      Step throttle st (st.acquireManyOwned i permit units samples)
  | resample (st : ThrottleState) (i permit : Nat) (gauge : UInt64) {samples : List UInt64}
      (h : st.creates[i]? = some ⟨.acquired permit, samples⟩) :
      Step throttle st (st.setCreate i
        ⟨if throttle.unitsToTake gauge > 1 then .polling (some permit) (throttle.unitsToTake gauge)
          else .connecting permit, samples ++ [gauge]⟩)
  | timeout (st : ThrottleState) (i : Nat) (permit : Option Nat) (units assigned : Nat)
      {samples : List UInt64} (ht : throttle.timeout.isSome)
      (h : st.creates[i]? = some ⟨.waiting permit units assigned, samples⟩) :
      Step throttle st (st.abandon i permit assigned samples .dbCreateTimeout)
  | cancel (st : ThrottleState) (i : Nat) (permit : Option Nat) (units assigned : Nat)
      {samples : List UInt64} (h : st.creates[i]? = some ⟨.waiting permit units assigned, samples⟩) :
      Step throttle st (st.abandon i permit assigned samples .cancelled)
  | cancelFactory (st : ThrottleState) (i permit : Nat) {samples : List UInt64}
      (h : st.creates[i]? = some ⟨.connecting permit, samples⟩) :
      Step throttle st (st.setCreate i ⟨.dropping permit .cancelled, samples⟩)
  | connect (st : ThrottleState) (i permit : Nat) {samples : List UInt64}
      (h : st.creates[i]? = some ⟨.connecting permit, samples⟩) :
      Step throttle st { st.setCreate i ⟨.exiting .connection, samples⟩ with
        connections := st.connections ++ [⟨permit, samples⟩] }
  | factoryError (st : ThrottleState) (i permit : Nat) {samples : List UInt64}
      (h : st.creates[i]? = some ⟨.connecting permit, samples⟩) :
      Step throttle st (st.setCreate i ⟨.dropping permit .factoryError, samples⟩)
  | release (st : ThrottleState) (i permit : Nat) (outcome : CreateOutcome)
      {samples : List UInt64} (h : st.creates[i]? = some ⟨.dropping permit outcome, samples⟩) :
      Step throttle st ((st.setCreate i ⟨.exiting outcome, samples⟩).addPermits permit)
  | exit (st : ThrottleState) (i : Nat) (outcome : CreateOutcome) {samples : List UInt64}
      (h : st.creates[i]? = some ⟨.exiting outcome, samples⟩) :
      Step throttle st { st.setCreate i ⟨.finished outcome, samples⟩ with waiters := st.waiters - 1 }
  | drop (st : ThrottleState) (j : Nat) (conn : TrackedConnection)
      (h : st.connections[j]? = some conn) :
      Step throttle st ({ st with connections := st.connections.eraseIdx j }.addPermits conn.permit)

/-- The states of the runs of a throttler. -/
inductive Reachable (throttle : MakeThrottledConnection) : ThrottleState → Prop
  | init : Reachable throttle (ThrottleState.new throttle.concurrency)
  | step {st st' : ThrottleState} (hst : Reachable throttle st) (hstep : Step throttle st st') :
      Reachable throttle st'

end Throttle
end Sqld
