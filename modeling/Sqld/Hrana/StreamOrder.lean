import Sqld.Hrana.SessionInvariant
import Sqld.ListFacts

/-!
# Job order on a stream and the cursor handle a job sees

Each stream's worker runs the jobs of its mailbox one at a time, and `handle_request` queues
them at the back: work on one stream is FIFO.  The cursor requests rest on that order.
`OpenCursor`, `CloseCursor` and `FetchCursor` check the session's maps when they are queued,
but their jobs read the worker's `Stream.cursor_hnd` when they run, possibly much later and
with other requests dispatched in between.  This module shows the two views agree.

* `cursorAfter` replays the cursor bookkeeping over a sequence of queued jobs, and
  `CursorJobsOk` says every job of the sequence passed the session's checks;
* `WorkerInv` is what holds of one worker: its run jobs and its mailbox are, in order, the
  jobs sent to it; the first of them is its `OpenStream` job; every later job saw the
  connection that job stored; and its cursor handle is the one the bookkeeping of the jobs
  it has run predicts;
* `SystemInv` ties each open stream to its own worker, whose sent jobs leave open the cursor
  the stream's handle records;
* `stream_jobs_fifo_cursor` is the result: in every reachable state each worker runs its jobs
  in queueing order after its `OpenStream` job, and a `FetchCursor` or `CloseCursor` job
  about to run finds the handle made by the last `OpenCursor` job, which opened the same
  cursor, or nothing exactly when that job found no connection.  The connection every job after
  the `OpenStream` job sees is the one `connection_maker.create()` gave that job, or none when
  it failed (`Executed.factory` records what the factory gave).
-/

namespace Sqld
namespace Hrana

variable {A D P : Type}

/-! ## The cursor bookkeeping of a job sequence -/

/-- The cursor the session records as open on a stream once one more job is queued: an
`OpenCursor` job opens its cursor, a `CloseCursor` job closes it. -/
def cursorStep (st : Option (I32 × CursorHandle)) : StreamJob → Option (I32 × CursorHandle)
  | .openCursor _ cursorHnd cursorId => some (cursorId, cursorHnd)
  | .closeCursor _ => none
  | _ => st

/-- The cursor a sequence of jobs leaves open. -/
def cursorAfter (st : Option (I32 × CursorHandle)) (jobs : List StreamJob) :
    Option (I32 × CursorHandle) :=
  jobs.foldl cursorStep st

/-- The session's checks for queueing a job after jobs that leave `st` open: a cursor is
opened only when none is, and a cursor job names the open cursor. -/
def cursorJobOk (st : Option (I32 × CursorHandle)) : StreamJob → Prop
  | .openCursor _ _ _ => st = none
  | .closeCursor cursorId => st.map Prod.fst = some cursorId
  | .fetchCursor cursorId _ _ => st.map Prod.fst = some cursorId
  | _ => True

/-- Every job of a sequence passed the session's checks when it was queued. -/
def CursorJobsOk : Option (I32 × CursorHandle) → List StreamJob → Prop
  | _, [] => True
  | st, job :: jobs => cursorJobOk st job ∧ CursorJobsOk (cursorStep st job) jobs

@[simp] theorem cursorAfter_nil (st : Option (I32 × CursorHandle)) : cursorAfter st [] = st := rfl

@[simp] theorem cursorAfter_append (st : Option (I32 × CursorHandle)) (jobs jobs' : List StreamJob) :
    cursorAfter st (jobs ++ jobs') = cursorAfter (cursorAfter st jobs) jobs' :=
  List.foldl_append _ _ _ _

@[simp] theorem cursorAfter_singleton (st : Option (I32 × CursorHandle)) (job : StreamJob) :
    cursorAfter st [job] = cursorStep st job := rfl

theorem cursorJobsOk_append {st : Option (I32 × CursorHandle)} {jobs jobs' : List StreamJob} :
    CursorJobsOk st (jobs ++ jobs') ↔
      CursorJobsOk st jobs ∧ CursorJobsOk (cursorAfter st jobs) jobs' := by
  induction jobs generalizing st with
  | nil => simp [CursorJobsOk]
  | cons job jobs ih => simp [CursorJobsOk, ih, cursorAfter, and_assoc]

/-- Whether a job is an `OpenCursor` job. -/
def StreamJob.isOpenCursor : StreamJob → Bool
  | .openCursor _ _ _ => true
  | _ => false

/-- The last `OpenCursor` job a worker has run, with the `Stream` it ran on. -/
def lastOpenCursor : List (Executed D) → Option (Executed D)
  | [] => none
  | e :: es => (lastOpenCursor es).or (if e.job.isOpenCursor then some e else none)

/-- The cursor that run jobs leave open was opened by the last `OpenCursor` job among them,
unless there is none and it was open before. -/
theorem lastOpenCursor_of_cursorAfter {st : Option (I32 × CursorHandle)} {es : List (Executed D)}
    {cursorId : I32} {cursorHnd : CursorHandle}
    (h : cursorAfter st (es.map Executed.job) = some (cursorId, cursorHnd)) :
    (∃ e streamId, lastOpenCursor es = some e ∧ e.job = .openCursor streamId cursorHnd cursorId) ∨
      (lastOpenCursor es = none ∧ st = some (cursorId, cursorHnd)) := by
  induction es generalizing st with
  | nil => exact .inr ⟨rfl, h⟩
  | cons e es ih =>
      have h' : cursorAfter (cursorStep st e.job) (es.map Executed.job) =
          some (cursorId, cursorHnd) := h
      rcases ih h' with ⟨e', sid, he', hjob⟩ | ⟨hnone, hst⟩
      · exact .inl ⟨e', sid, by simp [lastOpenCursor, he'], hjob⟩
      · cases hj : e.job with
        | openCursor sid h' c' =>
            simp only [hj, cursorStep, Option.some.injEq, Prod.mk.injEq] at hst
            obtain ⟨rfl, rfl⟩ := hst
            exact .inl ⟨e, sid, by simp [lastOpenCursor, hnone, hj, StreamJob.isOpenCursor], hj⟩
        | closeCursor _ => simp [hj, cursorStep] at hst
        | _ =>
            exact .inr ⟨by simp [lastOpenCursor, hnone, hj, StreamJob.isOpenCursor],
              by simpa [hj, cursorStep] using hst⟩

/-! ## One worker -/

/-- Only the `OpenStream` job changes the connection. -/
theorem StreamJob.run_db {job : StreamJob} (hjob : job ≠ .openStream)
    (factory : Except ExternalError D) (stream : Stream D) :
    (job.run factory stream).db = stream.db := by
  cases job <;> simp only [StreamJob.run] <;> first | contradiction | rfl | split <;> rfl

/-- A job that passed the session's checks keeps the handle the bookkeeping predicts. -/
theorem StreamJob.run_cursorHnd {job : StreamJob} (hjob : job ≠ .openStream)
    {st : Option (I32 × CursorHandle)} (hok : cursorJobOk st job)
    (factory : Except ExternalError D) {stream : Stream D}
    (hs : stream.cursorHnd = if stream.db.isSome then st.map Prod.snd else none) :
    (job.run factory stream).cursorHnd =
      if stream.db.isSome then (cursorStep st job).map Prod.snd else none := by
  cases job with
  | openStream => contradiction
  | openCursor sid cursorHnd cursorId =>
      simp only [cursorJobOk] at hok
      subst hok
      cases hdb : stream.db <;> simp_all [StreamJob.run, cursorStep]
  | closeCursor cursorId => simp [StreamJob.run, cursorStep]
  | _ => simpa [StreamJob.run, cursorStep] using hs

/-- What holds of one worker. -/
structure WorkerInv (w : Worker D) : Prop where
  fifo : w.executed.map Executed.job ++ w.mailbox = w.sent
  opens_first : ∃ rest, w.sent = .openStream :: rest ∧ .openStream ∉ rest
  cursor_jobs : CursorJobsOk none w.sent
  db_seen : ∀ e ∈ w.executed.tail, e.before.db = w.stream.db
  db_created : w.stream.db = w.executed.head?.bind fun e => e.factory.toOption
  cursor_hnd : w.stream.cursorHnd =
    if w.stream.db.isSome then (cursorAfter none (w.executed.map Executed.job)).map Prod.snd
    else none

/-- A worker just spawned, with its `OpenStream` job queued. -/
theorem WorkerInv.spawned :
    WorkerInv (Worker.send .openStream (Worker.fresh : Worker D)) :=
  ⟨rfl, ⟨[], rfl, List.not_mem_nil _⟩, ⟨trivial, trivial⟩,
    fun _ he => by simp [Worker.send, Worker.fresh] at he, rfl, rfl⟩

@[simp] theorem Worker.send_sent (job : StreamJob) (w : Worker D) :
    (w.send job).sent = w.sent ++ [job] := rfl

/-- Queueing a job that passed the session's checks keeps the invariant. -/
theorem WorkerInv.send {w : Worker D} (hw : WorkerInv w) {job : StreamJob}
    (hjob : job ≠ .openStream) (hok : cursorJobOk (cursorAfter none w.sent) job) :
    WorkerInv (w.send job) := by
  obtain ⟨rest, hsent, hnot⟩ := hw.opens_first
  refine ⟨?_, ⟨rest ++ [job], ?_, ?_⟩, ?_, hw.db_seen, hw.db_created, hw.cursor_hnd⟩
  · simp [Worker.send, ← hw.fifo]
  · simp [hsent]
  · simp [hnot, Ne.symm hjob]
  · exact cursorJobsOk_append.mpr ⟨hw.cursor_jobs, hok, trivial⟩

@[simp] theorem Worker.step_sent (factory : Except ExternalError D) (w : Worker D) :
    (w.step factory).sent = w.sent := by
  unfold Worker.step; split <;> rfl

/-- Running the job at the front of the mailbox keeps the invariant. -/
theorem WorkerInv.step {w : Worker D} (hw : WorkerInv w) (factory : Except ExternalError D) :
    WorkerInv (w.step factory) := by
  unfold Worker.step
  split
  · exact hw
  rename_i job rest hmb
  have hsent : w.sent = w.executed.map Executed.job ++ job :: rest := by rw [← hw.fifo, hmb]
  have hjobs : CursorJobsOk none (w.executed.map Executed.job ++ job :: rest) :=
    hsent ▸ hw.cursor_jobs
  have hok := (cursorJobsOk_append.mp hjobs).2.1
  obtain ⟨rest0, hs0, hnot⟩ := hw.opens_first
  have hfifo : (w.executed ++ [({ job, before := w.stream, factory } : Executed D)]).map Executed.job ++
      rest = w.sent := by
    simp [hsent]
  cases hex : w.executed with
  | nil =>
      have hjob : job = .openStream := by simp_all
      subst hjob
      have hdb := hw.db_created
      have hc := hw.cursor_hnd
      simp only [hex, List.map_nil, cursorAfter_nil, Option.map_none', ite_self] at hc
      simp only [hex, List.head?_nil, Option.none_bind] at hdb
      refine ⟨by simpa [hex] using hfifo, hw.opens_first, hw.cursor_jobs, by simp, ?_, ?_⟩ <;>
        cases factory <;> simp [StreamJob.run, hc, hdb, cursorStep, Except.toOption]
  | cons e0 ex =>
      have hjob : job ≠ .openStream := by
        rintro rfl
        rw [hs0, hex] at hsent
        exact hnot (by simp_all)
      have hdb := StreamJob.run_db hjob factory w.stream
      refine ⟨by simpa [hex] using hfifo, hw.opens_first, hw.cursor_jobs, ?_, ?_, ?_⟩
      · intro e he
        have hdb0 := hw.db_seen
        rw [hex] at hdb0
        simp only [List.cons_append, List.tail_cons, List.mem_append, List.mem_singleton] at he
        rcases he with he | rfl
        · rw [hdb, hdb0 e he]
        · exact hdb.symm
      · rw [hdb, hw.db_created, hex]
        rfl
      · rw [StreamJob.run_cursorHnd hjob hok factory hw.cursor_hnd, hdb, ← hex]
        simp

/-! ## The session and its workers -/

/-- The invariant tying each open stream to its own worker. -/
structure SystemInv (sys : System A D) : Prop where
  worker : ∀ (i : Nat) w, sys.workers[i]? = some w → WorkerInv w
  stream_worker : ∀ streamId streamHnd, sys.session.streams.lookup streamId = some streamHnd →
    ∃ w, sys.workers[streamHnd.jobTx]? = some w ∧
      (cursorAfter none w.sent).map Prod.fst = streamHnd.cursorId
  distinct : ∀ streamId streamId' streamHnd streamHnd',
    sys.session.streams.lookup streamId = some streamHnd →
    sys.session.streams.lookup streamId' = some streamHnd' →
    streamHnd.jobTx = streamHnd'.jobTx → streamId = streamId'

/-- Queueing a job that passed the session's checks on an open stream's worker keeps the
invariant, when the new stream map records that stream as the bookkeeping says and leaves
the others alone. -/
theorem SystemInv.respond {sys : System A D} (h : SystemInv sys) {streamId : I32}
    {streamHnd : StreamHandle} {job : StreamJob}
    (hl : sys.session.streams.lookup streamId = some streamHnd) (hjob : job ≠ .openStream)
    (hok : ∀ w, sys.workers[streamHnd.jobTx]? = some w → cursorJobOk (cursorAfter none w.sent) job)
    (session' : Session A) (cursorTasks' : Nat)
    (hstreams : ∀ sid hnd, session'.streams.lookup sid = some hnd →
      (sid = streamId ∧ hnd.jobTx = streamHnd.jobTx ∧
        ∀ w, sys.workers[streamHnd.jobTx]? = some w →
          (cursorStep (cursorAfter none w.sent) job).map Prod.fst = hnd.cursorId) ∨
      (sid ≠ streamId ∧ sys.session.streams.lookup sid = some hnd)) :
    SystemInv { sys.streamRespond streamHnd job with session := session', cursorTasks := cursorTasks' }
    where
  worker i w hw := by
    obtain ⟨w₀, hw₀, rfl⟩ := getElem?_modify_eq_some hw
    split
    · rename_i hi; subst hi; exact (h.worker _ _ hw₀).send hjob (hok _ hw₀)
    · exact h.worker _ _ hw₀
  stream_worker sid hnd hlk := by
    rcases hstreams sid hnd hlk with ⟨rfl, hjx, hc⟩ | ⟨hne, hold⟩
    · obtain ⟨w, hw, -⟩ := h.stream_worker _ _ hl
      exact ⟨w.send job, by simp [System.streamRespond, hjx, hw], by simp [hc w hw]⟩
    · obtain ⟨w, hw, hc⟩ := h.stream_worker _ _ hold
      have hjx : streamHnd.jobTx ≠ hnd.jobTx := fun he => hne (h.distinct _ _ _ _ hl hold he).symm
      exact ⟨w, by simpa [System.streamRespond, List.getElem?_modify_ne _ _ hjx] using hw, hc⟩
  distinct sid sid' hnd hnd' hlk hlk' hjx := by
    rcases hstreams sid hnd hlk with ⟨rfl, hj, -⟩ | ⟨hne, hold⟩ <;>
      rcases hstreams sid' hnd' hlk' with ⟨rfl, hj', -⟩ | ⟨hne', hold'⟩
    · rfl
    · exact h.distinct _ _ _ _ hl hold' (hj ▸ hjx)
    · exact h.distinct _ _ _ _ hold hl (hjx.trans hj')
    · exact h.distinct _ _ _ _ hold hold' hjx

/-- `OpenStream` spawns a worker, queues its `OpenStream` job, and records the stream. -/
theorem SystemInv.openStream {sys : System A D} (h : SystemInv sys) {streamId : I32}
    (hfresh : streamId ∉ sys.session.streams) :
    SystemInv ((sys.streamSpawn.2.streamRespond sys.streamSpawn.1 .openStream).setStreams
      (sys.session.streams.insert streamId sys.streamSpawn.1)) := by
  have hlt : ∀ sid hnd, sys.session.streams.lookup sid = some hnd →
      hnd.jobTx < sys.workers.length := fun sid hnd hl => by
      obtain ⟨w, hw, -⟩ := h.stream_worker sid hnd hl
      exact (List.getElem?_eq_some_iff.mp hw).1
  have hold : ∀ i, i < sys.workers.length →
      ((sys.workers ++ [Worker.fresh]).modify (Worker.send .openStream)
        sys.workers.length)[i]? = sys.workers[i]? := fun i hi => by
    rw [List.getElem?_modify_ne _ _ (by omega), List.getElem?_append_left hi]
  have hnew : ((sys.workers ++ [Worker.fresh]).modify (Worker.send .openStream)
      sys.workers.length)[sys.workers.length]? = some (Worker.send .openStream Worker.fresh) := by
    simp
  refine ⟨fun i w hw => ?_, fun sid hnd hl => ?_, fun sid sid' hnd hnd' hl hl' hjx => ?_⟩
  · have hlen : i < sys.workers.length + 1 := by
      have := (List.getElem?_eq_some_iff.mp hw).1
      simpa [System.setStreams, System.streamRespond, System.streamSpawn] using this
    rcases Nat.lt_succ_iff_lt_or_eq.mp hlen with hi | rfl
    · exact h.worker i w (by rw [← hold i hi]; exact hw)
    · simp only [System.setStreams, System.streamRespond, System.streamSpawn, hnew,
        Option.some.injEq] at hw
      subst hw; exact WorkerInv.spawned
  · by_cases hs : sid = streamId
    · subst hs
      simp only [System.setStreams_session, System.streamRespond_session,
        System.streamSpawn_session, AList.lookup_insert, Option.some.injEq] at hl
      subst hl
      exact ⟨_, hnew, rfl⟩
    · simp only [System.setStreams_session, System.streamRespond_session,
        System.streamSpawn_session, AList.lookup_insert_ne hs] at hl
      obtain ⟨w, hw, hc⟩ := h.stream_worker sid hnd hl
      exact ⟨w, by rw [← hw]; exact hold _ (hlt _ _ hl), hc⟩
  · simp only [System.setStreams_session, System.streamRespond_session, System.streamSpawn_session]
      at hl hl'
    by_cases hs : sid = streamId <;> by_cases hs' : sid' = streamId
    · rw [hs, hs']
    · subst hs; simp only [AList.lookup_insert, Option.some.injEq] at hl; subst hl
      rw [AList.lookup_insert_ne hs'] at hl'
      exact absurd hjx (by have := hlt _ _ hl'; simp [System.streamSpawn]; omega)
    · subst hs'; simp only [AList.lookup_insert, Option.some.injEq] at hl'; subst hl'
      rw [AList.lookup_insert_ne hs] at hl
      exact absurd hjx (by have := hlt _ _ hl; simp [System.streamSpawn]; omega)
    · rw [AList.lookup_insert_ne hs] at hl
      rw [AList.lookup_insert_ne hs'] at hl'
      exact h.distinct _ _ _ _ hl hl' hjx

/-- A step that touches neither the workers nor the stream map keeps the invariant. -/
theorem SystemInv.of_eq {sys sys' : System A D} (h : SystemInv sys)
    (hworkers : sys'.workers = sys.workers) (hstreams : sys'.session.streams = sys.session.streams) :
    SystemInv sys' := by
  obtain ⟨h₁, h₂, h₃⟩ := h
  exact ⟨hworkers ▸ h₁, hworkers ▸ hstreams ▸ h₂, hstreams ▸ h₃⟩

/-- The handle a stream's worker was last told about matches the stream's record. -/
theorem SystemInv.cursorAfter_eq {sys : System A D} (h : SystemInv sys) {streamId : I32}
    {streamHnd : StreamHandle} (hl : sys.session.streams.lookup streamId = some streamHnd)
    {w : Worker D} (hw : sys.workers[streamHnd.jobTx]? = some w) :
    (cursorAfter none w.sent).map Prod.fst = streamHnd.cursorId := by
  obtain ⟨w', hw', hc⟩ := h.stream_worker _ _ hl
  rw [hw] at hw'; cases hw'; exact hc

/-- A job that leaves the cursor bookkeeping alone, queued on an open stream whose record
stays or goes, keeps the invariant. -/
theorem SystemInv.respond_keep {sys : System A D} (h : SystemInv sys) (job : StreamJob)
    {streamId : I32} {streamHnd : StreamHandle}
    (hl : sys.session.streams.lookup streamId = some streamHnd) (hjob : job ≠ .openStream)
    (hok : ∀ w, sys.workers[streamHnd.jobTx]? = some w → cursorJobOk (cursorAfter none w.sent) job)
    (hkeep : ∀ st, cursorStep st job = st) (session' : Session A)
    (hstreams : ∀ sid hnd, session'.streams.lookup sid = some hnd →
      sys.session.streams.lookup sid = some hnd) :
    SystemInv { sys.streamRespond streamHnd job with session := session' } := by
  refine h.respond hl hjob hok session' sys.cursorTasks fun sid hnd hlk => ?_
  have hold := hstreams sid hnd hlk
  by_cases hs : sid = streamId
  · subst hs
    rw [hl] at hold; cases hold
    exact .inl ⟨rfl, rfl, fun w hw => by rw [hkeep]; exact h.cursorAfter_eq hl hw⟩
  · exact .inr ⟨hs, hold⟩

/-- Every update `Handled` lists keeps the invariant. -/
theorem Handled.systemInv {sys sys' : System A D} (hh : Handled sys sys') (h : SystemInv sys) :
    SystemInv sys' := by
  cases hh with
  | unchanged => exact h
  | plain streamId hnd job hl hjob =>
      have hne : job ≠ .openStream := by cases job <;> simp_all [StreamJob.IsPlain]
      exact h.respond_keep job hl hne
        (fun _ _ => by cases job <;> simp_all [StreamJob.IsPlain, cursorJobOk])
        (fun st => by cases job <;> simp_all [StreamJob.IsPlain, cursorStep]) sys.session
        fun _ _ hlk => hlk
  | fetchCursor cursorId streamId hnd maxCount maxTotalSize hl hcid =>
      exact h.respond_keep (.fetchCursor cursorId maxCount maxTotalSize) hl (by simp)
        (fun _ hw => by simp [cursorJobOk, h.cursorAfter_eq hl hw, hcid])
        (fun _ => rfl) sys.session fun _ _ hlk => hlk
  | storeSql => exact h.of_eq rfl rfl
  | closeSql => exact h.of_eq rfl rfl
  | openStream streamId hfresh => exact h.openStream hfresh
  | closeStream streamId hnd hl hnone =>
      exact h.respond_keep .closeStream hl (by simp) (fun _ _ => trivial) (fun _ => rfl) _
        fun sid _ hlk => by
        have hs : sid ≠ streamId := by rintro rfl; simp at hlk
        simpa [AList.lookup_erase_ne hs] using hlk
  | closeStreamCursor streamId cursorId hnd hl hsome =>
      exact h.respond_keep .closeStream hl (by simp) (fun _ _ => trivial) (fun _ => rfl) _
        fun sid _ hlk => by
        have hs : sid ≠ streamId := by rintro rfl; simp at hlk
        simpa [AList.lookup_erase_ne hs] using hlk
  | openCursor streamId cursorId hnd hl hnone hfresh =>
      refine h.respond hl (by simp) (fun _ hw => ?_) _ _ fun sid hnd' hlk => ?_
      · have hc := h.cursorAfter_eq hl hw
        rw [hnone, Option.map_eq_none'] at hc
        exact hc
      · by_cases hs : sid = streamId
        · subst hs
          simp only [System.setStreams_session, AList.lookup_insert, Option.some.injEq] at hlk
          subst hlk
          exact .inl ⟨rfl, rfl, fun _ _ => rfl⟩
        · simp only [System.setStreams_session, AList.lookup_insert_ne hs] at hlk
          exact .inr ⟨hs, hlk⟩
  | closeCursor cursorId streamId hnd hc hl hsome =>
      refine h.respond hl (by simp)
        (fun _ hw => by simp [cursorJobOk, h.cursorAfter_eq hl hw, hsome]) _ _ fun sid hnd' hlk => ?_
      by_cases hs : sid = streamId
      · subst hs
        simp only [System.setStreams_session, AList.lookup_insert, Option.some.injEq] at hlk
        subst hlk
        exact .inl ⟨rfl, rfl, fun _ _ => rfl⟩
      · simp only [System.setStreams_session, AList.lookup_insert_ne hs] at hlk
        exact .inr ⟨hs, hlk⟩

/-- A repeated hello keeps the stream map. -/
theorem handleRepeatedHello_streams (server : Server A) (session : Session A)
    (jwt : Option String) : (handleRepeatedHello server session jwt).2.streams = session.streams := by
  rcases handleRepeatedHello_maps server session jwt with heq | ⟨_, heq⟩ <;> rw [heq]

/-- Every step of a run keeps the invariant. -/
theorem Step.systemInv {server : Server A} {compilers : Compilers P} {sys sys' : System A D}
    (hstep : Step server compilers sys sys') (h : SystemInv sys) (hs : sys.session.Inv) :
    SystemInv sys' := by
  cases hstep with
  | request req _ _ => exact (handleRequest_handled server compilers sys hs req).systemInv h
  | hello jwt => exact h.of_eq rfl (handleRepeatedHello_streams server sys.session jwt)
  | work i factory =>
      refine ⟨fun j w hw => ?_, fun sid hnd hl => ?_, h.distinct⟩
      · obtain ⟨w₀, hw₀, rfl⟩ := getElem?_modify_eq_some hw
        split
        · exact (h.worker _ _ hw₀).step factory
        · exact h.worker _ _ hw₀
      · obtain ⟨w, hw, hc⟩ := h.stream_worker sid hnd hl
        refine ⟨if i = hnd.jobTx then w.step factory else w, ?_, by split <;> simpa using hc⟩
        simp [List.getElem?_modify, hw]

/-- The invariant holds in every reachable state. -/
theorem Reachable.systemInv {server : Server A} {compilers : Compilers P} {sys : System A D}
    (hreach : Reachable server compilers sys) : SystemInv sys := by
  have : SystemInv sys ∧ sys.session.Inv := by
    induction hreach with
    | init version jwt session hs =>
        obtain ⟨hst, hsq, hcu⟩ := handleInitialHello_maps hs
        refine ⟨⟨fun _ _ hw => by simp at hw, fun _ _ hl => by simp [hst] at hl,
          fun _ _ _ _ hl => by simp [hst] at hl⟩, ?_⟩
        simpa [Session.Inv, hst, hsq, hcu] using MapsInv.empty
    | step _ hst ih => exact ⟨hst.systemInv ih.1 ih.2, hst.mapsInv ih.2⟩
  exact this.1

/-- The first job a worker ran is its `OpenStream` job, and the connection that job stored,
the factory's result, is the one the worker holds and every later job saw. -/
theorem WorkerInv.created {w : Worker D} (hw : WorkerInv w) {e₀ : Executed D}
    (he₀ : e₀ ∈ w.executed.head?) :
    e₀.job = .openStream ∧ w.stream.db = e₀.factory.toOption ∧
      ∀ e ∈ w.executed.tail, e.before.db = e₀.factory.toOption := by
  have hdb : w.stream.db = e₀.factory.toOption := by
    rw [hw.db_created, Option.mem_def.mp he₀, Option.some_bind]
  refine ⟨?_, hdb, fun e he => (hw.db_seen e he).trans hdb⟩
  obtain ⟨rest, hs0, -⟩ := hw.opens_first
  have hfifo := hw.fifo
  cases hex : w.executed with
  | nil => simp [hex] at he₀
  | cons e ex =>
    rw [hex, List.head?_cons, Option.mem_some_iff] at he₀
    subst he₀
    rw [hex, hs0, List.map_cons, List.cons_append, List.cons.injEq] at hfifo
    exact hfifo.1

theorem lastOpenCursor_mem {es : List (Executed D)} {e : Executed D}
    (h : lastOpenCursor es = some e) : e ∈ es := by
  induction es with
  | nil => simp [lastOpenCursor] at h
  | cons e' es ih =>
      simp only [lastOpenCursor] at h
      cases hl : lastOpenCursor es with
      | some e'' =>
          rw [hl, Option.or_some, Option.some.injEq] at h
          subst h
          exact List.mem_cons_of_mem _ (ih hl)
      | none =>
          rw [hl, Option.none_or] at h
          split_ifs at h
          cases h
          exact List.mem_cons_self _ _

/-- The jobs of each stream run in the order `handle_request` queued them, the first being the
stream's `OpenStream` job, and every later job sees the connection that job stored: what
`connection_maker.create()` gave it, or none when the factory failed.  When a
`CloseCursor(c)` or `FetchCursor(c)` job is next to run, the last `OpenCursor` job the worker
ran opened `c`, and `Stream.cursor_hnd` holds the handle that job created, or nothing exactly
when that job found no connection: never the handle of a cursor closed earlier or of another
cursor id. -/
theorem stream_jobs_fifo_cursor (server : Server A) (compilers : Compilers P)
    {sys : System A D} (hreach : Reachable server compilers sys) :
    ∀ w ∈ sys.workers,
      w.executed.map Executed.job ++ w.mailbox = w.sent ∧
      (∃ rest, w.sent = .openStream :: rest ∧ .openStream ∉ rest) ∧
      (∀ e ∈ w.executed.tail, e.before.db = w.stream.db) ∧
      (∀ e₀ ∈ w.executed.head?, e₀.job = .openStream ∧ w.stream.db = e₀.factory.toOption ∧
        ∀ e ∈ w.executed.tail, e.before.db = e₀.factory.toOption) ∧
      ∀ cursorId rest,
        (w.mailbox = .closeCursor cursorId :: rest ∨
          ∃ maxCount maxTotalSize, w.mailbox = .fetchCursor cursorId maxCount maxTotalSize :: rest) →
        ∃ e streamId cursorHnd, lastOpenCursor w.executed = some e ∧
          e.job = .openCursor streamId cursorHnd cursorId ∧
          w.stream.cursorHnd = if e.before.db.isSome then some cursorHnd else none := by
  intro w hw
  obtain ⟨i, hi⟩ := List.mem_iff_getElem?.mp hw
  have hinv := hreach.systemInv.worker i w hi
  refine ⟨hinv.fifo, hinv.opens_first, hinv.db_seen, fun _ => hinv.created,
    fun cursorId rest hjob => ?_⟩
  have hopen : (cursorAfter none (w.executed.map Executed.job)).map Prod.fst = some cursorId := by
    have hjobs := hinv.cursor_jobs
    rw [← hinv.fifo] at hjobs
    rcases hjob with hmb | ⟨_, _, hmb⟩ <;> rw [hmb] at hjobs <;>
      exact (cursorJobsOk_append.mp hjobs).2.1
  obtain ⟨⟨c, cursorHnd⟩, hafter, rfl⟩ := Option.map_eq_some'.mp hopen
  rcases lastOpenCursor_of_cursorAfter hafter with ⟨e, streamId, hlast, he⟩ | ⟨-, hnone⟩
  · refine ⟨e, streamId, cursorHnd, hlast, he, ?_⟩
    have hdb : e.before.db = w.stream.db := by
      obtain ⟨rest0, hs0, hnot⟩ := hinv.opens_first
      have hmem := lastOpenCursor_mem hlast
      cases hex : w.executed with
      | nil => simp [hex] at hmem
      | cons e₀ ex =>
          have hfifo := hinv.fifo
          rw [hex, hs0] at hfifo
          simp only [List.map_cons, List.cons_append, List.cons.injEq] at hfifo
          rw [hex] at hmem
          rcases List.mem_cons.mp hmem with rfl | hmem'
          · rw [he] at hfifo; cases hfifo.1
          · exact hinv.db_seen e (by simpa [hex] using hmem')
    rw [hinv.cursor_hnd, hafter, hdb]
    rfl
  · cases hnone

/-- `cursorOpenedSystem` once stream 1's worker has run its `OpenStream` job, whose factory made
a connection, and its `OpenCursor` job, and `FetchCursor(2, 5)` has been queued behind them. -/
def fetchQueuedSystem : System Unit Unit :=
  (handleRequest acceptingServer acceptingCompilers
    { cursorOpenedSystem with
      workers := (cursorOpenedSystem.workers.modify (Worker.step (.ok ())) 0).modify
        (Worker.step (.ok ())) 0 }
    (.fetchCursor 2 5)).2

theorem fetchQueuedSystem_reachable :
    Reachable acceptingServer acceptingCompilers fetchQueuedSystem :=
  .step (.step (.step cursorOpenedSystem_reachable (.work _ 0 (.ok ()))) (.work _ 0 (.ok ())))
    (.request _ _ (by decide) (by decide))

theorem stream_jobs_fifo_cursor_fetchQueued :
    Reachable acceptingServer acceptingCompilers fetchQueuedSystem ∧
    ∀ w ∈ fetchQueuedSystem.workers,
      w.executed.map Executed.job ++ w.mailbox = w.sent ∧
      (∃ rest, w.sent = .openStream :: rest ∧ .openStream ∉ rest) ∧
      (∀ e ∈ w.executed.tail, e.before.db = w.stream.db) ∧
      (∀ e₀ ∈ w.executed.head?, e₀.job = .openStream ∧ w.stream.db = e₀.factory.toOption ∧
        ∀ e ∈ w.executed.tail, e.before.db = e₀.factory.toOption) ∧
      ∀ cursorId rest,
        (w.mailbox = .closeCursor cursorId :: rest ∨
          ∃ maxCount maxTotalSize, w.mailbox = .fetchCursor cursorId maxCount maxTotalSize :: rest) →
        ∃ e streamId cursorHnd, lastOpenCursor w.executed = some e ∧
          e.job = .openCursor streamId cursorHnd cursorId ∧
          w.stream.cursorHnd = if e.before.db.isSome then some cursorHnd else none :=
  ⟨fetchQueuedSystem_reachable, stream_jobs_fifo_cursor _ _ fetchQueuedSystem_reachable⟩

end Hrana
end Sqld
