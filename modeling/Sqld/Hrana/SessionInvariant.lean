import Sqld.Hrana.Worker

/-!
# The session's bookkeeping invariant

§3 of the specification says of a session's maps: each stream has at most one open cursor,
every cursor id in `cursors` corresponds to the stream that records it as its open cursor,
and at most `MAX_SQL_COUNT` SQL texts are stored.  `handle_request` relies on this: the
`CloseCursor` and `FetchCursor` branches look up the cursor's stream with `get_stream_mut!`
and `assert_eq!` that it records the cursor.

* `MapsInv` states the invariant over the three maps, and one lemma per map update of
  `handle_request` shows that the update keeps it;
* `handleRequest_handled` lists what each branch of `handle_request` can do to the state, and
  `handleRequest_mapsInv` follows from it;
* `session_maps_invariant` proves it of every reachable state, and that the two lookups of
  the cursor branches can then neither bail nor fail their assertion;
* `handleRequest_err_unchanged` proves that a request that fails leaves the whole state, the
  workers and the spawned tasks included, as it was.
-/

namespace Sqld
namespace Hrana

variable {A D P : Type}

/-- The invariant of the session's maps. -/
structure MapsInv (streams : IdMap StreamHandle) (cursors : IdMap I32) (sqls : IdMap String) :
    Prop where
  cursor_stream : ∀ cursorId streamId, cursors.lookup cursorId = some streamId →
    ∃ streamHnd, streams.lookup streamId = some streamHnd ∧ streamHnd.cursorId = some cursorId
  stream_cursor : ∀ streamId streamHnd cursorId, streams.lookup streamId = some streamHnd →
    streamHnd.cursorId = some cursorId → cursors.lookup cursorId = some streamId
  sqls_le : sqls.entries.length ≤ maxSqlCount

/-- The invariant of a session. -/
def Session.Inv (session : Session A) : Prop :=
  MapsInv session.streams session.cursors session.sqls

variable {streams : IdMap StreamHandle} {cursors : IdMap I32} {sqls : IdMap String}
  {streamId cursorId : I32} {streamHnd : StreamHandle}

theorem MapsInv.empty : MapsInv (∅ : IdMap StreamHandle) ∅ ∅ :=
  ⟨by simp, by simp, by simp [maxSqlCount]⟩

/-- `OpenStream` inserts a fresh stream with no cursor. -/
theorem MapsInv.insert_stream (h : MapsInv streams cursors sqls) (hfresh : streamId ∉ streams)
    (hnd : StreamHandle) (hnone : hnd.cursorId = none) :
    MapsInv (streams.insert streamId hnd) cursors sqls where
  cursor_stream c s hc := by
    obtain ⟨hnd', hl, hcid⟩ := h.cursor_stream c s hc
    have hs : s ≠ streamId := by
      rintro rfl; exact hfresh (AList.lookup_isSome.mp (by simp [hl]))
    exact ⟨hnd', by simpa [AList.lookup_insert_ne hs] using hl, hcid⟩
  stream_cursor s hnd' c hl hcid := by
    by_cases hs : s = streamId
    · subst hs; simp only [AList.lookup_insert, Option.some.injEq] at hl; subst hl
      simp [hnone] at hcid
    · exact h.stream_cursor s hnd' c (by simpa [AList.lookup_insert_ne hs] using hl) hcid
  sqls_le := h.sqls_le

/-- `CloseStream` of a stream with no cursor. -/
theorem MapsInv.erase_stream (h : MapsInv streams cursors sqls)
    (hl : streams.lookup streamId = some streamHnd) (hnone : streamHnd.cursorId = none) :
    MapsInv (streams.erase streamId) cursors sqls where
  cursor_stream c s hc := by
    obtain ⟨hnd', hl', hcid⟩ := h.cursor_stream c s hc
    have hs : s ≠ streamId := by rintro rfl; simp_all
    exact ⟨hnd', by simpa [AList.lookup_erase_ne hs] using hl', hcid⟩
  stream_cursor s hnd' c hl' hcid := by
    have hs : s ≠ streamId := by rintro rfl; simp at hl'
    exact h.stream_cursor s hnd' c (by simpa [AList.lookup_erase_ne hs] using hl') hcid
  sqls_le := h.sqls_le

/-- `CloseStream` of a stream with an open cursor drops the cursor too. -/
theorem MapsInv.erase_stream_cursor (h : MapsInv streams cursors sqls)
    (hl : streams.lookup streamId = some streamHnd) (hsome : streamHnd.cursorId = some cursorId) :
    MapsInv (streams.erase streamId) (cursors.erase cursorId) sqls where
  cursor_stream c s hc := by
    have hcne : c ≠ cursorId := by rintro rfl; simp at hc
    obtain ⟨hnd', hl', hcid⟩ := h.cursor_stream c s (by simpa [AList.lookup_erase_ne hcne] using hc)
    have hs : s ≠ streamId := by rintro rfl; simp_all
    exact ⟨hnd', by simpa [AList.lookup_erase_ne hs] using hl', hcid⟩
  stream_cursor s hnd' c hl' hcid := by
    have hs : s ≠ streamId := by rintro rfl; simp at hl'
    have hold := h.stream_cursor s hnd' c (by simpa [AList.lookup_erase_ne hs] using hl') hcid
    have hcne : c ≠ cursorId := by
      rintro rfl; exact hs (Option.some.inj ((h.stream_cursor _ _ _ hl hsome).symm.trans hold)).symm
    simpa [AList.lookup_erase_ne hcne] using hold
  sqls_le := h.sqls_le

/-- `StoreSql` stores a fresh text below the bound. -/
theorem MapsInv.insert_sql (h : MapsInv streams cursors sqls) {sqlId : I32} (sql : String)
    (hfresh : sqlId ∉ sqls) (hroom : ¬ sqls.entries.length ≥ maxSqlCount) :
    MapsInv streams cursors (sqls.insert sqlId sql) :=
  ⟨h.cursor_stream, h.stream_cursor, by
    rw [AList.insert_entries_of_neg hfresh, List.length_cons]; omega⟩

/-- `CloseSql` removes a text, if stored. -/
theorem MapsInv.erase_sql (h : MapsInv streams cursors sqls) (sqlId : I32) :
    MapsInv streams cursors (sqls.erase sqlId) :=
  ⟨h.cursor_stream, h.stream_cursor,
    ((List.kerase_sublist sqlId sqls.entries).length_le).trans h.sqls_le⟩

/-- `OpenCursor` on a stream with no cursor, under a fresh cursor id. -/
theorem MapsInv.open_cursor (h : MapsInv streams cursors sqls)
    (hl : streams.lookup streamId = some streamHnd) (hnone : streamHnd.cursorId = none)
    (hfresh : cursorId ∉ cursors) :
    MapsInv (streams.insert streamId { streamHnd with cursorId := some cursorId })
      (cursors.insert cursorId streamId) sqls where
  cursor_stream c s hc := by
    by_cases hcc : c = cursorId
    · subst hcc; simp only [AList.lookup_insert, Option.some.injEq] at hc; subst hc; simp
    · obtain ⟨hnd', hl', hcid⟩ :=
        h.cursor_stream c s (by simpa [AList.lookup_insert_ne hcc] using hc)
      have hs : s ≠ streamId := by rintro rfl; simp_all
      exact ⟨hnd', by simpa [AList.lookup_insert_ne hs] using hl', hcid⟩
  stream_cursor s hnd' c hl' hcid := by
    by_cases hs : s = streamId
    · subst hs; simp only [AList.lookup_insert, Option.some.injEq] at hl'; subst hl'
      simp only [Option.some.injEq] at hcid; subst hcid; simp
    · have hold := h.stream_cursor s hnd' c (by simpa [AList.lookup_insert_ne hs] using hl') hcid
      have hcne : c ≠ cursorId := by
        rintro rfl; exact hfresh (AList.lookup_isSome.mp (by simp [hold]))
      simpa [AList.lookup_insert_ne hcne] using hold
  sqls_le := h.sqls_le

/-- `CloseCursor` of the cursor a stream records. -/
theorem MapsInv.close_cursor (h : MapsInv streams cursors sqls)
    (hc : cursors.lookup cursorId = some streamId) (hl : streams.lookup streamId = some streamHnd)
    (hsome : streamHnd.cursorId = some cursorId) :
    MapsInv (streams.insert streamId { streamHnd with cursorId := none })
      (cursors.erase cursorId) sqls where
  cursor_stream c s hc' := by
    have hcc : c ≠ cursorId := by rintro rfl; simp at hc'
    have hold : cursors.lookup c = some s := by simpa [AList.lookup_erase_ne hcc] using hc'
    obtain ⟨hnd', hl', hcid⟩ := h.cursor_stream c s hold
    have hs : s ≠ streamId := by
      rintro rfl; rw [hl] at hl'; cases hl'; exact hcc (Option.some.inj (hcid.symm.trans hsome))
    exact ⟨hnd', by simpa [AList.lookup_insert_ne hs] using hl', hcid⟩
  stream_cursor s hnd' c hl' hcid := by
    by_cases hs : s = streamId
    · subst hs; simp only [AList.lookup_insert, Option.some.injEq] at hl'; subst hl'
      simp at hcid
    · have hold := h.stream_cursor s hnd' c (by simpa [AList.lookup_insert_ne hs] using hl') hcid
      have hcne : c ≠ cursorId := by rintro rfl; exact hs (Option.some.inj (hold.symm.trans hc))
      simpa [AList.lookup_erase_ne hcne] using hold
  sqls_le := h.sqls_le

theorem Session.getStreamMut_eq_ok {session : Session A} {hnd : StreamHandle} :
    session.getStreamMut streamId = .ok hnd ↔ session.streams.lookup streamId = some hnd := by
  unfold Session.getStreamMut; split <;> simp_all

/-- The jobs that neither open the stream nor touch its cursor: they read the stream's
connection only. -/
def StreamJob.IsPlain (streamId : I32) : StreamJob → Prop
  | .execute s | .batch s | .sequence s | .describe s | .getAutocommit s => s = streamId
  | _ => False

/-- Everything a request can do to the state, by branch of `handle_request`: nothing (it
failed), queue a plain job or a `FetchCursor` job on an open stream, store or drop a SQL
text, or one of the four updates of the stream and cursor maps, each with its job. -/
inductive Handled (sys : System A D) : System A D → Prop
  | unchanged : Handled sys sys
  | plain (streamId : I32) (streamHnd : StreamHandle) (job : StreamJob)
      (hl : sys.session.streams.lookup streamId = some streamHnd) (hjob : job.IsPlain streamId) :
      Handled sys (sys.streamRespond streamHnd job)
  | fetchCursor (cursorId streamId : I32) (streamHnd : StreamHandle) (maxCount maxTotalSize : Nat)
      (hl : sys.session.streams.lookup streamId = some streamHnd)
      (hcid : streamHnd.cursorId = some cursorId) :
      Handled sys (sys.streamRespond streamHnd (.fetchCursor cursorId maxCount maxTotalSize))
  | storeSql (sqlId : I32) (sql : String) (hfresh : sqlId ∉ sys.session.sqls)
      (hroom : ¬ sys.session.sqls.entries.length ≥ maxSqlCount) :
      Handled sys (sys.setSqls (sys.session.sqls.insert sqlId sql))
  | closeSql (sqlId : I32) : Handled sys (sys.setSqls (sys.session.sqls.erase sqlId))
  | openStream (streamId : I32) (hfresh : streamId ∉ sys.session.streams) :
      Handled sys ((sys.streamSpawn.2.streamRespond sys.streamSpawn.1 .openStream).setStreams
        (sys.session.streams.insert streamId sys.streamSpawn.1))
  | closeStream (streamId : I32) (streamHnd : StreamHandle)
      (hl : sys.session.streams.lookup streamId = some streamHnd)
      (hnone : streamHnd.cursorId = none) :
      Handled sys ((sys.setStreams (sys.session.streams.erase streamId)).streamRespond streamHnd
        .closeStream)
  | closeStreamCursor (streamId cursorId : I32) (streamHnd : StreamHandle)
      (hl : sys.session.streams.lookup streamId = some streamHnd)
      (hsome : streamHnd.cursorId = some cursorId) :
      Handled sys (((sys.setStreams (sys.session.streams.erase streamId)).setCursors
        (sys.session.cursors.erase cursorId)).streamRespond streamHnd .closeStream)
  | openCursor (streamId cursorId : I32) (streamHnd : StreamHandle)
      (hl : sys.session.streams.lookup streamId = some streamHnd)
      (hnone : streamHnd.cursorId = none) (hfresh : cursorId ∉ sys.session.cursors) :
      Handled sys (((sys.cursorSpawn.2.streamRespond streamHnd
        (.openCursor streamId sys.cursorSpawn.1 cursorId)).setCursors
          (sys.session.cursors.insert cursorId streamId)).setStreams
            (sys.session.streams.insert streamId { streamHnd with cursorId := some cursorId }))
  | closeCursor (cursorId streamId : I32) (streamHnd : StreamHandle)
      (hc : sys.session.cursors.lookup cursorId = some streamId)
      (hl : sys.session.streams.lookup streamId = some streamHnd)
      (hsome : streamHnd.cursorId = some cursorId) :
      Handled sys (((sys.setCursors (sys.session.cursors.erase cursorId)).setStreams
        (sys.session.streams.insert streamId { streamHnd with cursorId := none })).streamRespond
          { streamHnd with cursorId := none } (.closeCursor cursorId))

/-- Under the invariant, every request does one of the things `Handled` lists. -/
theorem handleRequest_handled (server : Server A) (compilers : Compilers P) (sys : System A D)
    (h : sys.session.Inv) (req : Request P) :
    Handled sys (handleRequest server compilers sys req).2 := by
  cases req with
  | openStream streamId =>
      simp only [handleRequest]
      split_ifs with hmem
      · exact .unchanged
      · exact .openStream streamId hmem
  | closeStream streamId =>
      simp only [handleRequest]
      split
      · exact .unchanged
      · rename_i hnd hl
        split <;> rename_i hc
        · exact .closeStreamCursor streamId _ hnd hl hc
        · exact .closeStream streamId hnd hl hc
  | storeSql sqlId sql =>
      simp only [handleRequest]
      split
      · exact .unchanged
      · split_ifs with hmem hlen
        · exact .unchanged
        · exact .unchanged
        · exact .storeSql sqlId sql hmem hlen
  | closeSql sqlId =>
      simp only [handleRequest]
      split
      · exact .unchanged
      · exact .closeSql sqlId
  | openCursor streamId cursorId batch =>
      simp only [handleRequest]
      split
      · exact .unchanged
      split
      · exact .unchanged
      rename_i hnd hl
      split_ifs with hcur hmem
      · exact .unchanged
      · exact .unchanged
      split
      · exact .unchanged
      · exact .openCursor streamId cursorId hnd (Session.getStreamMut_eq_ok.mp hl)
          (by simpa using hcur) hmem
  | closeCursor cursorId =>
      simp only [handleRequest]
      split
      · exact .unchanged
      split
      · exact .unchanged
      rename_i streamId hc
      obtain ⟨hnd, hl, hcid⟩ := h.cursor_stream _ _ hc
      simp only [System.setCursors_session, Session.getStreamMut, hl, hcid, ne_eq,
        not_true_eq_false, if_false]
      exact .closeCursor cursorId streamId hnd hc hl hcid
  | fetchCursor cursorId maxCount =>
      simp only [handleRequest]
      split
      · exact .unchanged
      split
      · exact .unchanged
      rename_i streamId hc
      obtain ⟨hnd, hl, hcid⟩ := h.cursor_stream _ _ hc
      simp only [Session.getStreamMut, hl, hcid, ne_eq, not_true_eq_false, if_false]
      exact .fetchCursor cursorId streamId hnd _ _ hl hcid
  | _ =>
      simp only [handleRequest]
      repeat' split
      all_goals first
        | exact .unchanged
        | exact .plain _ _ _ (Session.getStreamMut_eq_ok.mp ‹_›) rfl

/-- Every update `Handled` lists keeps the invariant. -/
theorem Handled.mapsInv {sys sys' : System A D} (hh : Handled sys sys') (h : sys.session.Inv) :
    sys'.session.Inv := by
  cases hh with
  | unchanged => exact h
  | plain => exact h
  | fetchCursor => exact h
  | storeSql sqlId sql hfresh hroom => exact h.insert_sql sql hfresh hroom
  | closeSql sqlId => exact h.erase_sql sqlId
  | openStream streamId hfresh => exact h.insert_stream hfresh _ rfl
  | closeStream streamId hnd hl hnone => exact h.erase_stream hl hnone
  | closeStreamCursor streamId cursorId hnd hl hsome => exact h.erase_stream_cursor hl hsome
  | openCursor streamId cursorId hnd hl hnone hfresh => exact h.open_cursor hl hnone hfresh
  | closeCursor cursorId streamId hnd hc hl hsome => exact h.close_cursor hc hl hsome

/-- `handle_request` keeps the invariant. -/
theorem handleRequest_mapsInv (server : Server A) (compilers : Compilers P) (sys : System A D)
    (req : Request P) (h : sys.session.Inv) :
    (handleRequest server compilers sys req).2.session.Inv :=
  (handleRequest_handled server compilers sys h req).mapsInv h

/-- Under the invariant, `CloseCursor` fails only on the version gate or an unknown cursor. -/
theorem handleRequest_closeCursor_result (server : Server A) (compilers : Compilers P)
    (sys : System A D) (h : sys.session.Inv) (cursorId : I32) :
    (handleRequest server compilers sys (.closeCursor cursorId)).1 =
      if sys.session.version < .hrana3 then
        .err (.protocol (.notSupported "The `close_cursor` request" .hrana3))
      else if cursorId ∈ sys.session.cursors then .ok
      else .err (.protocol (.cursorNotFound cursorId)) := by
  simp only [handleRequest, Session.ensureVersion]
  by_cases hv : sys.session.version < .hrana3
  · simp [hv]
  simp only [hv, if_false]
  cases hc : sys.session.cursors.lookup cursorId with
  | none => simp [AList.lookup_eq_none.mp hc]
  | some streamId =>
      obtain ⟨hnd, hl, hcid⟩ := h.cursor_stream _ _ hc
      have hmem : cursorId ∈ sys.session.cursors := AList.lookup_isSome.mp (by rw [hc]; rfl)
      simp [Session.getStreamMut, hl, hcid, hmem]

/-- Under the invariant, `FetchCursor` fails only on the version gate or an unknown cursor. -/
theorem handleRequest_fetchCursor_result (server : Server A) (compilers : Compilers P)
    (sys : System A D) (h : sys.session.Inv) (cursorId : I32) (maxCount : UInt32) :
    (handleRequest server compilers sys (.fetchCursor cursorId maxCount)).1 =
      if sys.session.version < .hrana3 then
        .err (.protocol (.notSupported "The `fetch_cursor` request" .hrana3))
      else if cursorId ∈ sys.session.cursors then .ok
      else .err (.protocol (.cursorNotFound cursorId)) := by
  simp only [handleRequest, Session.ensureVersion]
  by_cases hv : sys.session.version < .hrana3
  · simp [hv]
  simp only [hv, if_false]
  cases hc : sys.session.cursors.lookup cursorId with
  | none => simp [AList.lookup_eq_none.mp hc]
  | some streamId =>
      obtain ⟨hnd, hl, hcid⟩ := h.cursor_stream _ _ hc
      have hmem : cursorId ∈ sys.session.cursors := AList.lookup_isSome.mp (by rw [hc]; rfl)
      simp [Session.getStreamMut, hl, hcid, hmem]

/-- Only the two cursor branches can fail an assertion, and under the invariant they do not. -/
theorem handleRequest_ne_assertFailed (server : Server A) (compilers : Compilers P)
    (sys : System A D) (h : sys.session.Inv) (req : Request P) :
    (handleRequest server compilers sys req).1 ≠ .assertFailed := by
  cases req with
  | closeCursor cursorId =>
      rw [handleRequest_closeCursor_result server compilers sys h]
      split_ifs <;> simp
  | fetchCursor cursorId maxCount =>
      rw [handleRequest_fetchCursor_result server compilers sys h]
      split_ifs <;> simp
  | _ =>
      simp only [handleRequest]
      repeat' split
      all_goals simp

/-- A repeated hello replaces the identity only. -/
theorem handleRepeatedHello_maps (server : Server A) (session : Session A) (jwt : Option String) :
    (handleRepeatedHello server session jwt).2 = session ∨
      ∃ authenticated, (handleRepeatedHello server session jwt).2 = { session with authenticated } := by
  unfold handleRepeatedHello
  split_ifs
  · exact .inl rfl
  · split
    · exact .inl rfl
    · exact .inr ⟨_, rfl⟩

/-- Every step of a run keeps the invariant. -/
theorem Step.mapsInv {server : Server A} {compilers : Compilers P} {sys sys' : System A D}
    (hstep : Step server compilers sys sys') (h : sys.session.Inv) : sys'.session.Inv := by
  cases hstep with
  | request req _ _ => exact handleRequest_mapsInv server compilers sys req h
  | hello jwt =>
      rcases handleRepeatedHello_maps server sys.session jwt with heq | ⟨_, heq⟩ <;>
        simpa [Session.Inv, heq] using h
  | work i factory => exact h

/-- The invariant holds in every reachable state. -/
theorem Reachable.session_inv {server : Server A} {compilers : Compilers P} {sys : System A D}
    (hreach : Reachable server compilers sys) : sys.session.Inv := by
  refine Reachable.induction_on (fun _ _ session hs => ?_) (fun _ _ h hst => hst.mapsInv h) hreach
  obtain ⟨hst, hsq, hcu⟩ := handleInitialHello_maps hs
  simpa [Session.Inv, hst, hsq, hcu] using MapsInv.empty

/-- The bookkeeping invariant of §3 holds in every reachable state, so the `assert_eq!` checks
of `CloseCursor` and `FetchCursor` never fail and their `get_stream_mut!` lookup of the
cursor's stream never bails with `StreamNotFound`. -/
theorem session_maps_invariant (server : Server A) (compilers : Compilers P) {sys : System A D}
    (hreach : Reachable server compilers sys) :
    sys.session.Inv ∧
    (∀ req : Request P, (handleRequest server compilers sys req).1 ≠ .assertFailed) ∧
    ∀ cursorId maxCount streamId,
      (handleRequest server compilers sys (.closeCursor cursorId)).1 ≠
        .err (.protocol (.streamNotFound streamId)) ∧
      (handleRequest server compilers sys (.fetchCursor cursorId maxCount)).1 ≠
        .err (.protocol (.streamNotFound streamId)) := by
  have h := hreach.session_inv
  refine ⟨h, handleRequest_ne_assertFailed server compilers sys h, fun cursorId maxCount _ => ?_⟩
  rw [handleRequest_closeCursor_result server compilers sys h,
    handleRequest_fetchCursor_result server compilers sys h]
  constructor <;> split_ifs <;> simp

/-- The invariant at a state with an open stream and an open cursor, two requests into a run. -/
theorem session_maps_invariant_cursorOpened :
    Reachable acceptingServer acceptingCompilers cursorOpenedSystem ∧
    cursorOpenedSystem.session.Inv ∧
    (∀ req : Request Unit,
      (handleRequest acceptingServer acceptingCompilers cursorOpenedSystem req).1 ≠ .assertFailed) ∧
    ∀ cursorId maxCount streamId,
      (handleRequest acceptingServer acceptingCompilers cursorOpenedSystem (.closeCursor cursorId)).1 ≠
        .err (.protocol (.streamNotFound streamId)) ∧
      (handleRequest acceptingServer acceptingCompilers cursorOpenedSystem
        (.fetchCursor cursorId maxCount)).1 ≠ .err (.protocol (.streamNotFound streamId)) :=
  ⟨cursorOpenedSystem_reachable, session_maps_invariant _ _ cursorOpenedSystem_reachable⟩

/-- Under the invariant, a request that fails leaves the state as it was: every `bail!` of
`handle_request` comes before its first update, except the `StreamNotFound` of `CloseCursor`,
which comes after the cursor's removal and which the invariant rules out. -/
theorem handleRequest_err_eq (server : Server A) (compilers : Compilers P) (sys : System A D)
    (h : sys.session.Inv) (req : Request P) {err : Error}
    (herr : (handleRequest server compilers sys req).1 = .err err) :
    (handleRequest server compilers sys req).2 = sys := by
  revert herr
  cases req with
  | closeCursor cursorId =>
      simp only [handleRequest, Session.ensureVersion]
      by_cases hv : sys.session.version < .hrana3
      · simp [hv]
      simp only [hv, if_false]
      cases hc : sys.session.cursors.lookup cursorId with
      | none => simp
      | some streamId =>
          obtain ⟨hnd, hl, hcid⟩ := h.cursor_stream _ _ hc
          simp [Session.getStreamMut, hl, hcid]
  | _ =>
      simp only [handleRequest]
      repeat' split
      all_goals simp

/-- A repeated hello that fails leaves the session as it was. -/
theorem handleRepeatedHello_err_eq (server : Server A) (session : Session A)
    (jwt : Option String) {err : Error}
    (herr : (handleRepeatedHello server session jwt).1 = .error err) :
    (handleRepeatedHello server session jwt).2 = session := by
  revert herr
  unfold handleRepeatedHello
  split_ifs
  · simp
  · split <;> simp

/-- Failed requests are atomic: in every reachable state, a `handle_request` or a
`handle_repeated_hello` that returns `Err` changes nothing, neither the session (its streams
with their cursor ids, its cursors, its SQL texts, identity and version) nor the workers'
mailboxes nor the set of spawned stream and cursor tasks. -/
theorem handleRequest_err_unchanged (server : Server A) (compilers : Compilers P)
    {sys : System A D} (hreach : Reachable server compilers sys) :
    (∀ (req : Request P) (err : Error), (handleRequest server compilers sys req).1 = .err err →
      (handleRequest server compilers sys req).2 = sys) ∧
    (∀ (jwt : Option String) (err : Error),
      (handleRepeatedHello server sys.session jwt).1 = .error err →
      (handleRepeatedHello server sys.session jwt).2 = sys.session) :=
  ⟨fun req _ herr => handleRequest_err_eq server compilers sys hreach.session_inv req herr,
    fun jwt _ herr => handleRepeatedHello_err_eq server sys.session jwt herr⟩

/-- Atomicity at a state with an open stream and an open cursor, where `CloseCursor(2)` goes
through the removal of the cursor and the lookup of its stream, and succeeds. -/
theorem handleRequest_err_unchanged_cursorOpened :
    Reachable acceptingServer acceptingCompilers cursorOpenedSystem ∧
    (handleRequest acceptingServer acceptingCompilers cursorOpenedSystem (.closeCursor 2)).1 = .ok ∧
    (∀ (req : Request Unit) (err : Error),
      (handleRequest acceptingServer acceptingCompilers cursorOpenedSystem req).1 = .err err →
      (handleRequest acceptingServer acceptingCompilers cursorOpenedSystem req).2 =
        cursorOpenedSystem) ∧
    (∀ (jwt : Option String) (err : Error),
      (handleRepeatedHello acceptingServer cursorOpenedSystem.session jwt).1 = .error err →
      (handleRepeatedHello acceptingServer cursorOpenedSystem.session jwt).2 =
        cursorOpenedSystem.session) :=
  ⟨cursorOpenedSystem_reachable, by decide,
    handleRequest_err_unchanged _ _ cursorOpenedSystem_reachable⟩

end Hrana
end Sqld
