import Mathlib.Data.List.AList

/-!
# The Hrana session and its request dispatch

`hrana/ws/session.rs` keeps, per authenticated client, a `Session` with three maps keyed by
`i32` ids (streams, stored SQL texts, cursors) and hands each request to `handle_request`,
which checks the request against the maps, updates them, and queues a job on the worker task
of the request's stream.

The model keeps the session together with the tasks that `handle_request` spawns into the
connection's `JoinSet`, as a `System`:

* `workers` are the stream tasks of `stream_spawn`, in spawn order; a `StreamHandle` names
  its worker by position.  Each worker keeps the faithful `Stream` and job mailbox, and two
  ghost logs: every job sent to it, and every job it has run with the `Stream` it saw;
* `cursorTasks` counts the tasks of `CursorHandle::spawn`, which name the handles.

`handle_request` works on `&mut Session` and returns early through `bail!`, so the model
returns the state reached at the point of return together with the result: a mutation made
before a `bail!` is kept, as in the code.

Collaborators outside the sources are parameters: authentication (`Server.authenticateJwt`),
and the compilers of `stmt.rs` and `batch.rs` (`Compilers`), whose successful results go to
the engine and are not modelled.
-/

namespace Sqld
namespace Hrana

/-- An `i32` id of a stream, a cursor or a stored SQL text. -/
abbrev I32 := BitVec 32

/-- A map keyed by `i32` ids (`HashMap<i32, β>`). -/
abbrev IdMap (β : Type) := AList (fun _ : I32 => β)

/-- Modelled from the spec: the negotiated protocol version, `v1 < v2 < v3`. -/
inductive Version
  | hrana1
  | hrana2
  | hrana3
  deriving DecidableEq, Repr

/-- The rank of a version, which orders them. -/
def Version.toNat : Version → Nat
  | .hrana1 => 1
  | .hrana2 => 2
  | .hrana3 => 3

instance : LT Version := ⟨fun a b => a.toNat < b.toNat⟩

instance (a b : Version) : Decidable (a < b) := inferInstanceAs (Decidable (a.toNat < b.toNat))

/-- An error of a collaborator outside the sources (authentication, the statement and batch
compilers, the engine); only its message is kept. -/
structure ExternalError where
  message : String
  deriving DecidableEq, Repr

/-- Modelled from the spec: the `ProtocolError`s that `handle_request` raises. -/
inductive ProtocolError
  | notSupported (what : String) (minVersion : Version)
  | streamExists (streamId : I32)
  | streamNotFound (streamId : I32)
  | sqlExists (sqlId : I32)
  | cursorExists (cursorId : I32)
  | cursorNotFound (cursorId : I32)
  | cursorAlreadyOpen (streamId : I32)
  deriving DecidableEq, Repr

/-- `ResponseError`. -/
inductive ResponseError
  | auth (source : ExternalError)
  | streamNotOpen (streamId : I32)
  | cursorNotOpen (cursorId : I32)
  | sqlTooMany (count : Nat)
  | stmt (err : ExternalError)
  | batch (err : ExternalError)
  deriving DecidableEq, Repr

/-- An `anyhow::Error`, as far as the session looks into it: a statement error that has not
been caught yet is told apart from the rest. -/
inductive Error
  | protocol (err : ProtocolError)
  | response (err : ResponseError)
  | stmt (err : ExternalError)
  | other (err : ExternalError)
  deriving DecidableEq, Repr

/-- `catch_stmt_error`: a statement error becomes a `Stmt` response error. -/
def catchStmtError : Error → Error
  | .stmt err => .response (.stmt err)
  | err => err

/-- The requests of the framed protocol.  `P` is the payload (a statement, a batch, a SQL
text or id) that only the compilers read. -/
inductive Request (P : Type)
  | openStream (streamId : I32)
  | closeStream (streamId : I32)
  | execute (streamId : I32) (stmt : P)
  | batch (streamId : I32) (batch : P)
  | sequence (streamId : I32) (sql : P)
  | describe (streamId : I32) (sql : P)
  | storeSql (sqlId : I32) (sql : String)
  | closeSql (sqlId : I32)
  | openCursor (streamId : I32) (cursorId : I32) (batch : P)
  | closeCursor (cursorId : I32)
  | fetchCursor (cursorId : I32) (maxCount : UInt32)
  | getAutocommit (streamId : I32)

/-- The server fields the session reads. -/
structure Server (A : Type) where
  authenticateJwt : Option String → Except ExternalError A
  maxResponseSize : Nat

/-- The compilers of `stmt.rs` and `batch.rs`, outside the sources.  Each reads the request's
payload, the stored SQL texts and the version, and may fail; what they produce on success is
handed to the engine, which is not modelled. -/
structure Compilers (P : Type) where
  protoStmtToQuery : P → IdMap String → Version → Except Error Unit
  protoBatchToProgram : P → IdMap String → Version → Except Error Unit
  protoSqlToSql : P → IdMap String → Version → Except Error String
  protoSequenceToProgram : String → Except Error Unit

/-- `StreamHandle`: the sending side of a worker's mailbox, named by the worker's position
in the join set, and the id of the stream's open cursor. -/
structure StreamHandle where
  jobTx : Nat
  cursorId : Option I32
  deriving DecidableEq, Repr

/-- `Session`. -/
structure Session (A : Type) where
  authenticated : A
  version : Version
  streams : IdMap StreamHandle
  sqls : IdMap String
  cursors : IdMap I32

/-- `MAX_SQL_COUNT`. -/
def maxSqlCount : Nat := 150

/-- A `CursorHandle`, named by its cursor task. -/
structure CursorHandle where
  task : Nat
  deriving DecidableEq, Repr

/-- The job closures `handle_request` sends to a stream's worker, by what they capture.  The
`cursorId` of `openCursor` and `closeCursor` is the request's cursor id, which the closures do
not capture; the model keeps it to name the job. -/
inductive StreamJob
  | openStream
  | closeStream
  | execute (streamId : I32)
  | batch (streamId : I32)
  | sequence (streamId : I32)
  | describe (streamId : I32)
  | openCursor (streamId : I32) (cursorHnd : CursorHandle) (cursorId : I32)
  | closeCursor (cursorId : I32)
  | fetchCursor (cursorId : I32) (maxCount : Nat) (maxTotalSize : Nat)
  | getAutocommit (streamId : I32)
  deriving DecidableEq, Repr

/-- `Stream`: the worker-local state of a stream. -/
structure Stream (D : Type) where
  db : Option D
  cursorHnd : Option CursorHandle

/-- A job a worker has run, with the `Stream` it ran on and what `connection_maker.create()`
gave when it ran (only the `OpenStream` job's closure calls it). -/
structure Executed (D : Type) where
  job : StreamJob
  before : Stream D
  factory : Except ExternalError D

/-- The task spawned by `stream_spawn`: its `Stream`, the jobs waiting in its mailbox, and the
ghost logs of all jobs sent to it and of the jobs it has run. -/
structure Worker (D : Type) where
  stream : Stream D
  mailbox : List StreamJob
  sent : List StreamJob
  executed : List (Executed D)

/-- `job_tx.send(job)`: the job joins the back of the mailbox. -/
def Worker.send {D : Type} (job : StreamJob) (w : Worker D) : Worker D :=
  { w with mailbox := w.mailbox ++ [job], sent := w.sent ++ [job] }

/-- The worker `stream_spawn` starts: a `Stream` with neither connection nor cursor, and an
empty mailbox. -/
def Worker.fresh {D : Type} : Worker D := ⟨⟨none, none⟩, [], [], []⟩

/-- A session with the tasks of its join set. -/
structure System (A D : Type) where
  session : Session A
  workers : List (Worker D)
  cursorTasks : Nat

/-- What `handle_request` ends with: `Ok(resp_rx)`, `Err`, or a failed `assert_eq!`. -/
inductive HandleResult
  | ok
  | err (err : Error)
  | assertFailed
  deriving DecidableEq, Repr

variable {A D P : Type}

/-- `handle_initial_hello`: authenticate, then start with empty maps. -/
def handleInitialHello (server : Server A) (version : Version) (jwt : Option String) :
    Except Error (Session A) :=
  match server.authenticateJwt jwt with
  | .error err => .error (.response (.auth err))
  | .ok authenticated =>
      .ok { authenticated, version, streams := ∅, sqls := ∅, cursors := ∅ }

/-- `handle_repeated_hello`: from version 2 on, authenticate again and replace the identity. -/
def handleRepeatedHello (server : Server A) (session : Session A) (jwt : Option String) :
    Except Error Unit × Session A :=
  if session.version < .hrana2 then
    (.error (.protocol (.notSupported "Repeated hello message" .hrana2)), session)
  else
    match server.authenticateJwt jwt with
    | .error err => (.error (.response (.auth err)), session)
    | .ok authenticated => (.ok (), { session with authenticated })

namespace System

/-- Replace the session's stream map. -/
def setStreams (sys : System A D) (streams : IdMap StreamHandle) : System A D :=
  { sys with session := { sys.session with streams } }

/-- Replace the session's stored SQL texts. -/
def setSqls (sys : System A D) (sqls : IdMap String) : System A D :=
  { sys with session := { sys.session with sqls } }

/-- Replace the session's cursor map. -/
def setCursors (sys : System A D) (cursors : IdMap I32) : System A D :=
  { sys with session := { sys.session with cursors } }

/-- `stream_spawn`: a new worker on a fresh `Stream`, and its handle. -/
def streamSpawn (sys : System A D) : StreamHandle × System A D :=
  (⟨sys.workers.length, none⟩,
    { sys with workers := sys.workers ++ [Worker.fresh] })

/-- `stream_respond`: queue a job on the worker a handle names. -/
def streamRespond (sys : System A D) (streamHnd : StreamHandle) (job : StreamJob) :
    System A D :=
  { sys with workers := sys.workers.modify (Worker.send job) streamHnd.jobTx }

/-- `CursorHandle::spawn`: a new cursor task. -/
def cursorSpawn (sys : System A D) : CursorHandle × System A D :=
  (⟨sys.cursorTasks⟩, { sys with cursorTasks := sys.cursorTasks + 1 })

@[simp] theorem setStreams_session (sys : System A D) (streams : IdMap StreamHandle) :
    (sys.setStreams streams).session = { sys.session with streams } := rfl

@[simp] theorem setSqls_session (sys : System A D) (sqls : IdMap String) :
    (sys.setSqls sqls).session = { sys.session with sqls } := rfl

@[simp] theorem setCursors_session (sys : System A D) (cursors : IdMap I32) :
    (sys.setCursors cursors).session = { sys.session with cursors } := rfl

@[simp] theorem streamSpawn_session (sys : System A D) :
    sys.streamSpawn.2.session = sys.session := rfl

@[simp] theorem streamRespond_session (sys : System A D) (streamHnd : StreamHandle)
    (job : StreamJob) : (sys.streamRespond streamHnd job).session = sys.session := rfl

@[simp] theorem cursorSpawn_session (sys : System A D) :
    sys.cursorSpawn.2.session = sys.session := rfl

end System

/-- `ensure_version!`: the error for a request that needs a newer version. -/
def Session.ensureVersion (session : Session A) (minVersion : Version) (what : String) :
    Option Error :=
  if session.version < minVersion then some (.protocol (.notSupported what minVersion))
  else none

/-- `get_stream_mut!`: the handle of a stream, or `StreamNotFound`. -/
def Session.getStreamMut (session : Session A) (streamId : I32) : Except Error StreamHandle :=
  match session.streams.lookup streamId with
  | some streamHnd => .ok streamHnd
  | none => .error (.protocol (.streamNotFound streamId))

/-- `handle_request`. -/
def handleRequest (server : Server A) (compilers : Compilers P) (sys : System A D) :
    Request P → HandleResult × System A D
  | .openStream streamId =>
      if streamId ∈ sys.session.streams then (.err (.protocol (.streamExists streamId)), sys)
      else
        let (streamHnd, sys) := sys.streamSpawn
        let sys := sys.streamRespond streamHnd .openStream
        (.ok, sys.setStreams (sys.session.streams.insert streamId streamHnd))
  | .closeStream streamId =>
      match sys.session.streams.lookup streamId with
      | none => (.err (.protocol (.streamNotFound streamId)), sys)
      | some streamHnd =>
          let sys := sys.setStreams (sys.session.streams.erase streamId)
          let sys := match streamHnd.cursorId with
            | some cursorId => sys.setCursors (sys.session.cursors.erase cursorId)
            | none => sys
          (.ok, sys.streamRespond streamHnd .closeStream)
  | .execute streamId stmt =>
      match sys.session.getStreamMut streamId with
      | .error err => (.err err, sys)
      | .ok streamHnd =>
          match compilers.protoStmtToQuery stmt sys.session.sqls sys.session.version with
          | .error err => (.err (catchStmtError err), sys)
          | .ok _ => (.ok, sys.streamRespond streamHnd (.execute streamId))
  | .batch streamId batch =>
      match sys.session.getStreamMut streamId with
      | .error err => (.err err, sys)
      | .ok streamHnd =>
          match compilers.protoBatchToProgram batch sys.session.sqls sys.session.version with
          | .error err => (.err (catchStmtError err), sys)
          | .ok _ => (.ok, sys.streamRespond streamHnd (.batch streamId))
  | .sequence streamId sql =>
      match sys.session.ensureVersion .hrana2 "The `sequence` request" with
      | some err => (.err err, sys)
      | none =>
          match sys.session.getStreamMut streamId with
          | .error err => (.err err, sys)
          | .ok streamHnd =>
              match compilers.protoSqlToSql sql sys.session.sqls sys.session.version with
              | .error err => (.err err, sys)
              | .ok sql =>
                  match compilers.protoSequenceToProgram sql with
                  | .error err => (.err (catchStmtError err), sys)
                  | .ok _ => (.ok, sys.streamRespond streamHnd (.sequence streamId))
  | .describe streamId sql =>
      match sys.session.ensureVersion .hrana2 "The `describe` request" with
      | some err => (.err err, sys)
      | none =>
          match sys.session.getStreamMut streamId with
          | .error err => (.err err, sys)
          | .ok streamHnd =>
              match compilers.protoSqlToSql sql sys.session.sqls sys.session.version with
              | .error err => (.err err, sys)
              | .ok _ => (.ok, sys.streamRespond streamHnd (.describe streamId))
  | .storeSql sqlId sql =>
      match sys.session.ensureVersion .hrana2 "The `store_sql` request" with
      | some err => (.err err, sys)
      | none =>
          if sqlId ∈ sys.session.sqls then (.err (.protocol (.sqlExists sqlId)), sys)
          else if sys.session.sqls.entries.length ≥ maxSqlCount then
            (.err (.response (.sqlTooMany sys.session.sqls.entries.length)), sys)
          else (.ok, sys.setSqls (sys.session.sqls.insert sqlId sql))
  | .closeSql sqlId =>
      match sys.session.ensureVersion .hrana2 "The `close_sql` request" with
      | some err => (.err err, sys)
      | none => (.ok, sys.setSqls (sys.session.sqls.erase sqlId))
  | .openCursor streamId cursorId batch =>
      match sys.session.ensureVersion .hrana3 "The `open_cursor` request" with
      | some err => (.err err, sys)
      | none =>
          match sys.session.getStreamMut streamId with
          | .error err => (.err err, sys)
          | .ok streamHnd =>
              if streamHnd.cursorId.isSome then
                (.err (.protocol (.cursorAlreadyOpen streamId)), sys)
              else if cursorId ∈ sys.session.cursors then
                (.err (.protocol (.cursorExists cursorId)), sys)
              else
                match compilers.protoBatchToProgram batch sys.session.sqls sys.session.version with
                | .error err => (.err (catchStmtError err), sys)
                | .ok _ =>
                    let (cursorHnd, sys) := sys.cursorSpawn
                    let sys := sys.streamRespond streamHnd (.openCursor streamId cursorHnd cursorId)
                    let sys := sys.setCursors (sys.session.cursors.insert cursorId streamId)
                    (.ok, sys.setStreams (sys.session.streams.insert streamId
                      { streamHnd with cursorId := some cursorId }))
  | .closeCursor cursorId =>
      match sys.session.ensureVersion .hrana3 "The `close_cursor` request" with
      | some err => (.err err, sys)
      | none =>
          match sys.session.cursors.lookup cursorId with
          | none => (.err (.protocol (.cursorNotFound cursorId)), sys)
          | some streamId =>
              let sys := sys.setCursors (sys.session.cursors.erase cursorId)
              match sys.session.getStreamMut streamId with
              | .error err => (.err err, sys)
              | .ok streamHnd =>
                  if streamHnd.cursorId ≠ some cursorId then (.assertFailed, sys)
                  else
                    let streamHnd := { streamHnd with cursorId := none }
                    let sys := sys.setStreams (sys.session.streams.insert streamId streamHnd)
                    (.ok, sys.streamRespond streamHnd (.closeCursor cursorId))
  | .fetchCursor cursorId maxCount =>
      match sys.session.ensureVersion .hrana3 "The `fetch_cursor` request" with
      | some err => (.err err, sys)
      | none =>
          match sys.session.cursors.lookup cursorId with
          | none => (.err (.protocol (.cursorNotFound cursorId)), sys)
          | some streamId =>
              match sys.session.getStreamMut streamId with
              | .error err => (.err err, sys)
              | .ok streamHnd =>
                  if streamHnd.cursorId ≠ some cursorId then (.assertFailed, sys)
                  else
                    (.ok, sys.streamRespond streamHnd
                      (.fetchCursor cursorId maxCount.toNat (server.maxResponseSize / 8)))
  | .getAutocommit streamId =>
      match sys.session.ensureVersion .hrana3 "The `get_autocommit` request" with
      | some err => (.err err, sys)
      | none =>
          match sys.session.getStreamMut streamId with
          | .error err => (.err err, sys)
          | .ok streamHnd => (.ok, sys.streamRespond streamHnd (.getAutocommit streamId))

end Hrana
end Sqld
