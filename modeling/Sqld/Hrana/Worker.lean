import Sqld.Hrana.Session

/-!
# Stream workers and the runs of a session

`stream_spawn` starts, per stream, a task that pops one `StreamJob` at a time from its mailbox
(an `mpsc` channel of capacity 8) and runs the job's closure on the stream's `Stream`.  The
closures change the `Stream` in three places only: the `OpenStream` job stores the connection
that the factory made (nothing if the factory failed), the `OpenCursor` job stores its cursor
handle when the stream has a connection, and the `CloseCursor` job drops the handle.

A run of a session interleaves three kinds of steps, in any order:

* the dispatcher handles a request (`handle_request`), which waits while the mailbox it sends
  to is full, and stops the session if an `assert_eq!` fails;
* the dispatcher handles a repeated hello;
* a worker runs the job at the front of its mailbox.

`Reachable` collects the states of all such runs from a session opened by
`handle_initial_hello`; `Reachable.induction_on` is the invariant principle every later
module uses.
-/

namespace Sqld
namespace Hrana

variable {A D P : Type}

/-- The capacity of a stream's job mailbox. -/
def mailboxCapacity : Nat := 8

/-- A job's closure as it acts on the `Stream`; `factory` is what `connection_maker.create()`
returns to an `OpenStream` job. -/
def StreamJob.run (factory : Except ExternalError D) : StreamJob → Stream D → Stream D
  | .openStream, stream =>
      match factory with
      | .ok db => { stream with db := some db }
      | .error _ => stream
  | .closeStream, stream => stream
  | .execute _, stream => stream
  | .batch _, stream => stream
  | .sequence _, stream => stream
  | .describe _, stream => stream
  | .openCursor _ cursorHnd _, stream =>
      match stream.db with
      | some _ => { stream with cursorHnd := some cursorHnd }
      | none => stream
  | .closeCursor _, stream => { stream with cursorHnd := none }
  | .fetchCursor _ _ _, stream => stream
  | .getAutocommit _, stream => stream

/-- One turn of the worker loop of `stream_spawn`: run the job at the front of the mailbox. -/
def Worker.step (factory : Except ExternalError D) (w : Worker D) : Worker D :=
  match w.mailbox with
  | [] => w
  | job :: rest =>
      { w with
        stream := job.run factory w.stream
        mailbox := rest
        executed := w.executed ++ [⟨job, w.stream, factory⟩] }

/-- The steps of a session's run. -/
inductive Step (server : Server A) (compilers : Compilers P) : System A D → System A D → Prop
  | request (sys : System A D) (req : Request P)
      (hdone : (handleRequest server compilers sys req).1 ≠ .assertFailed)
      (hroom : ∀ w ∈ (handleRequest server compilers sys req).2.workers,
        w.mailbox.length ≤ mailboxCapacity) :
      Step server compilers sys (handleRequest server compilers sys req).2
  | hello (sys : System A D) (jwt : Option String) :
      Step server compilers sys
        { sys with session := (handleRepeatedHello server sys.session jwt).2 }
  | work (sys : System A D) (i : Nat) (factory : Except ExternalError D) :
      Step server compilers sys { sys with workers := sys.workers.modify (Worker.step factory) i }

/-- The states of the runs of a session opened by `handle_initial_hello`. -/
inductive Reachable (server : Server A) (compilers : Compilers P) : System A D → Prop
  | init (version : Version) (jwt : Option String) (session : Session A)
      (h : handleInitialHello server version jwt = .ok session) :
      Reachable server compilers ⟨session, [], 0⟩
  | step {sys sys' : System A D} (hsys : Reachable server compilers sys)
      (hstep : Step server compilers sys sys') : Reachable server compilers sys'

/-- An invariant of every reachable state: it holds of the opened session, and every step
keeps it. -/
theorem Reachable.induction_on {server : Server A} {compilers : Compilers P}
    {Inv : System A D → Prop}
    (hinit : ∀ version jwt session, handleInitialHello server version jwt = .ok session →
      Inv ⟨session, [], 0⟩)
    (hstep : ∀ sys sys', Inv sys → Step server compilers sys sys' → Inv sys')
    {sys : System A D} (h : Reachable server compilers sys) : Inv sys := by
  induction h with
  | init version jwt session hs => exact hinit version jwt session hs
  | step _ hst ih => exact hstep _ _ ih hst

/-- A server that accepts every token as the anonymous identity. -/
def acceptingServer : Server Unit := ⟨fun _ => .ok (), 8192⟩

/-- Compilers that accept every payload. -/
def acceptingCompilers : Compilers Unit :=
  ⟨fun _ _ _ => .ok (), fun _ _ _ => .ok (), fun _ _ _ => .ok "", fun _ => .ok ()⟩

/-- The session a version 3 hello opens on `acceptingServer`. -/
def openedSession : Session Unit := ⟨(), .hrana3, ∅, ∅, ∅⟩

theorem openedSystem_reachable :
    Reachable acceptingServer acceptingCompilers (⟨openedSession, [], 0⟩ : System Unit Unit) :=
  .init .hrana3 none _ rfl

/-- The opened session once `OpenStream(1)` and then `OpenCursor(1, 2)` are handled: stream 1
has a worker with both jobs queued, and cursor 2 is open on it. -/
def cursorOpenedSystem : System Unit Unit :=
  (handleRequest acceptingServer acceptingCompilers
    (handleRequest acceptingServer acceptingCompilers ⟨openedSession, [], 0⟩ (.openStream 1)).2
    (.openCursor 1 2 ())).2

theorem cursorOpenedSystem_reachable :
    Reachable acceptingServer acceptingCompilers cursorOpenedSystem :=
  .step (.step openedSystem_reachable (.request _ _ (by decide) (by decide)))
    (.request _ _ (by decide) (by decide))

/-- The session a hello opens has empty maps. -/
theorem handleInitialHello_maps {server : Server A} {version : Version} {jwt : Option String}
    {session : Session A} (h : handleInitialHello server version jwt = .ok session) :
    session.streams = ∅ ∧ session.sqls = ∅ ∧ session.cursors = ∅ := by
  unfold handleInitialHello at h
  split at h
  · cases h
  · cases h; exact ⟨rfl, rfl, rfl⟩

end Hrana
end Sqld
