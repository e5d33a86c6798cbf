import Mathlib.Data.List.Infix

/-!
# `bottomless-cli`: from the command line to the replicator

`run` settles the endpoint, the bucket, the namespace and the database, then creates a
`Replicator` on the database's path and runs one command on it:

```
let namespace = options.namespace.as_deref().unwrap_or("ns-default");
std::env::set_var("LIBSQL_BOTTOMLESS_DATABASE_ID", namespace);
...
let database = database + "/dbs/" + namespace.strip_prefix("ns-").unwrap() + "/data";
```

The replicator names the database in two ways.  The environment gives the namespace itself as
the database id.  The path gives the namespace without `ns-`, and `unwrap` panics on a namespace
without it.  `run_panics` says this is the only panic on a command line clap accepts, and that
it happens whenever a database is given.  `run_databaseId` says the two names agree whenever
the replicator is created.

The process environment is a function from names to values, and `set_var` updates it.  The calls
outside `main.rs` are parameters: `detect_db`, `Replicator::new`, the replicator's commands and
`create_dir_all`.  They are the actions of the run's trace.  Generations, dates and times are
kept as their text.
-/

namespace Sqld
namespace BottomlessCli

/-- `str::strip_prefix` on characters: the text after the prefix, if the text starts with it. -/
def stripPrefix : List Char → List Char → Option (List Char)
  | [], s => some s
  | _ :: _, [] => none
  | p :: ps, c :: s => if p = c then stripPrefix ps s else none

theorem stripPrefix_eq_some : ∀ (p s r : List Char), stripPrefix p s = some r ↔ s = p ++ r
  | [], s, r => by simp [stripPrefix, eq_comm]
  | _ :: _, [], r => by simp [stripPrefix]
  | p :: ps, c :: s, r => by
    by_cases hpc : p = c
    · subst hpc
      simp [stripPrefix, stripPrefix_eq_some ps s r]
    · simp [stripPrefix, hpc, Ne.symm hpc]

theorem stripPrefix_isSome_iff (p s : List Char) : (stripPrefix p s).isSome ↔ p <+: s := by
  rw [Option.isSome_iff_exists]
  exact exists_congr fun r => (stripPrefix_eq_some p s r).trans eq_comm

/-! ## The command line -/

/-- `Commands`. -/
inductive Commands
  | ls (generation : Option String) (limit : Option Nat) (olderThan newerThan : Option String)
      (verbose : Bool)
  | restore (generation : Option String) (utcTime : Option String)
  | rm (generation : Option String) (olderThan : Option String) (verbose : Bool)
  deriving DecidableEq, Repr

/-- `Cli`. -/
structure Cli where
  command : Commands
  endpoint : Option String := none
  bucket : Option String := none
  database : Option String := none
  «namespace» : Option String := none
  deriving DecidableEq, Repr

/-- The `conflicts_with` relations clap checks: a generation excludes the other selections. -/
def Commands.Valid : Commands → Prop
  | .ls generation limit olderThan newerThan _ =>
    generation.isSome → limit.isNone ∧ olderThan.isNone ∧ newerThan.isNone
  | .restore generation utcTime => ¬(generation.isSome ∧ utcTime.isSome)
  | .rm generation olderThan _ => ¬(generation.isSome ∧ olderThan.isSome)

instance : DecidablePred Commands.Valid
  | .ls _ _ _ _ _ => inferInstanceAs (Decidable (_ → _))
  | .restore _ _ => inferInstanceAs (Decidable ¬_)
  | .rm _ _ _ => inferInstanceAs (Decidable ¬_)

/-! ## The environment and the calls of a run -/

/-- The process environment. -/
def Env := String → Option String

/-- `std::env::set_var`. -/
def Env.set (env : Env) (key value : String) : Env :=
  fun k => if k = key then some value else env k

@[simp] theorem Env.set_apply (env : Env) (key value k : String) :
    env.set key value k = if k = key then some value else env k := rfl

/-- The calls of a run outside `main.rs`, and its lines on standard output. -/
inductive Action
  | print (line : String)
  | newReplicator (database : String)
  | listGeneration (generation : String)
  | listGenerations (limit : Option Nat) (olderThan newerThan : Option String) (verbose : Bool)
  | createDirAll (path : String)
  | restore (generation : Option String) (utcTime : Option String)
  | removeMany (olderThan : String) (verbose : Bool)
  | remove (generation : String) (verbose : Bool)
  deriving DecidableEq, Repr

/-- How a run ends: `Ok`, an error passed on by `?`, or a panic. -/
inductive Outcome
  | ok
  | error (e : String)
  /-- The `unwrap` of `strip_prefix` on `None`. -/
  | unwrapNone
  /-- The `unreachable!` of `rm`. -/
  | unreachable
  deriving DecidableEq, Repr

/-- What a run asks of the world outside `main.rs`. -/
structure Io where
  /-- `detect_db` with a client of the endpoint, in a bucket, for a namespace. -/
  detectDb : Option String → String → String → Option String
  /-- The calls, in the environment of the process. -/
  perform : Env → Action → Except String Unit

/-- A run: the environment it leaves, its trace and how it ends. -/
structure Run where
  env : Env
  actions : List Action
  outcome : Outcome

/-- An action performed with `?`: the run goes on after it only when it succeeds. -/
def Run.andThen (io : Io) (run : Run) (action : Action) (next : Run → Run) : Run :=
  match io.perform run.env action with
  | .ok () => next { run with actions := run.actions ++ [action] }
  | .error e => { run with actions := run.actions ++ [action], outcome := .error e }

/-! ## `run` -/

/-- The first lines of `run`, for the endpoint and for the bucket: a value given on the command
line is put in the environment, and a value not given is read from it. -/
def optionFromEnv (key : String) (given : Option String) (env : Env) : Option String × Env :=
  match given with
  | some value => (some value, env.set key value)
  | none => (env key, env)

/-- What the first lines of `run` settle. -/
structure Settled where
  endpoint : Option String
  bucket : Option String
  env : Env

/-- The first lines of `run`: the endpoint and the bucket, then the namespace put in the
environment as the database id. -/
def settle (options : Cli) (env : Env) : Settled :=
  let (endpoint, env) := optionFromEnv "LIBSQL_BOTTOMLESS_ENDPOINT" options.endpoint env
  let (bucket, env) := optionFromEnv "LIBSQL_BOTTOMLESS_BUCKET" options.bucket env
  ⟨endpoint, bucket,
    env.set "LIBSQL_BOTTOMLESS_DATABASE_ID" (options.«namespace».getD "ns-default")⟩

/-- The database of `run`: the one given, else the one `detect_db` finds in the bucket (by
default `bottomless`). -/
def resolveDatabase (io : Io) (database endpoint bucket : Option String) («namespace» : String) :
    Option String :=
  match database with
  | some db => some db
  | none => io.detectDb endpoint (bucket.getD "bottomless") «namespace»

/-- The `match options.command` of `run`, on a replicator already created. -/
def dispatch (io : Io) (database : String) (run : Run) : Commands → Run
  | .ls generation limit olderThan newerThan verbose =>
    match generation with
    | some gen => run.andThen io (.listGeneration gen) id
    | none => run.andThen io (.listGenerations limit olderThan newerThan verbose) id
  | .restore generation utcTime =>
    run.andThen io (.createDirAll database) fun run =>
      run.andThen io (.restore generation utcTime) id
  | .rm generation olderThan verbose =>
    match generation, olderThan with
    | none, some olderThan => run.andThen io (.removeMany olderThan verbose) id
    | some generation, none => run.andThen io (.remove generation verbose) id
    | some _, some _ => { run with outcome := .unreachable }
    | none, none =>
      { run with
        actions :=
          run.actions ++
            [.print "rm command cannot be run without parameters; see -h or --help for details"] }

/-- `run`, from the parsed command line and the environment of the process. -/
def run (io : Io) (options : Cli) (env : Env) : Run :=
  let «namespace» := options.«namespace».getD "ns-default"
  let settled := settle options env
  match resolveDatabase io options.database settled.endpoint settled.bucket «namespace» with
  | none =>
    ⟨settled.env,
      [.print "Could not autodetect the database. Please pass it explicitly with -d option"], .ok⟩
  | some database =>
    match stripPrefix "ns-".toList «namespace».toList with
    | none => ⟨settled.env, [], .unwrapNone⟩
    | some rest =>
      let database := database ++ "/dbs/" ++ String.mk rest ++ "/data"
      Run.andThen io ⟨settled.env, [], .ok⟩ (.newReplicator database) fun run =>
        dispatch io database run options.command

/-- Whether an action creates the replicator. -/
def Action.isNewReplicator : Action → Bool
  | .newReplicator _ => true
  | _ => false

/-- What the steps after the replicator's creation keep: the environment, no creation of another
replicator, and no panic. -/
structure Run.Follows (r r' : Run) : Prop where
  env : r'.env = r.env
  newReplicator : ∀ a ∈ r'.actions, a.isNewReplicator = true → a ∈ r.actions
  outcome : r'.outcome = r.outcome ∨ ∃ e, r'.outcome = .error e

theorem Run.Follows.refl (r : Run) : r.Follows r := ⟨rfl, fun _ h _ => h, .inl rfl⟩

theorem Run.Follows.trans {r₁ r₂ r₃ : Run} (h₁ : r₁.Follows r₂) (h₂ : r₂.Follows r₃) :
    r₁.Follows r₃ where
  env := h₂.env.trans h₁.env
  newReplicator a ha hn := h₁.newReplicator a (h₂.newReplicator a ha hn) hn
  outcome := by
    rcases h₂.outcome with h | h
    · exact h ▸ h₁.outcome
    · exact .inr h

/-- Recording an action that is not the replicator's creation. -/
theorem Run.follows_append (r : Run) {a : Action} (ha : a.isNewReplicator = false) :
    r.Follows { r with actions := r.actions ++ [a] } where
  env := rfl
  newReplicator a' h hn := by
    rcases List.mem_append.1 h with h | h
    · exact h
    · rw [List.mem_singleton.1 h, ha] at hn
      cases hn
  outcome := .inl rfl

/-- An action performed with `?`, as seen from the run with the action recorded. -/
theorem Run.andThen_follows (io : Io) (r : Run) (a : Action) {next : Run → Run}
    (hnext : ∀ r' : Run, r'.Follows (next r')) :
    ({ r with actions := r.actions ++ [a] } : Run).Follows (r.andThen io a next) := by
  unfold Run.andThen
  split
  · exact hnext _
  · exact ⟨rfl, fun _ h _ => h, .inr ⟨_, rfl⟩⟩

theorem Run.follows_andThen (io : Io) (r : Run) {a : Action} {next : Run → Run}
    (ha : a.isNewReplicator = false) (hnext : ∀ r' : Run, r'.Follows (next r')) :
    r.Follows (r.andThen io a next) :=
  (r.follows_append ha).trans (r.andThen_follows io a hnext)

/-- On a command clap accepts, `dispatch` keeps the environment, creates no replicator and does
not panic. -/
theorem follows_dispatch (io : Io) (database : String) (run : Run) {command : Commands}
    (hv : command.Valid) : run.Follows (dispatch io database run command) := by
  have step : ∀ {a : Action} (r : Run), a.isNewReplicator = false → r.Follows (r.andThen io a id) :=
    fun r ha => r.follows_andThen io ha fun _ => .refl _
  cases command with
  | ls generation => cases generation <;> exact step run rfl
  | restore generation utcTime =>
    exact run.follows_andThen io (a := .createDirAll database) rfl fun r =>
      step (a := .restore generation utcTime) r rfl
  | rm generation olderThan =>
    cases generation <;> cases olderThan
    · exact run.follows_append rfl
    · exact step run rfl
    · exact step run rfl
    · exact absurd ⟨rfl, rfl⟩ hv

/-- A run that creates the replicator goes on from there as `dispatch` does. -/
theorem follows_newReplicator (io : Io) (env : Env) (database : String) {command : Commands}
    (hv : command.Valid) :
    ({ env, actions := [.newReplicator database], outcome := .ok } : Run).Follows
      (Run.andThen io ⟨env, [], .ok⟩ (.newReplicator database) fun r =>
        dispatch io database r command) :=
  Run.andThen_follows io ⟨env, [], .ok⟩ _ fun r => follows_dispatch io database r hv

theorem settle_databaseId (options : Cli) (env : Env) :
    (settle options env).env "LIBSQL_BOTTOMLESS_DATABASE_ID" =
      some (options.«namespace».getD "ns-default") := by
  cases options.endpoint <;> cases options.bucket <;> simp [settle, optionFromEnv]

/-- A namespace whose `ns-` cannot be stripped was given, without it: the default has it. -/
theorem stripPrefix_namespace_eq_none {ns? : Option String}
    (h : stripPrefix "ns-".toList (ns?.getD "ns-default").toList = none) :
    ∃ ns, ns? = some ns ∧ ¬"ns-".toList <+: ns.toList := by
  cases ns? with
  | none => exact absurd h (by decide)
  | some ns =>
    refine ⟨ns, rfl, fun hp => ?_⟩
    rw [Option.getD_some] at h
    rw [← stripPrefix_isSome_iff, h] at hp
    cases hp

/-- A world where `detect_db` finds nothing and every call succeeds. -/
def Io.quiet : Io where
  detectDb _ _ _ := none
  perform _ _ := .ok ()

/-- On a command line clap accepts, a run panics only at the `unwrap` of `strip_prefix`, on a
namespace given without `ns-`; and it does panic there whenever the database is given. -/
theorem run_panics (io : Io) (options : Cli) (env : Env) (hv : options.command.Valid) :
    (run io options env).outcome ≠ .unreachable ∧
      ((run io options env).outcome = .unwrapNone →
        ∃ ns, options.«namespace» = some ns ∧ ¬"ns-".toList <+: ns.toList) ∧
      (options.database.isSome →
        (∃ ns, options.«namespace» = some ns ∧ ¬"ns-".toList <+: ns.toList) →
          (run io options env).outcome = .unwrapNone) := by
  unfold run
  dsimp only
  split
  · next hdb =>
    refine ⟨nofun, nofun, fun hd _ => ?_⟩
    obtain ⟨db, hd⟩ := Option.isSome_iff_exists.1 hd
    simp [resolveDatabase, hd] at hdb
  · next database _ =>
    split
    · next hstrip => exact ⟨nofun, fun _ => stripPrefix_namespace_eq_none hstrip, fun _ _ => rfl⟩
    · next rest hstrip =>
      have hf := (follows_newReplicator io (settle options env).env
        (database ++ "/dbs/" ++ String.mk rest ++ "/data") hv).outcome
      refine ⟨fun h => ?_, fun h => ?_, fun _ ⟨ns, hns, hp⟩ => ?_⟩
      · rcases hf with hf | ⟨e, hf⟩ <;> rw [h] at hf <;> cases hf
      · rcases hf with hf | ⟨e, hf⟩ <;> rw [h] at hf <;> cases hf
      · rw [hns, Option.getD_some] at hstrip
        exact absurd ((stripPrefix_isSome_iff _ _).1 (by rw [hstrip]; rfl)) hp

/-- `bottomless-cli -d db -n foo ls` panics. -/
theorem run_panics_unprefixed :
    Commands.Valid (.ls none none none none false) ∧
      let options : Cli :=
        { command := .ls none none none none false, database := some "db", «namespace» := some "foo" }
      (run Io.quiet options fun _ => none).outcome ≠ .unreachable ∧
        ((run Io.quiet options fun _ => none).outcome = .unwrapNone →
          ∃ ns, options.«namespace» = some ns ∧ ¬"ns-".toList <+: ns.toList) ∧
        (options.database.isSome →
          (∃ ns, options.«namespace» = some ns ∧ ¬"ns-".toList <+: ns.toList) →
            (run Io.quiet options fun _ => none).outcome = .unwrapNone) :=
  ⟨by decide, run_panics Io.quiet _ _ (by decide)⟩

/-- Whenever a run creates the replicator, it creates it on the path `<db>/dbs/<n>/data` of a
namespace `n` whose name with `ns-` is the database id in the environment the run leaves, which
is the one every call after the first lines sees. -/
theorem run_databaseId (io : Io) (options : Cli) (env : Env) {database : String}
    (hv : options.command.Valid) (h : .newReplicator database ∈ (run io options env).actions) :
    ∃ db n, database = db ++ "/dbs/" ++ String.mk n ++ "/data" ∧
      (run io options env).env "LIBSQL_BOTTOMLESS_DATABASE_ID" = some ("ns-" ++ String.mk n) := by
  revert h
  unfold run
  dsimp only
  split
  · simp
  · next db _ =>
    split
    · simp
    · next rest hstrip =>
      intro h
      have hf := follows_newReplicator io (settle options env).env
        (db ++ "/dbs/" ++ String.mk rest ++ "/data") hv
      have hmem := hf.newReplicator _ h rfl
      simp only [List.nil_append, List.mem_singleton, Action.newReplicator.injEq] at hmem
      refine ⟨db, rest, hmem, ?_⟩
      rw [hf.env]
      simp only [settle_databaseId, Option.some.injEq]
      exact String.ext ((stripPrefix_eq_some _ _ _).1 hstrip)

/-- `bottomless-cli -d s3 rm --older-than 2023-07-01`, in the default namespace. -/
theorem run_databaseId_default :
    let options : Cli := { command := .rm none (some "2023-07-01") false, database := some "s3" }
    options.command.Valid ∧
      .newReplicator "s3/dbs/default/data" ∈ (run Io.quiet options fun _ => none).actions ∧
      ∃ db n, "s3/dbs/default/data" = db ++ "/dbs/" ++ String.mk n ++ "/data" ∧
        (run Io.quiet options fun _ => none).env "LIBSQL_BOTTOMLESS_DATABASE_ID" =
          some ("ns-" ++ String.mk n) :=
  have hv : Commands.Valid (.rm none (some "2023-07-01") false) := by decide
  have hmem : Action.newReplicator "s3/dbs/default/data" ∈
      (run Io.quiet { command := .rm none (some "2023-07-01") false, database := some "s3" }
        fun _ => none).actions := by decide
  ⟨hv, hmem, run_databaseId Io.quiet _ _ hv hmem⟩

end BottomlessCli
end Sqld
