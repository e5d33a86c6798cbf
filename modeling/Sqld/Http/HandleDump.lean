import Sqld.Startup.Build
import Sqld.Config.Utf8

/-!
# The dump endpoint and the dump subcommand

`handle_dump` answers a dump request with a dump of the namespace that the request's headers name:

```
let db_path = state
    .path
    .join("dbs")
    .join(std::str::from_utf8(namespace.as_ref()).expect("namespace to be a utf-8 string"))
    .join("data");
let connection = rusqlite::Connection::open(db_path)?;
```

The `dump` subcommand of `main` opens `<db-path>/dbs/<namespace>/data` too, with the namespace
as a string.  The endpoint gets the namespace as octets and decodes them with `from_utf8`, whose
`expect` panics on octets that are not UTF-8 (`handleDump_eq_panic_iff`).  The decoder gives back
the string of which the octets are the UTF-8.  So for a namespace the subcommand dumps, the
endpoint of a server on the same database path opens the same file (`handleDump_of_main_dump`).

`namespace_from_headers` is a parameter, given by its result.  The response streams the
`DumpStream` of `Sqld.Http.Dump`, whose reader and task are parameters there, so here the
endpoint's answer is named by the database it dumps.
-/

namespace Sqld
namespace Http

open Sqld.Config (decodeUtf8 octets joinPath decodeUtf8_octets)
open Sqld.Startup (Io Outcome Error BuildInfo Cli MainEnd main performDump bind_eq_ok)

variable {B : Type}

/-- The body of the answer of `handle_dump`: the stream of the dump of a database. -/
structure DumpBody where
  database : List Char
  deriving DecidableEq, Repr

/-- `handle_dump`, from the server's database path and what `namespace_from_headers` gives. -/
def handleDump (io : Io B) (path : List Char) (ns : Except Error (List Nat)) : Outcome DumpBody :=
  match ns with
  | .error e => .error e
  | .ok ns =>
    match decodeUtf8 ns with
    | none => .panic
    | some name =>
      let dbPath := joinPath (joinPath (joinPath path "dbs".toList) name) "data".toList
      match io.openConnection dbPath with
      | .ok () => .ok ⟨dbPath⟩
      | .error e => .error (.source e)

/-- The `expect` of `handle_dump` fires exactly on a namespace whose octets are not UTF-8. -/
theorem handleDump_eq_panic_iff (io : Io B) (path : List Char) (ns : List Nat) :
    handleDump io path (.ok ns) = .panic ↔ decodeUtf8 ns = none := by
  unfold handleDump
  cases h : decodeUtf8 ns with
  | none => simp [h]
  | some name =>
    simp only [h, reduceCtorEq, iff_false]
    split <;> simp

/-- `perform_dump` succeeds only after opening the database of its path. -/
theorem performDump_opens {io : Io B} {dumpPath : Option (List Char)} {dbPath : List Char}
    (h : performDump io dumpPath dbPath = .ok ()) :
    io.openConnection (joinPath dbPath "data".toList) = .ok () := by
  simp only [performDump, bind_eq_ok] at h
  obtain ⟨_, -, _, h, -⟩ := h
  revert h
  cases io.openConnection (joinPath dbPath "data".toList) <;> simp [Except.mapError]

/-- The `dump` subcommand succeeds only after opening `<db-path>/dbs/<namespace>/data`. -/
theorem main_dump_opens (io : Io B) (build : BuildInfo) {args : Cli} {path : Option (List Char)}
    {ns : String} {stderr : List String} (hu : args.utils = some (.dump path ns))
    (hmain : main io build args = .ok (.dumped stderr)) :
    io.openConnection
      (joinPath (joinPath (joinPath args.dbPath "dbs".toList) ns.toList) "data".toList) = .ok () := by
  unfold main at hmain
  rw [hu] at hmain
  dsimp only at hmain
  split at hmain
  · cases hmain
  · split at hmain
    · next hd => exact performDump_opens hd
    · cases hmain

/-- Whenever the `dump` subcommand dumps a namespace from a database path, the dump endpoint of a
server on that path, asked for the namespace's octets, opens the same database and answers with
its dump: it does not reach its `expect`. -/
theorem handleDump_of_main_dump (io : Io B) (build : BuildInfo) {args : Cli}
    {path : Option (List Char)} {ns : String} {stderr : List String}
    (hu : args.utils = some (.dump path ns)) (hmain : main io build args = .ok (.dumped stderr)) :
    handleDump io args.dbPath (.ok (octets ns.toList)) =
      .ok ⟨joinPath (joinPath (joinPath args.dbPath "dbs".toList) ns.toList) "data".toList⟩ := by
  simp only [handleDump, decodeUtf8_octets, main_dump_opens io build hu hmain]

/-- `sqld dump --namespace default`, on a system that grants every request. -/
theorem handleDump_of_main_dump_default :
    ({ utils := some (.dump none "default") } : Cli).utils = some (.dump none "default") ∧
      main Sqld.Startup.Io.granting ⟨"0.1.0", "VERGEN_IDEMPOTENT_OUTPUT", "2023-07-01"⟩
          { utils := some (.dump none "default") } = .ok (.dumped []) ∧
      handleDump Sqld.Startup.Io.granting "data.sqld".toList (.ok (octets "default".toList)) =
        .ok ⟨joinPath (joinPath (joinPath "data.sqld".toList "dbs".toList) "default".toList)
          "data".toList⟩ :=
  have hu : ({ utils := some (.dump none "default") } : Cli).utils =
      some (.dump none "default") := rfl
  have hmain : main Sqld.Startup.Io.granting ⟨"0.1.0", "VERGEN_IDEMPOTENT_OUTPUT", "2023-07-01"⟩
      { utils := some (.dump none "default") } = .ok (.dumped []) := rfl
  ⟨hu, hmain, handleDump_of_main_dump _ _ hu hmain⟩

end Http
end Sqld
