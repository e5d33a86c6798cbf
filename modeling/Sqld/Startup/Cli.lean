import Mathlib.Data.Option.Basic

/-!
# The command line of sqld

`main.rs` declares the options of the server as a clap `Cli`.  This module gives the options the
startup code reads, with clap's defaults as the fields' defaults, and the relations clap checks
between options before `main` sees them (`Cli.Valid`):

* `--grpc-listen-addr` conflicts with `--primary-grpc-url`: a node is a primary or a replica;
* `--grpc-tls` requires the three files of the server's TLS identity, and `--primary-grpc-tls`
  the three files of the client's.

`print_welcome_message` prints the banner and the configuration.  It matches on the two RPC
options and declares the fourth case, both given, `unreachable!`: `printWelcomeMessage` is `none`
there.  On every command line clap accepts it prints (`printWelcomeMessage_isSome`).

Addresses are kept as the text their `Display` prints, paths as lists of characters, and
durations as their seconds.
-/

namespace Sqld
namespace Startup

/-- A `SocketAddr`, as the startup code uses it: it is bound, and printed by its `Display`, whose
text is kept. -/
structure SocketAddr where
  text : String
  deriving DecidableEq, Repr

/-- `UtilsSubcommands`: the `dump` subcommand, with the file to write the dump to (standard
output when absent) and the namespace to dump. -/
inductive UtilsSubcommands
  | dump (path : Option (List Char)) («namespace» : String)
  deriving DecidableEq, Repr

/-- The options of `sqld`, with clap's `default_value`s.  A `ByteSize` is its number of bytes
(`10MB` is ten million), and `max_log_duration`, an `f32` the startup code only copies, is a
`Float`. -/
structure Cli where
  dbPath : List Char := "data.sqld".toList
  extensionsPath : Option (List Char) := none
  httpListenAddr : SocketAddr := ⟨"127.0.0.1:8080"⟩
  enableHttpConsole : Bool := false
  hranaListenAddr : Option SocketAddr := none
  adminListenAddr : Option SocketAddr := none
  authJwtKeyFile : Option (List Char) := none
  httpAuth : Option String := none
  httpSelfUrl : Option String := none
  grpcListenAddr : Option SocketAddr := none
  grpcTls : Bool := false
  grpcCertFile : Option (List Char) := none
  grpcKeyFile : Option (List Char) := none
  grpcCaCertFile : Option (List Char) := none
  primaryGrpcUrl : Option String := none
  primaryGrpcTls : Bool := false
  primaryGrpcCertFile : Option (List Char) := none
  primaryGrpcKeyFile : Option (List Char) := none
  primaryGrpcCaCertFile : Option (List Char) := none
  noWelcome : Bool := false
  enableBottomlessReplication : Bool := false
  idleShutdownTimeoutS : Option Nat := none
  initialIdleShutdownTimeoutS : Option Nat := none
  maxLogSize : Nat := 200
  maxLogDuration : Option Float := none
  utils : Option UtilsSubcommands := none
  heartbeatUrl : Option String := none
  heartbeatAuth : Option String := none
  heartbeatPeriodS : Nat := 30
  softHeapLimitMb : Option Nat := none
  hardHeapLimitMb : Option Nat := none
  maxResponseSize : Nat := 10000000
  maxTotalResponseSize : Nat := 32000000
  snapshotExec : Option String := none
  checkpointIntervalS : Option Nat := none
  disableDefaultNamespace : Bool := false
  enableNamespaces : Bool := false
  deriving Repr

/-- The addresses the server listens on, in the order `build_server` binds them: HTTP, Hrana,
admin, gRPC. -/
def Cli.listenAddrs (cli : Cli) : List SocketAddr :=
  cli.httpListenAddr :: cli.hranaListenAddr.toList ++ cli.adminListenAddr.toList ++
    cli.grpcListenAddr.toList

/-- What a `requires` on a TLS flag asks: once the flag is given, so are the three files. -/
def TlsFilesGiven (tls : Bool) (cert key caCert : Option (List Char)) : Prop :=
  tls = true → cert.isSome ∧ key.isSome ∧ caCert.isSome

instance (tls : Bool) (cert key caCert : Option (List Char)) :
    Decidable (TlsFilesGiven tls cert key caCert) :=
  inferInstanceAs (Decidable (_ → _))

/-- The relations clap checks between the options of `Cli` (`conflicts_with` and `requires`). -/
structure Cli.Valid (cli : Cli) : Prop where
  primaryOrReplica : ¬(cli.grpcListenAddr.isSome ∧ cli.primaryGrpcUrl.isSome)
  serverTls : TlsFilesGiven cli.grpcTls cli.grpcCertFile cli.grpcKeyFile cli.grpcCaCertFile
  clientTls :
    TlsFilesGiven cli.primaryGrpcTls cli.primaryGrpcCertFile cli.primaryGrpcKeyFile
      cli.primaryGrpcCaCertFile

instance (cli : Cli) : Decidable cli.Valid :=
  decidable_of_iff
    (¬(cli.grpcListenAddr.isSome ∧ cli.primaryGrpcUrl.isSome) ∧
      TlsFilesGiven cli.grpcTls cli.grpcCertFile cli.grpcKeyFile cli.grpcCaCertFile ∧
      TlsFilesGiven cli.primaryGrpcTls cli.primaryGrpcCertFile cli.primaryGrpcKeyFile
        cli.primaryGrpcCaCertFile)
    ⟨fun ⟨h, hs, hc⟩ => ⟨h, hs, hc⟩, fun ⟨h, hs, hc⟩ => ⟨h, hs, hc⟩⟩

/-! ## The welcome message -/

/-- What the build wrote into the binary: `CARGO_PKG_VERSION`, `VERGEN_GIT_SHA` and
`VERGEN_BUILD_DATE`. -/
structure BuildInfo where
  version : String
  gitSha : String
  buildDate : String

/-- The mode the welcome message prints for the RPC options: `none` for the case it declares
`unreachable!`, both given. -/
def welcomeMode : Option SocketAddr → Option String → Option String
  | none, none => some "standalone"
  | some addr, none => some ("primary (" ++ addr.text ++ ")")
  | none, some url => some ("replica (primary at " ++ url ++ ")")
  | some _, some _ => none

/-- The banner of the welcome message. -/
def banner : List String :=
  ["           _     _ ",
   " ___  __ _| | __| |",
   "/ __|/ _` | |/ _` |",
   "\\__ \\ (_| | | (_| |",
   "|___/\\__, |_|\\__,_|",
   "        |_|        "]

/-- `Cli::print_welcome_message`: the lines written to standard error, or `none` when it reaches
`unreachable!`. -/
def printWelcomeMessage (build : BuildInfo) (cli : Cli) : Option (List String) :=
  if cli.noWelcome then some []
  else
    (welcomeMode cli.grpcListenAddr cli.primaryGrpcUrl).map fun mode =>
      banner ++ ["", "Welcome to sqld!", "", "version: " ++ build.version] ++
        (if build.gitSha ≠ "VERGEN_IDEMPOTENT_OUTPUT" then ["commit SHA: " ++ build.gitSha]
          else []) ++
        ["build date: " ++ build.buildDate, "",
         "This software is in BETA version.",
         "If you encounter any bug, please open an issue at https://github.com/libsql/sqld/issues",
         "", "config:",
         "\t- mode: " ++ mode,
         "\t- database path: " ++ String.mk cli.dbPath,
         "\t- extensions path: " ++ cli.extensionsPath.elim "<disabled>" String.mk,
         "\t- listening for HTTP requests on: " ++ cli.httpListenAddr.text,
         "\t- grpc_tls: " ++ if cli.grpcTls then "yes" else "no"]

/-- The mode is printed for every pair of RPC options but both. -/
theorem welcomeMode_isSome_iff (addr : Option SocketAddr) (url : Option String) :
    (welcomeMode addr url).isSome ↔ ¬(addr.isSome ∧ url.isSome) := by
  cases addr <;> cases url <;> simp [welcomeMode]

/-- On every command line clap accepts, `print_welcome_message` prints and does not reach its
`unreachable!`. -/
theorem printWelcomeMessage_isSome (build : BuildInfo) {cli : Cli} (hv : cli.Valid) :
    (printWelcomeMessage build cli).isSome := by
  unfold printWelcomeMessage
  split
  · rfl
  · rw [Option.isSome_map']
    exact (welcomeMode_isSome_iff _ _).2 hv.primaryOrReplica

end Startup
end Sqld
