import Sqld.Startup.Cli
import Sqld.Config.Extensions

/-!
# Building the server from the command line

`main` parses the `Cli`, prints the welcome message and calls `build_server`.  That function
runs one builder per part of the server, each a fallible call passed on with `?`:

```
let db_config = make_db_config(config)?;
let user_api_config = make_user_api_config(config).await?;
let admin_api_config = make_admin_api_config(config).await?;
let rpc_server_config = make_rpc_server_config(config).await?;
let rpc_client_config = make_rpc_client_config(config).await?;
let heartbeat_config = make_hearbeat_config(config);
```

The builders bind the listening sockets, read the JWT key and load bottomless's options from the
environment: these requests to the system are the fields of `Io`.  The two RPC builders also
check their TLS files with `context` messages, as `makeTlsConfig`.  Those checks repeat what
clap's `requires` already enforces.  So on a command line clap accepts, the server is built
exactly when the system grants every request (`buildServer_isOk_iff`).

`UserApiConfig::get_auth` of `config.rs` turns the configured credentials into the server's
`Auth`.  The parsers of `auth.rs` are parameters.
-/

namespace Sqld
namespace Startup

open Sqld.Config (joinPath)

variable {B K : Type}

/-! ## Errors and the system -/

/-- `env::VarError`. -/
inductive VarError
  | notPresent
  | notUnicode
  deriving DecidableEq, Repr

/-- An `anyhow::Error` of the startup code. -/
inductive Error
  /-- The error of a call outside the startup code, by its text, passed on by `?`. -/
  | source (text : String)
  /-- An error of a message alone: `bail!`, or `context` on a `None`. -/
  | msg (text : String)
  /-- `context` put on an error. -/
  | context (text : String) (error : Error)
  deriving DecidableEq, Repr

/-- What the startup code asks of the system, with `B` the type of bottomless's `Options`. -/
structure Io (B : Type) where
  /-- `TcpListener::bind` of an address, while the process holds the listeners bound on the
  addresses given first. -/
  bind : List SocketAddr → SocketAddr → Except String Unit
  /-- `tokio::fs::read_to_string`. -/
  readToString : List Char → Except String String
  /-- `env::var("SQLD_AUTH_JWT_KEY")`. -/
  jwtKeyVar : Except VarError String
  /-- `bottomless::replicator::Options::from_env`. -/
  bottomlessOptionsFromEnv : Except String B
  /-- `Path::exists`. -/
  pathExists : List Char → Bool
  /-- `OpenOptions::new().create_new(true).write(true).open`. -/
  openCreateNew : List Char → Except String Unit
  /-- `rusqlite::Connection::open`. -/
  openConnection : List Char → Except String Unit
  /-- `export_dump` of the database at a path, into a file or, for `none`, standard output. -/
  exportDump : List Char → Option (List Char) → Except String Unit

/-- `context` of anyhow on an `Option`: the value, or an error of the message alone. -/
def contextOf {α : Type} (msg : String) : Option α → Except Error α
  | some a => .ok a
  | none => .error (.msg msg)

/-- `AddrIncoming` of a listener bound to an address. -/
structure Acceptor where
  addr : SocketAddr
  deriving DecidableEq, Repr

/-- `AddrIncoming::new(TcpListener::bind(addr).await?)`, while the process holds listeners on
`held`. -/
def bindAcceptor (io : Io B) (held : List SocketAddr) (addr : SocketAddr) : Except Error Acceptor :=
  match io.bind held addr with
  | .ok () => .ok ⟨addr⟩
  | .error e => .error (.source e)

/-! ## The parts of the server -/

/-- `DbConfig`. -/
structure DbConfig (B : Type) where
  extensionsPath : Option (List Char)
  bottomlessReplication : Option B
  maxLogSize : Nat
  maxLogDuration : Option Float
  softHeapLimitMb : Option Nat
  hardHeapLimitMb : Option Nat
  maxResponseSize : Nat
  maxTotalResponseSize : Nat
  snapshotExec : Option String
  checkpointIntervalS : Option Nat

/-- `UserApiConfig`. -/
structure UserApiConfig where
  hranaWsAcceptor : Option Acceptor
  httpAcceptor : Option Acceptor
  enableHttpConsole : Bool
  selfUrl : Option String
  httpAuth : Option String
  authJwtKey : Option String

/-- `AdminApiConfig`. -/
structure AdminApiConfig where
  acceptor : Acceptor

/-- `TlsConfig`. -/
structure TlsConfig where
  cert : List Char
  key : List Char
  caCert : List Char
  deriving DecidableEq, Repr

/-- `RpcServerConfig`. -/
structure RpcServerConfig where
  acceptor : Acceptor
  addr : SocketAddr
  tlsConfig : Option TlsConfig

/-- `RpcClientConfig`, without the settings of its HTTP connector. -/
structure RpcClientConfig where
  remoteUrl : String
  tlsConfig : Option TlsConfig

/-- `HeartbeatConfig`. -/
structure HeartbeatConfig where
  heartbeatUrl : String
  heartbeatPeriodS : Nat
  heartbeatAuth : Option String

/-- `sqld::Server` as `build_server` fills it, without its shutdown `Notify`. -/
structure Server (B : Type) where
  path : List Char
  dbConfig : DbConfig B
  userApiConfig : UserApiConfig
  adminApiConfig : Option AdminApiConfig
  rpcServerConfig : Option RpcServerConfig
  rpcClientConfig : Option RpcClientConfig
  heartbeatConfig : Option HeartbeatConfig
  idleShutdownTimeoutS : Option Nat
  initialIdleShutdownTimeoutS : Option Nat
  disableDefaultNamespace : Bool
  disableNamespaces : Bool

/-! ## The builders -/

/-- `config.enable_bottomless_replication.then(Options::from_env).transpose()`: bottomless's
options, loaded from the environment only when replication is enabled. -/
def bottomlessReplicationOf (io : Io B) (config : Cli) : Except Error (Option B) :=
  if config.enableBottomlessReplication then
    match io.bottomlessOptionsFromEnv with
    | .ok options => .ok (some options)
    | .error e => .error (.source e)
  else .ok none

/-- `make_db_config`. -/
def makeDbConfig (io : Io B) (config : Cli) : Except Error (DbConfig B) := do
  let bottomlessReplication ← bottomlessReplicationOf io config
  pure {
    extensionsPath := config.extensionsPath
    bottomlessReplication
    maxLogSize := config.maxLogSize
    maxLogDuration := config.maxLogDuration
    softHeapLimitMb := config.softHeapLimitMb
    hardHeapLimitMb := config.hardHeapLimitMb
    maxResponseSize := config.maxResponseSize
    maxTotalResponseSize := config.maxTotalResponseSize
    snapshotExec := config.snapshotExec
    checkpointIntervalS := config.checkpointIntervalS }

/-- The JWT key of `make_user_api_config`: the content of the key file when one is given, else
the variable `SQLD_AUTH_JWT_KEY` when it is set. -/
def readAuthJwtKey (io : Io B) (config : Cli) : Except Error (Option String) :=
  match config.authJwtKeyFile with
  | some filePath =>
    match io.readToString filePath with
    | .ok data => .ok (some data)
    | .error e => .error (.context "Could not read file with JWT key" (.source e))
  | none =>
    match io.jwtKeyVar with
    | .ok key => .ok (some key)
    | .error .notPresent => .ok none
    | .error .notUnicode =>
      .error (.msg "Env variable SQLD_AUTH_JWT_KEY does not contain a valid Unicode value")

/-- The Hrana listener of `make_user_api_config`, bound when its address is given. -/
def bindHranaWsAcceptor (io : Io B) (held : List SocketAddr) :
    Option SocketAddr → Except Error (Option Acceptor)
  | some addr => some <$> bindAcceptor io held addr
  | none => .ok none

/-- `make_user_api_config`: the JWT key, then the HTTP listener, then the Hrana one while the
HTTP listener is held. -/
def makeUserApiConfig (io : Io B) (config : Cli) : Except Error UserApiConfig := do
  let authJwtKey ← readAuthJwtKey io config
  let httpAcceptor ← bindAcceptor io [] config.httpListenAddr
  let hranaWsAcceptor ← bindHranaWsAcceptor io [config.httpListenAddr] config.hranaListenAddr
  pure {
    httpAcceptor := some httpAcceptor
    hranaWsAcceptor
    enableHttpConsole := config.enableHttpConsole
    selfUrl := config.httpSelfUrl
    httpAuth := config.httpAuth
    authJwtKey }

/-- `make_admin_api_config`, while the process holds listeners on `held`. -/
def makeAdminApiConfig (io : Io B) (held : List SocketAddr) (config : Cli) :
    Except Error (Option AdminApiConfig) :=
  match config.adminListenAddr with
  | some addr => (fun acceptor => some ⟨acceptor⟩) <$> bindAcceptor io held addr
  | none => pure none

/-- The TLS block of `make_rpc_server_config` and `make_rpc_client_config`: once TLS is enabled,
each of the three files is required, with the `context` message of its side. -/
def makeTlsConfig (certMissing keyMissing caCertMissing : String) (tls : Bool)
    (cert key caCert : Option (List Char)) : Except Error (Option TlsConfig) :=
  if tls then do
    let cert ← contextOf certMissing cert
    let key ← contextOf keyMissing key
    let caCert ← contextOf caCertMissing caCert
    pure (some { cert, key, caCert })
  else pure none

/-- `make_rpc_server_config`: the gRPC listener, bound while the process holds listeners on
`held`, then its TLS files. -/
def makeRpcServerConfig (io : Io B) (held : List SocketAddr) (config : Cli) :
    Except Error (Option RpcServerConfig) :=
  match config.grpcListenAddr with
  | some addr => do
    let acceptor ← bindAcceptor io held addr
    let tlsConfig ← makeTlsConfig "server tls is enabled but cert file is missing"
      "server tls is enabled but key file is missing"
      "server tls is enabled but ca_cert file is missing"
      config.grpcTls config.grpcCertFile config.grpcKeyFile config.grpcCaCertFile
    pure (some { acceptor, addr, tlsConfig })
  | none => pure none

/-- `make_rpc_client_config`: the primary's URL with the client's TLS files. -/
def makeRpcClientConfig (config : Cli) : Except Error (Option RpcClientConfig) :=
  match config.primaryGrpcUrl with
  | some url => do
    let tlsConfig ← makeTlsConfig "client tls is enabled but cert file is missing"
      "client tls is enabled but key file is missing"
      "client tls is enabled but ca_cert file is missing"
      config.primaryGrpcTls config.primaryGrpcCertFile config.primaryGrpcKeyFile
      config.primaryGrpcCaCertFile
    pure (some { remoteUrl := url, tlsConfig })
  | none => pure none

/-- `make_hearbeat_config`: a heartbeat only when its URL is given. -/
def makeHearbeatConfig (config : Cli) : Option HeartbeatConfig := do
  let heartbeatUrl ← config.heartbeatUrl
  pure {
    heartbeatUrl
    heartbeatPeriodS := config.heartbeatPeriodS
    heartbeatAuth := config.heartbeatAuth }

/-- `build_server`: the builders in turn, the first error ending the build.  Each listener is
bound while the process holds those bound before it. -/
def buildServer (io : Io B) (config : Cli) : Except Error (Server B) := do
  let dbConfig ← makeDbConfig io config
  let userApiConfig ← makeUserApiConfig io config
  let adminApiConfig ←
    makeAdminApiConfig io (config.httpListenAddr :: config.hranaListenAddr.toList) config
  let rpcServerConfig ← makeRpcServerConfig io
    (config.httpListenAddr :: config.hranaListenAddr.toList ++ config.adminListenAddr.toList) config
  let rpcClientConfig ← makeRpcClientConfig config
  pure {
    path := config.dbPath
    dbConfig
    userApiConfig
    adminApiConfig
    rpcServerConfig
    rpcClientConfig
    heartbeatConfig := makeHearbeatConfig config
    idleShutdownTimeoutS := config.idleShutdownTimeoutS
    initialIdleShutdownTimeoutS := config.initialIdleShutdownTimeoutS
    disableDefaultNamespace := config.disableDefaultNamespace
    disableNamespaces := !config.enableNamespaces }

/-- The mode a server runs in, as the welcome message names it, from its RPC parts: `none` for
a server that would be primary and replica at once. -/
def Server.mode (server : Server B) : Option String :=
  welcomeMode (server.rpcServerConfig.map (·.addr)) (server.rpcClientConfig.map (·.remoteUrl))

/-! ## `main` -/

/-- The output of `perform_dump`: a file created, never overwritten, or standard output.  Every
error of the opening is reported as the file existing. -/
def createDumpFile (io : Io B) : Option (List Char) → Except Error Unit
  | some path =>
    match io.openCreateNew path with
    | .ok () => .ok ()
    | .error e => .error (.context ("file `" ++ String.mk path ++ "` already exists") (.source e))
  | none => .ok ()

/-- `perform_dump`: the output, then the connection to the database, then the dump. -/
def performDump (io : Io B) (dumpPath : Option (List Char)) (dbPath : List Char) :
    Except Error Unit := do
  createDumpFile io dumpPath
  (io.openConnection (joinPath dbPath "data".toList)).mapError .source
  (io.exportDump (joinPath dbPath "data".toList) dumpPath).mapError .source

/-- How a run of `main` ends once its arguments are parsed. -/
inductive Outcome (α : Type)
  | ok (a : α)
  | error (e : Error)
  /-- A panic: an `unreachable!` or an `expect` reached. -/
  | panic

/-- What `main` goes on to: a dump written, or a server about to be started, each with the lines
written to standard error before. -/
inductive MainEnd (B : Type)
  | dumped (stderr : List String)
  | serving (stderr : List String) (server : Server B)

/-- `main`, up to `server.start()`. -/
def main (io : Io B) (build : BuildInfo) (args : Cli) : Outcome (MainEnd B) :=
  match args.utils with
  | some (.dump path «namespace») =>
    let stderr := match path with
      | some path => ["Dumping database " ++ String.mk args.dbPath ++ " to " ++ String.mk path]
      | none => []
    let dbPath := joinPath (joinPath args.dbPath "dbs".toList) «namespace».toList
    if !io.pathExists dbPath then .error (.msg ("no database for namespace `" ++ «namespace» ++ "`"))
    else
      match performDump io path dbPath with
      | .ok () => .ok (.dumped stderr)
      | .error e => .error e
  | none =>
    match printWelcomeMessage build args with
    | none => .panic
    | some welcome =>
      match buildServer io args with
      | .ok server => .ok (.serving welcome server)
      | .error e => .error e

/-! ## Authentication -/

/-- `auth::Auth`, with `K` the type of JWT decoding keys. -/
structure Auth (K : Type) where
  disabled : Bool := false
  httpBasic : Option String := none
  jwtKey : Option K := none

/-- The parsers of `auth.rs`: `parse_http_basic_auth_arg` and `parse_jwt_key`. -/
structure AuthParsers (K : Type) where
  parseHttpBasicAuthArg : String → Except String (Option String)
  parseJwtKey : String → Except String K

/-- The basic credential of `get_auth`: none without `http_auth`, and none when its argument
parses to nothing. -/
def UserApiConfig.httpBasicOf (parsers : AuthParsers K) (self : UserApiConfig) :
    Except Error (Option String) :=
  match self.httpAuth with
  | some arg =>
    match parsers.parseHttpBasicAuthArg arg with
    | .ok param => .ok param
    | .error e => .error (.source e)
  | none => .ok none

/-- The JWT key of `get_auth`. -/
def UserApiConfig.jwtKeyOf (parsers : AuthParsers K) (self : UserApiConfig) :
    Except Error (Option K) :=
  match self.authJwtKey with
  | some jwtKey =>
    match parsers.parseJwtKey jwtKey with
    | .ok key => .ok (some key)
    | .error e => .error (.context "Could not parse JWT decoding key" (.source e))
  | none => .ok none

/-- `UserApiConfig::get_auth`: authentication is disabled when neither a basic credential nor a
JWT key results. -/
def UserApiConfig.getAuth (parsers : AuthParsers K) (self : UserApiConfig) :
    Except Error (Auth K) := do
  let httpBasic ← self.httpBasicOf parsers
  let jwtKey ← self.jwtKeyOf parsers
  pure { disabled := httpBasic.isNone && jwtKey.isNone, httpBasic, jwtKey }

/-! ## `Except` along the builders -/

section Except

variable {ε α β : Type}

@[simp] theorem ok_bind (a : α) (f : α → Except ε β) : (Except.ok a >>= f) = f a := rfl

@[simp] theorem error_bind (e : ε) (f : α → Except ε β) :
    (Except.error e >>= f : Except ε β) = .error e := rfl

@[simp] theorem isOk_ok (a : α) : (Except.ok a : Except ε α).isOk = true := rfl

@[simp] theorem isOk_error (e : ε) : (Except.error e : Except ε α).isOk = false := rfl

theorem bind_eq_ok {x : Except ε α} {f : α → Except ε β} {b : β} :
    x >>= f = .ok b ↔ ∃ a, x = .ok a ∧ f a = .ok b := by
  cases x <;> simp

end Except

/-! ## What each builder asks of the system -/

section Builders

variable {io : Io B} {config : Cli}

/-- What reading the JWT key asks: the key file can be read when one is given, and otherwise
`SQLD_AUTH_JWT_KEY` is valid Unicode when it is set. -/
def JwtKeyReadable (io : Io B) : Option (List Char) → Prop
  | some filePath => (io.readToString filePath).isOk = true
  | none => io.jwtKeyVar ≠ .error .notUnicode

/-- The TLS block fails exactly when TLS is enabled and a file is missing, with the message of
the first missing file in the order cert, key, ca_cert. -/
theorem makeTlsConfig_eq_error (certMissing keyMissing caCertMissing : String) (tls : Bool)
    (cert key caCert : Option (List Char)) (e : Error) :
    makeTlsConfig certMissing keyMissing caCertMissing tls cert key caCert = .error e ↔
      tls = true ∧
        (cert = none ∧ e = .msg certMissing ∨
          cert.isSome ∧ key = none ∧ e = .msg keyMissing ∨
            cert.isSome ∧ key.isSome ∧ caCert = none ∧ e = .msg caCertMissing) := by
  unfold makeTlsConfig
  cases tls
  · simp [pure, Except.pure]
  · cases cert <;> cases key <;> cases caCert <;> simp [contextOf, pure, Except.pure, eq_comm]

theorem makeRpcServerConfig_addr {held : List SocketAddr} {server : Option RpcServerConfig}
    (h : makeRpcServerConfig io held config = .ok server) :
    server.map (·.addr) = config.grpcListenAddr := by
  revert h
  unfold makeRpcServerConfig
  cases config.grpcListenAddr with
  | none => rintro ⟨⟩; rfl
  | some addr =>
    simp only [bind_eq_ok]
    rintro ⟨_, -, _, -, ⟨⟩⟩
    rfl

theorem makeRpcClientConfig_remoteUrl {client : Option RpcClientConfig}
    (h : makeRpcClientConfig config = .ok client) :
    client.map (·.remoteUrl) = config.primaryGrpcUrl := by
  revert h
  unfold makeRpcClientConfig
  cases config.primaryGrpcUrl with
  | none => rintro ⟨⟩; rfl
  | some url =>
    simp only [bind_eq_ok]
    rintro ⟨_, -, ⟨⟩⟩
    rfl

end Builders

/-! ## Building the server -/

/-- The system grants every request building the server makes for the options of `cli`, each
listener bound while those bound before it are held. -/
structure Io.Grants (io : Io B) (cli : Cli) : Prop where
  bottomless : cli.enableBottomlessReplication = true → io.bottomlessOptionsFromEnv.isOk = true
  jwtKey : JwtKeyReadable io cli.authJwtKeyFile
  http : (io.bind [] cli.httpListenAddr).isOk = true
  hrana : ∀ addr, cli.hranaListenAddr = some addr → (io.bind [cli.httpListenAddr] addr).isOk = true
  admin : ∀ addr, cli.adminListenAddr = some addr →
    (io.bind (cli.httpListenAddr :: cli.hranaListenAddr.toList) addr).isOk = true
  grpc : ∀ addr, cli.grpcListenAddr = some addr →
    (io.bind (cli.httpListenAddr :: cli.hranaListenAddr.toList ++ cli.adminListenAddr.toList)
      addr).isOk = true

/-- A system on which binding an address the process already listens on fails, as
`EADDRINUSE` does. -/
def Io.RefusesHeld (io : Io B) : Prop :=
  ∀ held addr, addr ∈ held → (io.bind held addr).isOk = false

/-- On a system that refuses an address in use, what it grants binds the server's addresses
once each. -/
theorem Io.Grants.nodup {io : Io B} {cli : Cli} (g : io.Grants cli) (hrefuse : io.RefusesHeld) :
    cli.listenAddrs.Nodup := by
  have fresh : ∀ {held addr}, (io.bind held addr).isOk = true → addr ∉ held :=
    fun hok hmem => by rw [hrefuse _ _ hmem] at hok; cases hok
  have hh := fun addr h => fresh (g.hrana addr h)
  have ha := fun addr h => fresh (g.admin addr h)
  have hg := fun addr h => fresh (g.grpc addr h)
  unfold Cli.listenAddrs
  revert hh ha hg
  cases cli.hranaListenAddr <;> cases cli.adminListenAddr <;> cases cli.grpcListenAddr <;>
    simp [List.nodup_cons, eq_comm] <;> tauto

/-- A system that grants every request. -/
def Io.granting : Io Unit where
  bind _ _ := .ok ()
  readToString _ := .ok ""
  jwtKeyVar := .error .notPresent
  bottomlessOptionsFromEnv := .ok ()
  pathExists _ := true
  openCreateNew _ := .ok ()
  openConnection _ := .ok ()
  exportDump _ _ := .ok ()

section Server

variable {io : Io B} {config : Cli} {server : Server B}

/-- What `build_server` builds is what its builders built. -/
theorem buildServer_eq_ok (h : buildServer io config = .ok server) :
    makeUserApiConfig io config = .ok server.userApiConfig ∧
      makeRpcServerConfig io
          (config.httpListenAddr :: config.hranaListenAddr.toList ++ config.adminListenAddr.toList)
          config = .ok server.rpcServerConfig ∧
        makeRpcClientConfig config = .ok server.rpcClientConfig := by
  simp only [buildServer, bind_eq_ok] at h
  obtain ⟨_, -, _, hu, _, -, _, hs, _, hc, ⟨⟩⟩ := h
  exact ⟨hu, hs, hc⟩

/-- A built server runs in the mode its RPC options name. -/
theorem Server.mode_of_buildServer (h : buildServer io config = .ok server) :
    server.mode = welcomeMode config.grpcListenAddr config.primaryGrpcUrl := by
  obtain ⟨-, hs, hc⟩ := buildServer_eq_ok h
  rw [Server.mode, makeRpcServerConfig_addr hs, makeRpcClientConfig_remoteUrl hc]

end Server

/-- The welcome message, when printed, has the line of the mode. -/
theorem printWelcomeMessage_mode {build : BuildInfo} {cli : Cli} {lines : List String}
    (h : printWelcomeMessage build cli = some lines) (hw : cli.noWelcome = false) :
    ∃ mode, welcomeMode cli.grpcListenAddr cli.primaryGrpcUrl = some mode ∧
      "\t- mode: " ++ mode ∈ lines := by
  rw [printWelcomeMessage, if_neg (by simp [hw]), Option.map_eq_some'] at h
  obtain ⟨mode, hm, rfl⟩ := h
  exact ⟨mode, hm, by simp⟩

/-- The `dump` subcommand ends in an error or with the dump written. -/
theorem main_dump (io : Io B) (build : BuildInfo) {args : Cli} {path : Option (List Char)}
    {ns : String} (hu : args.utils = some (.dump path ns)) :
    (∃ e, main io build args = .error e) ∨ ∃ stderr, main io build args = .ok (.dumped stderr) := by
  unfold main
  rw [hu]
  dsimp only
  split
  · exact .inl ⟨_, rfl⟩
  · split
    · exact .inr ⟨_, rfl⟩
    · exact .inl ⟨_, rfl⟩

/-- On a command line clap accepts, `main` does not reach the `unreachable!` of the welcome
message, and a server it goes on to start runs in the mode the message announced: standalone,
primary on its gRPC address, or replica of its primary's URL, never both. -/
theorem main_serving_mode (io : Io B) (build : BuildInfo) {args : Cli} (hv : args.Valid) :
    main io build args ≠ .panic ∧
      ∀ stderr server, main io build args = .ok (.serving stderr server) →
        ∃ mode, server.mode = some mode ∧ (args.noWelcome = false → "\t- mode: " ++ mode ∈ stderr) := by
  cases hu : args.utils with
  | some cmd =>
    obtain ⟨path, ns⟩ := cmd
    rcases main_dump io build hu with ⟨e, he⟩ | ⟨stderr, hd⟩
    · simp [he]
    · simp [hd]
  | none =>
    obtain ⟨welcome, hw⟩ := Option.isSome_iff_exists.1 (printWelcomeMessage_isSome build hv)
    cases hb : buildServer io args with
    | error e => simp [main, hu, hw, hb]
    | ok server =>
      simp only [main, hu, hw, hb, ne_eq, reduceCtorEq, not_false_eq_true, true_and]
      rintro stderr server' ⟨⟩
      obtain ⟨mode, hm⟩ := Option.isSome_iff_exists.1
        ((welcomeMode_isSome_iff _ _).2 hv.primaryOrReplica)
      refine ⟨mode, (Server.mode_of_buildServer hb).trans hm, fun hnw => ?_⟩
      obtain ⟨mode', hm', hl⟩ := printWelcomeMessage_mode hw hnw
      rw [hm, Option.some.injEq] at hm'
      rwa [hm']

/-- A replica, with the welcome message of a build. -/
theorem main_serving_mode_replica :
    ({ primaryGrpcUrl := some "http://localhost:5001" } : Cli).Valid ∧
      (main Io.granting ⟨"0.1.0", "VERGEN_IDEMPOTENT_OUTPUT", "2023-07-01"⟩
          { primaryGrpcUrl := some "http://localhost:5001" } ≠ .panic ∧
        ∀ stderr server, main Io.granting ⟨"0.1.0", "VERGEN_IDEMPOTENT_OUTPUT", "2023-07-01"⟩
            { primaryGrpcUrl := some "http://localhost:5001" } = .ok (.serving stderr server) →
          ∃ mode, server.mode = some mode ∧ "\t- mode: " ++ mode ∈ stderr) :=
  let hv : ({ primaryGrpcUrl := some "http://localhost:5001" } : Cli).Valid := by decide
  ⟨hv, (main_serving_mode _ _ hv).1,
    fun stderr server h => (((main_serving_mode _ _ hv).2 stderr server h).imp
      fun _ hm => ⟨hm.1, hm.2 rfl⟩)⟩

/-! ## Authentication -/

section Auth

variable {parsers : AuthParsers K} {self : UserApiConfig}

theorem httpBasicOf_eq_none_iff {httpBasic : Option String}
    (h : self.httpBasicOf parsers = .ok httpBasic) :
    httpBasic = none ↔
      ∀ arg, self.httpAuth = some arg → parsers.parseHttpBasicAuthArg arg = .ok none := by
  unfold UserApiConfig.httpBasicOf at h
  cases hauth : self.httpAuth <;> simp only [hauth] at h
  · cases h; simp
  · next arg =>
    cases hp : parsers.parseHttpBasicAuthArg arg <;> simp only [hp] at h <;> cases h
    simp [hp]

theorem jwtKeyOf_eq_none_iff {jwtKey : Option K} (h : self.jwtKeyOf parsers = .ok jwtKey) :
    jwtKey = none ↔ self.authJwtKey = none := by
  unfold UserApiConfig.jwtKeyOf at h
  cases hkey : self.authJwtKey <;> simp only [hkey] at h
  · cases h; simp
  · next key =>
    cases hp : parsers.parseJwtKey key <;> simp only [hp] at h <;> cases h
    simp

/-- `get_auth` disables authentication exactly when no JWT key is configured and the basic
authentication argument, if any, parses to no credential. -/
theorem getAuth_disabled_iff {auth : Auth K} (h : self.getAuth parsers = .ok auth) :
    auth.disabled = true ↔
      (∀ arg, self.httpAuth = some arg → parsers.parseHttpBasicAuthArg arg = .ok none) ∧
        self.authJwtKey = none := by
  simp only [UserApiConfig.getAuth, bind_eq_ok] at h
  obtain ⟨httpBasic, hb, jwtKey, hj, ⟨⟩⟩ := h
  simp only [Bool.and_eq_true, Option.isNone_iff_eq_none, ← httpBasicOf_eq_none_iff hb,
    ← jwtKeyOf_eq_none_iff hj]

end Auth

theorem readAuthJwtKey_eq_none_iff {io : Io B} {config : Cli} {key : Option String}
    (h : readAuthJwtKey io config = .ok key) :
    key = none ↔ config.authJwtKeyFile = none ∧ io.jwtKeyVar = .error .notPresent := by
  unfold readAuthJwtKey at h
  cases hfile : config.authJwtKeyFile <;> simp only [hfile] at h
  · rcases hv : io.jwtKeyVar with (_ | _) | key <;> simp only [hv] at h <;> cases h <;> simp
  · next filePath =>
    cases hr : io.readToString filePath <;> simp only [hr] at h <;> cases h
    simp

/-- A server built by `build_server` runs without authentication exactly when no JWT key file is
given, `SQLD_AUTH_JWT_KEY` is not set, and the basic authentication argument, if any, parses to no
credential. -/
theorem buildServer_auth_disabled_iff {io : Io B} {config : Cli} {server : Server B}
    {parsers : AuthParsers K} {auth : Auth K} (h : buildServer io config = .ok server)
    (hauth : server.userApiConfig.getAuth parsers = .ok auth) :
    auth.disabled = true ↔
      (∀ arg, config.httpAuth = some arg → parsers.parseHttpBasicAuthArg arg = .ok none) ∧
        config.authJwtKeyFile = none ∧ io.jwtKeyVar = .error .notPresent := by
  have hu := (buildServer_eq_ok h).1
  simp only [makeUserApiConfig, bind_eq_ok] at hu
  obtain ⟨key, hkey, _, -, _, -, hu⟩ := hu
  rw [getAuth_disabled_iff hauth, ← Except.ok.inj hu, ← readAuthJwtKey_eq_none_iff hkey]

/-- `--http-auth` with an argument that parses to a credential. -/
def basicAuthCli : Cli where
  httpAuth := some "basic:dXNlcjpwYXNz"

/-- Parsers that read every basic authentication argument as a credential. -/
def credentialParsers : AuthParsers Unit := ⟨fun _ => .ok (some "dXNlcjpwYXNz"), fun _ => .ok ()⟩

/-- With a basic credential, authentication is enabled. -/
theorem buildServer_auth_disabled_iff_httpBasic :
    ∃ server auth, buildServer Io.granting basicAuthCli = .ok server ∧
      server.userApiConfig.getAuth credentialParsers = .ok auth ∧ auth.disabled = false ∧
      (auth.disabled = true ↔
        (∀ arg, basicAuthCli.httpAuth = some arg →
          credentialParsers.parseHttpBasicAuthArg arg = .ok none) ∧
          basicAuthCli.authJwtKeyFile = none ∧ Io.granting.jwtKeyVar = .error .notPresent) :=
  ⟨_, _, rfl, rfl, rfl, buildServer_auth_disabled_iff rfl rfl⟩

end Startup
end Sqld
