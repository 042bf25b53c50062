import BackendLink.Config.Environment
import BackendLink.Tls.Upgrade

/-!
# The connection check

The program connects to the configured backend once and reports whether the connection is encrypted.
A run is a value: what the environment, the files, the network and the handshake answer goes in, and
what was dialed, why it failed and what was logged comes out.
-/

namespace BackendLink.Program

/-- Why a run fails. -/
inductive Failure
  | config (error : ConfigError)
  | connect (error : ConnectError)
  /-- The address of the peer of an established connection is not known. -/
  | peer (error : IoError)

structure Run where
  failure : Option Failure
  /-- The settings that were dialed with, and what came of it; without them nothing was dialed. -/
  dialed : Option (ConnectionSettings × Attempt)
  log : List Log.Line
  /-- The connection that was reported, as it was left at the end. -/
  closed : Option Link

def Run.exitCode (run : Run) : Nat := if run.failure.isSome then 1 else 0

def line (level : Log.Level) (text : String) : Log.Line := ⟨level, "pgrelay", text⟩

/-- Where the configuration is from. -/
def origin (env : Environment) : Log.Line :=
  match env.configFile? with
  | some path => line .info ("Loaded config from " ++ path)
  | none => line .info "Using default configuration"

def describe (settings : ConnectionSettings) : List Log.Line :=
  line .info ("Backend: " ++ settings.addr) ::
    if settings.requireSsl then
      line .info "  SSL: required" ::
        if settings.tls.insecure then [line .warn "  Certificate verification: disabled"] else []
    else [line .info "  SSL: disabled"]

/-- The attempt with a configuration that was accepted. -/
def check (settings : ConnectionSettings) (network : Network) (upgrader : Upgrader) : Run :=
  let attempt := connect settings network upgrader
  let log := describe settings ++ attempt.log
  let dialed := some (settings, attempt)
  match attempt.result with
  | .error e =>
    ⟨some (.connect e), dialed,
      log ++ [line .error ("Failed to connect to backend: " ++ e.message)], none⟩
  | .ok link =>
    match link.socket.peer with
    | .error e => ⟨some (.peer e), dialed, log, none⟩
    | .ok peer =>
      let manner := if link.isEncrypted then "TLS" else "plaintext"
      ⟨none, dialed, log ++ [line .info ("Connected to " ++ peer ++ " (" ++ manner ++ ")")],
        some link.closed⟩

/-- The settings to dial with, or the run that ends without a dial. -/
def plan (env : Environment) (files : FileSystem) : Except Run ConnectionSettings :=
  match Config.load files env with
  | .error e =>
    .error ⟨some (.config e), none, [line .error ("Failed to load config: " ++ e.message)], none⟩
  | .ok config =>
    match config.validate with
    | .error e =>
      .error ⟨some (.config e), none,
        [origin env, line .error ("Configuration error: " ++ e.message)], none⟩
    | .ok () => .ok config.connectionSettings

def run (env : Environment) (files : FileSystem) (network : Network) (handshake : Handshake) : Run :=
  match plan env files with
  | .error ended => ended
  | .ok settings =>
    let run := check settings network (settings.tls.upgrader files handshake)
    { run with log := origin env :: run.log }

/-- The filter that the environment asks for. -/
def filter (env : Environment) : Log.Filter :=
  match env.text? "RUST_LOG" with
  | some text => .ofString text
  | none => .standard

/-- The lines of a run that are shown. -/
def shown (env : Environment) (run : Run) : List Log.Line := run.log.filter (filter env).shows

end BackendLink.Program
