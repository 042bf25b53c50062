import BackendLink.Program
import Std.Async.DNS
import Std.Async.TCP

/-!
# The command line

Looks up the variables, files and answers of the network that a run depends on, lets the program run
on them, prints what it logs and ends with its exit code. No handshake is made here, so a backend
that agrees to encrypt ends the run with a failed upgrade.
-/

namespace BackendLink.Main
open Std.Async Wire

def ioError : IO.Error → IoError
  | .alreadyExists _ n _ | .invalidArgument _ n _ | .permissionDenied _ n _
  | .resourceExhausted _ n _ | .inappropriateType _ n _ | .noSuchThing _ n _ => .system n.toNat
  | .otherError n _ | .resourceBusy n _ | .resourceVanished n _ | .unsupportedOperation n _
  | .hardwareFault n _ | .unsatisfiedConstraints n _ | .illegalOperation n _ | .protocolError n _
  | .timeExpired n _ => .system n.toNat
  | .interrupted _ n _ | .noFileOrDirectory _ n _ => .system n.toNat
  | .unexpectedEof => .bare .unexpectedEof
  | .userError text => .custom .other text

/-- The outcome of an action, with its error as a value. -/
def outcome {α : Type} (action : IO α) : IO (Except IoError α) := do
  return (← action.toBaseIO).mapError ioError

def variableNames : List String :=
  ["RUST_LOG", "PGRELAY_CONFIG", "PGRELAY_BACKEND_ADDR", "PGRELAY_CONNECT_TIMEOUT",
    "PGRELAY_SSL_ENABLE", "PGRELAY_SSL_CA", "PGRELAY_SSL_CERT", "PGRELAY_SSL_KEY",
    "PGRELAY_SSL_INSECURE", "PGRELAY_SSL_SERVER_NAME"]

def environment : IO Environment := do
  let mut found := []
  for name in variableNames do
    if let some value ← IO.getEnv name then
      found := found ++ [(name, OsText.ofString value)]
  return ⟨found⟩

/-- What opening a file gives; a directory is told by the error of reading it. -/
def opened (path : OsText) : IO (Except IoError Opened) := do
  match ← outcome (IO.FS.readBinFile path.shown) with
  | .ok content => return .ok (.file content.toList)
  | .error e => return if e.kind == .isADirectory then .ok .directory else .error e

/-- A file system of the named files alone, as they are now. -/
def snapshot (paths : List OsText) : IO FileSystem := do
  let found ← paths.mapM fun path => do return (path, ← opened path)
  return fun path => (found.lookup path).getD (.error (.system 2))

/-- Connects to the first address of a host that answers. -/
def connectTo (target : Address.Target) : Async TCP.Socket.Client := do
  let mut last : IO.Error := .userError "could not resolve to any address"
  for ip in ← DNS.getAddrInfo target.host (toString target.port) do
    let address : Std.Net.SocketAddress := match ip with
      | .v4 addr => .v4 ⟨addr, UInt16.ofNat target.port⟩
      | .v6 addr => .v6 ⟨addr, UInt16.ofNat target.port⟩
    try
      let client ← TCP.Socket.Client.mk
      client.connect address
      return client
    catch e => last := e
  throw last

/-- Asks for SSL and takes the reply, as the events of a stream. -/
def askForSsl (client : TCP.Socket.Client) : IO Transport := do
  match ← outcome (client.send ⟨sslRequest.toArray⟩).block with
  | .error e => return { writes := [.error e] }
  | .ok () =>
    match ← outcome (client.recv? (UInt64.ofNat replyLimit)).block with
    | .error e => return { reads := [.error e] }
    | .ok none => return { reads := [.eof] }
    | .ok (some reply) => return { reads := [.data reply.toList] }

def addressText : Std.Net.SocketAddress → String
  | .v4 a => a.addr.toString ++ ":" ++ toString a.port
  | .v6 a => "[" ++ a.addr.toString ++ "]:" ++ toString a.port

/-- The socket of a connection, as far as a run will use it. -/
def socket (settings : ConnectionSettings) (client : TCP.Socket.Client) : IO Socket := do
  let peer ← outcome client.getPeerName
  let stream ← if settings.requireSsl then askForSsl client else pure {}
  return ⟨peer.map addressText, stream⟩

/-- Dials for as long as the limit allows. -/
def dialed (settings : ConnectionSettings) (target : Address.Target) :
    (limit : Option Nat) → IO (Dialed limit)
  | none => do finish none (← (connectTo target).toIO)
  | some limit => do
    let task ← (connectTo target).toIO
    for _ in [0:limit] do
      if ← IO.hasFinished task then break
      IO.sleep 1
    if ← IO.hasFinished task then finish (some limit) task else return .expired rfl
where
  finish (limit : Option Nat) (task : AsyncTask TCP.Socket.Client) : IO (Dialed limit) := do
    match ← outcome task.block with
    | .error e => return .failed e
    | .ok client => return .socket (← socket settings client)

/-- The network of a run: it answers the one dial that the settings lead to. -/
def network (settings : ConnectionSettings) : IO Network := do
  match Address.target settings.addr with
  | .error _ => return .unreachable
  | .ok target =>
    let answer ← dialed settings target settings.connectTimeout
    return fun _ limit =>
      if same : settings.connectTimeout = limit then same ▸ answer else .failed (.system 101)

def levelName : Log.Level → String
  | .error => "ERROR"
  | .warn => "WARN"
  | .info => "INFO"
  | .debug => "DEBUG"
  | .trace => "TRACE"

def execute : IO UInt32 := do
  let env ← environment
  let configFiles ← snapshot (env.configFile?.map OsText.ofString).toList
  let (files, network) ← match Program.plan env configFiles with
    | .error _ => pure (configFiles, Network.unreachable)
    | .ok settings => do
      let tls := settings.tls
      let paths := env.configFile?.map OsText.ofString :: [tls.caCert, tls.clientCert, tls.clientKey]
      pure (← snapshot (paths.filterMap id), ← network settings)
  let run := Program.run env files network fun _ _ => .error "no handshake is available"
  for line in Program.shown env run do
    IO.println (levelName line.level ++ " " ++ line.target ++ ": " ++ line.text)
  return UInt32.ofNat run.exitCode

end BackendLink.Main

def main : IO UInt32 := BackendLink.Main.execute
