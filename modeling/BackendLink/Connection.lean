import BackendLink.Negotiation
import BackendLink.Settings.Connection

/-!
# Connecting to a backend

One attempt against one address: dial, ask for SSL when it is required, upgrade. What the network
answers and how a stream is upgraded are parameters, so every run of the attempt is a value.

When SSL is required, a connection is handed out only by the upgrader.
-/

namespace BackendLink

/-- A dialed stream and the address of its peer. -/
structure Socket where
  peer : Except IoError String
  stream : Transport

/-- An established connection. -/
inductive Link
  | plaintext (socket : Socket)
  | encrypted (socket : Socket)

namespace Link

def isEncrypted : Link → Bool
  | plaintext _ => false
  | encrypted _ => true

def socket : Link → Socket
  | plaintext socket | encrypted socket => socket

/-- The connection behind a shutdown, whatever its stream answers to that. -/
def closed : Link → Link
  | plaintext socket => plaintext { socket with stream := socket.stream.shutdown.2 }
  | encrypted socket => encrypted { socket with stream := socket.stream.shutdown.2 }

end Link

/-- How a dial ends. It can run out of time only where a limit is set. -/
inductive Dialed (limit : Option Nat)
  | socket (socket : Socket)
  | failed (error : IoError)
  | expired (limited : limit.isSome)

/-- What the network answers to a dial with a limit in milliseconds. -/
abbrev Network := Address.Target → (limit : Option Nat) → Dialed limit

/-- A network that has no way to any host. -/
def Network.unreachable : Network := fun _ _ => .failed (.system 101)

/-- The result of an upgrade and what was logged on the way. -/
structure Upgrade where
  result : Except ConnectError Link
  log : List Log.Line

/-- Takes over a stream that the backend agreed to encrypt; the text is the host that was dialed. -/
abbrev Upgrader := String → Socket → Upgrade

/-- An attempt to connect that is over. -/
structure Attempt where
  result : Except ConnectError Link
  /-- The dialed socket as dial and negotiation left it. -/
  socket : Option Socket
  /-- Each use of the upgrader: the host and the socket it was given. -/
  upgrades : List (String × Socket)
  log : List Log.Line

namespace Attempt

def target : String := "pgrelay_client::connection"

/-- An attempt that ended before any socket was there. -/
def unconnected (error : ConnectError) (log : List Log.Line) : Attempt :=
  ⟨.error error, none, [], log⟩

end Attempt

/-- A dial of an address: the address itself may be at fault. -/
def dial (network : Network) (addr : String) (limit : Option Nat) : Dialed limit :=
  match Address.target addr with
  | .error e => .failed e
  | .ok target => network target limit

/-- What happens on a dialed socket. -/
def ConnectionSettings.secure (settings : ConnectionSettings) (upgrader : Upgrader)
    (socket : Socket) : Attempt :=
  let debug (text : String) : Log.Line := ⟨.debug, Attempt.target, text⟩
  if !settings.requireSsl then ⟨.ok (.plaintext socket), some socket, [], []⟩
  else
    let negotiation := negotiate socket.stream
    let left : Socket := { socket with stream := negotiation.stream }
    let log := ⟨.info, Attempt.target, "SSL connections are enabled"⟩ :: negotiation.log
    match negotiation.outcome with
    | .error e => ⟨.error e, some left, [], log⟩
    | .ok .rejected => ⟨.error .sslDeclined, some left, [], log⟩
    | .ok (.allowed stream) =>
      let handed : Socket := { socket with stream }
      let upgrade := upgrader settings.host handed
      let ending := match upgrade.result with
        | .error e => ⟨.error, Attempt.target, "Connection upgrade failed: " ++ e.message⟩
        | .ok _ => debug "Connection successfully upgraded"
      ⟨upgrade.result, some left, [(settings.host, handed)],
        log ++ [debug "Attempting to upgrade connection"] ++ upgrade.log ++ [ending]⟩

def connect (settings : ConnectionSettings) (network : Network) (upgrader : Upgrader) : Attempt :=
  let debug (text : String) : Log.Line := ⟨.debug, Attempt.target, text⟩
  let dialing := debug ("Connecting to " ++ settings.addr ++ "...")
  match dial network settings.addr settings.connectTimeout with
  | .expired _ => .unconnected .timeout [dialing, debug "Connection timeout"]
  | .failed e => .unconnected (.connection e) [dialing, debug ("Connection failed: " ++ e.text)]
  | .socket socket =>
    let attempt := settings.secure upgrader socket
    { attempt with log := [dialing, debug ("TCP connected to " ++ settings.addr)] ++ attempt.log }

end BackendLink
