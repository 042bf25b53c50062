import BackendLink.Address.Ip
import BackendLink.IoError

/-!
# Backend addresses

An address is `host:port`, or `[host]:port` for a host that has colons of its own.

* `hostOf` is the name a certificate is checked against.
* `target` is what a dial resolves and connects to.
-/

namespace BackendLink.Address

/-- The text before and after the last colon. -/
def splitLastColon : List Char → Option (List Char × List Char)
  | [] => none
  | c :: rest =>
    match splitLastColon rest with
    | some (before, after) => some (c :: before, after)
    | none => if c = ':' then some ([], rest) else none

def port? (text : List Char) : Option Nat := Text.unsigned? 65535 text

/-- The host of an address without brackets: what stands before a port, if there is one and no other
colon; else the whole address. -/
def unbracketedHost (addr : List Char) : List Char :=
  match splitLastColon addr with
  | some (host, port) => if ':' ∉ host ∧ (port? port).isSome then host else addr
  | none => addr

/-- The host of an address: what stands between brackets at its front, else what stands before its
port. -/
def hostChars (addr : List Char) : List Char :=
  match addr with
  | '[' :: rest => if ']' ∈ rest then rest.takeWhile (· != ']') else unbracketedHost addr
  | _ => unbracketedHost addr

def hostOf (addr : String) : String := String.ofList (hostChars addr.toList)

/-- Where a dial goes. -/
structure Target where
  host : String
  port : Nat
  deriving DecidableEq, Repr

/-- A long IP address, alone or with a percent sign and the number of its zone. -/
def isZoned (text : List Char) : Bool :=
  match Ip.long? text with
  | some (_, []) => true
  | some (_, '%' :: zone) => zone.all Char.isDigit && (Text.unsigned? 4294967295 zone).isSome
  | _ => false

/-- The name that a dial looks up. Brackets around a long IP address are not part of it, provided
that the port is digits alone; around any other text they are. -/
def lookedUp (host port : List Char) : List Char :=
  match host with
  | '[' :: rest =>
    if rest.getLast? = some ']' ∧ isZoned rest.dropLast ∧ port.all Char.isDigit then rest.dropLast
    else host
  | _ => host

/-- Splits an address at its last colon. -/
def target (addr : String) : Except IoError Target :=
  match splitLastColon addr.toList with
  | none => .error (.custom .invalidInput "invalid socket address")
  | some (host, port) =>
    match port? port with
    | none => .error (.custom .invalidInput "invalid port value")
    | some number => .ok ⟨String.ofList (lookedUp host port), number⟩

end BackendLink.Address
