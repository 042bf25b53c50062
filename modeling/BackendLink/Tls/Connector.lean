import BackendLink.ConnectError
import BackendLink.Files
import BackendLink.Settings.Tls
import BackendLink.Tls.Certificate
import BackendLink.Tls.PrivateKey
import BackendLink.Tls.ServerName

/-!
# TLS connectors

Everything that a handshake needs, made from the settings and the files that they name. The parts
are checked one after the other, and the first that cannot be used is reported.

* `TlsSettings.verifying` is the connector that checks the backend's certificate,
  `TlsSettings.unverifying` the one that accepts any.
* `TlsFault` says which part cannot be used.
-/

namespace BackendLink

/-- Why there is no connector. -/
inductive TlsFault
  | certUnopened (path : OsText) (error : IoError)
  | certMalformed (path : OsText)
  | caRejected
  | keyUnopened (path : OsText) (error : IoError)
  | keyMalformed (path : OsText)
  | keyAbsent (path : OsText)
  /-- Key and certificate do not make a pair. -/
  | pairRejected
  | halfConfigured
  | nameInvalid (name : String)
  deriving DecidableEq, Repr

namespace TlsFault

/-- What is wrong with a PEM file, a certificate or a pair is told no further: the texts of
`certMalformed`, `keyMalformed`, `caRejected` and `pairRejected` end where that detail would begin. -/
def message : TlsFault → String
  | certUnopened path error => "cannot open cert file " ++ path.quoted ++ ": " ++ error.text
  | certMalformed path => "invalid cert file " ++ path.quoted
  | caRejected => "invalid CA cert"
  | keyUnopened path error => "cannot open key file " ++ path.quoted ++ ": " ++ error.text
  | keyMalformed path => "invalid key file " ++ path.quoted
  | keyAbsent path => "no private key found in " ++ path.quoted
  | pairRejected => "invalid client cert/key"
  | halfConfigured => "client certificate and key must be set together"
  | nameInvalid name => "invalid server name: " ++ name

def error (fault : TlsFault) : ConnectError := .tlsSettings fault.message

end TlsFault

/-- Which certificates of a backend are trusted. -/
inductive Trust
  /-- Those of the public authorities. -/
  | publicAuthorities
  /-- Those that lead to one of these. -/
  | authorities (anchors : List Certificate)
  | anything
  deriving DecidableEq, Repr

/-- What a client shows of itself: certificates, its own first, and the key to that one. -/
structure Identity where
  chain : List (List UInt8)
  key : Pem.Item
  deriving DecidableEq, Repr

structure TlsConnector where
  trust : Trust
  identity : Option Identity
  serverName : ServerName
  deriving DecidableEq, Repr

/-- A PEM file; what cannot be read is malformed from the start. -/
def Opened.bundle : Opened → Pem.Bundle
  | .file content => Pem.bundle content
  | .directory => ⟨[], true⟩

namespace TlsSettings

def certificates (files : FileSystem) (path : OsText) : Except TlsFault (List (List UInt8)) :=
  match files path with
  | .error e => .error (.certUnopened path e)
  | .ok opened =>
    match opened.bundle.certificates with
    | some certificates => .ok certificates
    | none => .error (.certMalformed path)

def privateKey (files : FileSystem) (path : OsText) : Except TlsFault Pem.Item :=
  match files path with
  | .error e => .error (.keyUnopened path e)
  | .ok opened =>
    match opened.bundle.privateKey with
    | .found key => .ok key
    | .absent => .error (.keyAbsent path)
    | .malformed => .error (.keyMalformed path)

/-- The public authorities, or those of the file that is named. -/
def trust (s : TlsSettings) (files : FileSystem) : Except TlsFault Trust :=
  match s.caCert with
  | none => .ok .publicAuthorities
  | some path => do
    match (← certificates files path).mapM Certificate.anchor? with
    | some anchors => .ok (.authorities anchors)
    | none => .error .caRejected

/-- The first certificate of a chain is for the public half of the key. -/
def isPair (chain : List (List UInt8)) (key : Pem.Item) : Bool :=
  match PrivateKey.publicKey? key, chain.head?.bind Certificate.parse? with
  | some half, some certificate => certificate.publicKey == half
  | _, _ => false

def identity (s : TlsSettings) (files : FileSystem) : Except TlsFault (Option Identity) :=
  match s.clientCert, s.clientKey with
  | none, none => .ok none
  | some certPath, some keyPath => do
    let chain ← certificates files certPath
    let key ← privateKey files keyPath
    if isPair chain key then .ok (some ⟨chain, key⟩) else .error .pairRejected
  | _, _ => .error .halfConfigured

/-- The name to check against: the one that is set, else the host that was dialed. -/
def nameFor (s : TlsSettings) (host : String) : Except TlsFault ServerName :=
  let name := s.serverName.getD host
  match ServerName.ofString? name with
  | some name => .ok name
  | none => .error (.nameInvalid name)

/-- A connector that checks the backend's certificate. -/
def verifying (s : TlsSettings) (files : FileSystem) (host : String) :
    Except TlsFault TlsConnector := do
  let trust ← s.trust files
  let identity ← s.identity files
  .ok ⟨trust, identity, ← s.nameFor host⟩

/-- A connector that accepts any certificate and shows none. -/
def unverifying (s : TlsSettings) (host : String) : Except TlsFault TlsConnector := do
  .ok ⟨.anything, none, ← s.nameFor host⟩

/-- The connector that the settings ask for. -/
def connector (s : TlsSettings) (files : FileSystem) (host : String) :
    Except TlsFault TlsConnector :=
  if s.insecure then s.unverifying host else s.verifying files host

end TlsSettings
end BackendLink
