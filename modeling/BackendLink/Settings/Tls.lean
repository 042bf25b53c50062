import BackendLink.OsText

/-!
# TLS settings

What is used once the backend has accepted an SSL request.
-/

namespace BackendLink

structure TlsSettings where
  /-- Certificates of the authorities to trust; without them the public ones are used. -/
  caCert : Option OsText := none
  clientCert : Option OsText := none
  clientKey : Option OsText := none
  /-- Accept any certificate of the backend. -/
  insecure : Bool := false
  /-- The name to ask for, in place of the host that was dialed. -/
  serverName : Option String := none
  deriving DecidableEq, Repr

namespace TlsSettings

def withCaCert (s : TlsSettings) (path : OsText) : TlsSettings := { s with caCert := some path }

def withClientCert (s : TlsSettings) (cert key : OsText) : TlsSettings :=
  { s with clientCert := some cert, clientKey := some key }

def withInsecure (s : TlsSettings) : TlsSettings := { s with insecure := true }

def withServerName (s : TlsSettings) (name : String) : TlsSettings :=
  { s with serverName := some name }

end TlsSettings
end BackendLink
