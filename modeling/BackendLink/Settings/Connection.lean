import BackendLink.Address
import BackendLink.Settings.Tls

/-!
# Connection settings

Everything that one attempt to connect needs.
-/

namespace BackendLink

/-- How long a dial may take unless set otherwise, in milliseconds. -/
def defaultConnectTimeout : Nat := 10000

structure ConnectionSettings where
  /-- The backend as `host:port`. -/
  addr : String
  /-- Milliseconds the dial may take; without a limit it waits as long as the system does. -/
  connectTimeout : Option Nat := some defaultConnectTimeout
  /-- Ask for SSL and upgrade before the connection is handed out. -/
  requireSsl : Bool := false
  tls : TlsSettings := {}
  deriving DecidableEq, Repr

namespace ConnectionSettings

def withConnectTimeout (s : ConnectionSettings) (limit : Option Nat) : ConnectionSettings :=
  { s with connectTimeout := limit }

def withRequireSsl (s : ConnectionSettings) (require : Bool) : ConnectionSettings :=
  { s with requireSsl := require }

def withTls (s : ConnectionSettings) (tls : TlsSettings) : ConnectionSettings := { s with tls }

def host (s : ConnectionSettings) : String := Address.hostOf s.addr

end ConnectionSettings
end BackendLink
