import BackendLink.Settings.Connection
import BackendLink.Text.Blank

/-!
# Configuration

What the program is told about its backend: where it is, how long a dial may take and how its
connection is secured.

* `Config.validate` refuses settings that cannot be meant.
* `Config.connectionSettings` is what one attempt to connect is made with.
-/

namespace BackendLink

structure BackendConfig where
  addr : String := "127.0.0.1:5432"
  /-- Seconds that a dial may take; zero is no limit. -/
  connectTimeoutSecs : UInt64 := 10
  deriving DecidableEq, Repr

structure SslConfig where
  enable : Bool := false
  caCertPath : Option OsText := none
  clientCertPath : Option OsText := none
  clientKeyPath : Option OsText := none
  insecure : Bool := false
  serverName : Option String := none
  deriving DecidableEq, Repr

structure CredentialsConfig where
  ssl : SslConfig := {}
  deriving DecidableEq, Repr

structure Config where
  backend : BackendConfig := {}
  credentials : CredentialsConfig := {}
  deriving DecidableEq, Repr

/-- Why there is no usable configuration. -/
inductive ConfigError
  | unreadable (path : OsText) (error : IoError)
  /-- The text is no configuration; the path is the one that an error names. -/
  | unparsable (path : OsText) (detail : String)
  | invalid (fault : String)
  deriving DecidableEq, Repr

namespace ConfigError

def message : ConfigError → String
  | unreadable path error => "failed to read config file '" ++ path.shown ++ "': " ++ error.text
  | unparsable path detail => "failed to parse config file '" ++ path.shown ++ "': " ++ detail
  | invalid fault => "configuration validation failed: " ++ fault

/-- The text of the error behind this one. -/
def cause? : ConfigError → Option String
  | unreadable _ error => some error.text
  | unparsable .. | invalid _ => none

end ConfigError

/-- The limit of a dial in milliseconds. -/
def BackendConfig.connectTimeout (c : BackendConfig) : Option Nat :=
  if c.connectTimeoutSecs == 0 then none else some (c.connectTimeoutSecs.toNat * 1000)

namespace SslConfig

def tlsSettings (c : SslConfig) : TlsSettings where
  caCert := c.caCertPath
  clientCert := c.clientCertPath
  clientKey := c.clientKeyPath
  insecure := c.insecure
  serverName := c.serverName

/-- A client certificate is of no use without its key, nor the key without it. Nothing is asked of
settings that are not in use. -/
def validate (c : SslConfig) : Except ConfigError Unit :=
  if !c.enable then .ok ()
  else
    match c.clientCertPath, c.clientKeyPath with
    | some _, none => .error (.invalid "client_cert_path set but client_key_path not set")
    | none, some _ => .error (.invalid "client_key_path set but client_cert_path not set")
    | _, _ => .ok ()

end SslConfig

namespace Config

def validate (c : Config) : Except ConfigError Unit :=
  if Text.isBlankText c.backend.addr.toList then
    .error (.invalid "backend.addr must not be empty")
  else c.credentials.ssl.validate

def connectionSettings (c : Config) : ConnectionSettings where
  addr := c.backend.addr
  connectTimeout := c.backend.connectTimeout
  requireSsl := c.credentials.ssl.enable
  tls := c.credentials.ssl.tlsSettings

end Config
end BackendLink
