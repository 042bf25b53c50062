import BackendLink.Config.Document
import BackendLink.Files

/-!
# Layers of configuration

Settings come from three layers: the defaults, a file, and the environment, where each variable
decides about one setting alone. A variable whose value is not text counts as unset.

* `Environment.override` lays the environment over a configuration.
* `Config.load` starts from the file that the environment names, if it names one.
-/

namespace BackendLink

/-- The variables of a process. -/
structure Environment where
  values : List (String × OsText)

namespace Environment

def text? (env : Environment) (name : String) : Option String :=
  (env.values.lookup name).bind OsText.text?

/-- `1` and `true`, in letters of either case, switch on; all else switches off. -/
def isOn (value : String) : Bool :=
  value == "1" || String.ofList (value.toList.map Char.toLower) == "true"

def overrideBackend (env : Environment) (c : BackendConfig) : BackendConfig where
  addr := ((env.text? "PGRELAY_BACKEND_ADDR").filter (· ≠ "")).getD c.addr
  connectTimeoutSecs :=
    let given := (env.text? "PGRELAY_CONNECT_TIMEOUT").bind fun t =>
      Text.unsigned? Text.greatest64 t.toList
    (given.map UInt64.ofNat).getD c.connectTimeoutSecs

def overrideSsl (env : Environment) (c : SslConfig) : SslConfig where
  enable := ((env.text? "PGRELAY_SSL_ENABLE").map isOn).getD c.enable
  caCertPath := ((env.text? "PGRELAY_SSL_CA").map .ofString).or c.caCertPath
  clientCertPath := ((env.text? "PGRELAY_SSL_CERT").map .ofString).or c.clientCertPath
  clientKeyPath := ((env.text? "PGRELAY_SSL_KEY").map .ofString).or c.clientKeyPath
  insecure := ((env.text? "PGRELAY_SSL_INSECURE").map isOn).getD c.insecure
  serverName := (env.text? "PGRELAY_SSL_SERVER_NAME").or c.serverName

def override (env : Environment) (c : Config) : Config where
  backend := env.overrideBackend c.backend
  credentials := { ssl := env.overrideSsl c.credentials.ssl }

/-- The configuration file that the environment names. -/
def configFile? (env : Environment) : Option String := env.text? "PGRELAY_CONFIG"

end Environment

namespace Config

/-- The configuration in a text; errors name `path` as where the text is from. -/
def parse (path : OsText) (text : String) : Except ConfigError Config :=
  (ofYaml text).mapError fun refusal => .unparsable path refusal.detail

/-- A text that is from no file. -/
def parseInline (text : String) : Except ConfigError Config := parse (.ofString "<inline>") text

def ofFile (files : FileSystem) (path : OsText) : Except ConfigError Config := do
  let text ← ((files path).bind Opened.text).mapError (.unreadable path)
  parse path text

def ofEnvironment (env : Environment) : Config := env.override {}

def load (files : FileSystem) (env : Environment) : Except ConfigError Config := do
  let config ← match env.configFile? with
    | none => .ok {}
    | some path => ofFile files (.ofString path)
  .ok (env.override config)

end Config
end BackendLink
