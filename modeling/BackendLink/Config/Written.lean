import BackendLink.Config
import BackendLink.Yaml.Written

/-!
# Written configurations

A configuration as a document: every setting by its name, in a fixed order, also those that have
their defaults.
-/

namespace BackendLink.Config
open Yaml

/-- A path that is not text has no written form. -/
inductive WriteError
  | pathNotText
  deriving DecidableEq, Repr

def WriteError.message : WriteError → String
  | pathNotText => "path contains invalid UTF-8 characters"

/-- A value in a document. -/
inductive Written
  | word (text : String)
  | text (value : String)
  | record (entries : List (String × Written))

mutual

/-- A value from behind its key's colon; `indent` is where the lines of a nested value start. -/
def Written.render (indent : Nat) : Written → List Char
  | .word text => [' '] ++ text.toList ++ ['\n']
  | .text value => Yaml.written indent value.toList
  | .record entries => ['\n'] ++ renderEntries indent entries

def renderEntries (indent : Nat) : List (String × Written) → List Char
  | [] => []
  | (key, value) :: rest =>
    spaces indent ++ key.toList ++ [':'] ++ value.render (indent + 2) ++ renderEntries indent rest

end

def writtenFlag (b : Bool) : Written := .word (if b then "true" else "false")

def writtenText : Option String → Written
  | none => .word "null"
  | some t => .text t

def writtenPath : Option OsText → Except WriteError Written
  | none => .ok (.word "null")
  | some path =>
    match path.text? with
    | some t => .ok (.text t)
    | none => .error .pathNotText

def writtenSsl (c : SslConfig) : Except WriteError Written := do
  .ok (.record [
    ("enable", writtenFlag c.enable),
    ("ca_cert_path", ← writtenPath c.caCertPath),
    ("client_cert_path", ← writtenPath c.clientCertPath),
    ("client_key_path", ← writtenPath c.clientKeyPath),
    ("insecure", writtenFlag c.insecure),
    ("server_name", writtenText c.serverName)])

def writtenEntries (c : Config) : Except WriteError (List (String × Written)) := do
  .ok [
    ("backend", .record [
      ("addr", .text c.backend.addr),
      ("connect_timeout_secs", .word (toString c.backend.connectTimeoutSecs.toNat))]),
    ("credentials", .record [("ssl", ← writtenSsl c.credentials.ssl)])]

def toYaml (c : Config) : Except WriteError String := do
  .ok (String.ofList (renderEntries 0 (← writtenEntries c)))

end BackendLink.Config
