import BackendLink.Connection
import BackendLink.Tls.Connector

/-!
# Upgrading a connection to TLS

The upgrader that takes over once the backend has agreed to encrypt. It makes the connector first,
so settings that cannot be used are reported before any byte of a handshake is sent. The handshake
is a parameter.
-/

namespace BackendLink

/-- What comes of a handshake on a socket: the encrypted stream in its place, or what went wrong. -/
abbrev Handshake := TlsConnector → Socket → Except String Socket

namespace TlsSettings

def upgradeTarget : String := "pgrelay_client::tls"

def upgrader (s : TlsSettings) (files : FileSystem) (handshake : Handshake) : Upgrader :=
  fun host socket =>
    let debug (text : String) : Log.Line := ⟨.debug, upgradeTarget, text⟩
    let warning : List Log.Line :=
      if s.insecure then
        [⟨.warn, upgradeTarget, "Using insecure TLS (certificate verification disabled)"⟩]
      else []
    match s.connector files host with
    | .error fault => ⟨.error fault.error, warning⟩
    | .ok connector =>
      let start := debug "Performing TLS handshake..."
      match handshake connector socket with
      | .error detail => ⟨.error (.upgradeFailed detail), warning ++ [start]⟩
      | .ok encrypted => ⟨.ok (.encrypted encrypted), warning ++ [start, debug "TLS handshake complete"]⟩

end TlsSettings
end BackendLink
