import BackendLink.Wire.FrameError

/-!
# Connection errors

Why no connection to the backend could be handed out.
-/

namespace BackendLink
open Wire

inductive ConnectError
  /-- The dial or the stream failed. -/
  | connection (error : IoError)
  /-- A message could not be read or written. -/
  | frame (error : FrameError)
  /-- The dial took longer than allowed. -/
  | timeout
  /-- The backend declined the SSL request. -/
  | sslDeclined
  /-- The stream could not be upgraded. -/
  | upgradeFailed (detail : String)
  /-- The TLS settings are unusable. -/
  | tlsSettings (detail : String)
  deriving DecidableEq, Repr

namespace ConnectError

def message : ConnectError → String
  | connection error => "connection error: " ++ error.text
  | frame error => "protocol error: " ++ error.message
  | timeout => "connect timeout"
  | sslDeclined => "backend does not allow SSL connections"
  | upgradeFailed detail => "TLS upgrade failed: " ++ detail
  | tlsSettings detail => "TLS configuration error: " ++ detail

/-- The text of the error behind this one. -/
def cause? : ConnectError → Option String
  | connection error => some error.text
  | frame error => some error.message
  | timeout | sslDeclined | upgradeFailed _ | tlsSettings _ => none

/-- Another attempt may succeed. -/
def isRetryable : ConnectError → Bool
  | connection _ | timeout => true
  | frame error => error.isDisconnect
  | sslDeclined | upgradeFailed _ | tlsSettings _ => false

/-- A failed write is a failure of the connection; a failed sized read keeps its count. -/
def ofFrame : FrameError → ConnectError
  | .transport error => connection error
  | other => frame other

end ConnectError
end BackendLink
