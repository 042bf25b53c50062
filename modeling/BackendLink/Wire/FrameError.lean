import BackendLink.IoError

/-!
# Framing errors

What can go wrong while one message is read from or written to a stream.
-/

namespace BackendLink.Wire

inductive FrameError
  /-- A write or a flush failed. -/
  | transport (error : IoError)
  /-- The stream ended when `read` of `expected` bytes had arrived. -/
  | incomplete (read expected : Nat)
  /-- A read failed when `read` of `expected` bytes had arrived. -/
  | readFailed (read expected : Nat) (error : IoError)
  /-- A declared length above the limit. -/
  | tooLarge (size limit : Nat)
  deriving DecidableEq, Repr

namespace FrameError

def message : FrameError → String
  | transport error => "connection error: " ++ error.text
  | incomplete read expected =>
    "incomplete read: got " ++ toString read ++ " of " ++ toString expected ++ " bytes"
  | readFailed read expected error =>
    "read failed after " ++ toString read ++ " of " ++ toString expected ++ " bytes: " ++ error.text
  | tooLarge size limit =>
    "message too large: " ++ toString size ++ " bytes (max " ++ toString limit ++ ")"

/-- The error of the stream that lies behind, if there is one. -/
def cause? : FrameError → Option IoError
  | transport error | readFailed _ _ error => some error
  | incomplete .. | tooLarge .. => none

/-- How many bytes a failed sized read had delivered. -/
def partialRead? : FrameError → Option Nat
  | incomplete read _ | readFailed read _ _ => some read
  | transport _ | tooLarge .. => none

/-- The peer went away in the middle of a message. -/
def isDisconnect : FrameError → Bool
  | incomplete .. => true
  | transport error | readFailed _ _ error => error.isDisconnect
  | tooLarge .. => false

end FrameError
end BackendLink.Wire
