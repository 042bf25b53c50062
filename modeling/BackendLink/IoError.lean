/-!
# Transport and file errors

An `IoError` is what the operating system or a stream reports when a call fails: a kind, on which
the rest of the library decides, and a text, which it only passes on.
-/

namespace BackendLink

/-- What went wrong, as far as a caller may act on it. -/
inductive IoErrorKind
  | notFound
  | permissionDenied
  | connectionRefused
  | connectionReset
  | hostUnreachable
  | networkUnreachable
  | connectionAborted
  | notConnected
  | addrInUse
  | addrNotAvailable
  | brokenPipe
  | alreadyExists
  | wouldBlock
  | notADirectory
  | isADirectory
  | invalidInput
  | invalidData
  | timedOut
  | writeZero
  | invalidFilename
  | interrupted
  | unsupported
  | unexpectedEof
  | outOfMemory
  | other
  | uncategorized
  deriving DecidableEq, Repr

/-- The text of an error that carries nothing but its kind. -/
def IoErrorKind.description : IoErrorKind → String
  | .notFound => "entity not found"
  | .permissionDenied => "permission denied"
  | .connectionRefused => "connection refused"
  | .connectionReset => "connection reset"
  | .hostUnreachable => "host unreachable"
  | .networkUnreachable => "network unreachable"
  | .connectionAborted => "connection aborted"
  | .notConnected => "not connected"
  | .addrInUse => "address in use"
  | .addrNotAvailable => "address not available"
  | .brokenPipe => "broken pipe"
  | .alreadyExists => "entity already exists"
  | .wouldBlock => "operation would block"
  | .notADirectory => "not a directory"
  | .isADirectory => "is a directory"
  | .invalidInput => "invalid input parameter"
  | .invalidData => "invalid data"
  | .timedOut => "timed out"
  | .writeZero => "write zero"
  | .invalidFilename => "invalid filename"
  | .interrupted => "operation interrupted"
  | .unsupported => "unsupported"
  | .unexpectedEof => "unexpected end of file"
  | .outOfMemory => "out of memory"
  | .other => "other error"
  | .uncategorized => "uncategorized error"

/-- An error of the system (by its number), of a bare kind, or with a text of its own. -/
inductive IoError
  | system (number : Nat)
  | bare (kind : IoErrorKind)
  | custom (kind : IoErrorKind) (text : String)
  deriving DecidableEq, Repr

/-- The system's numbering: kind and wording of each error number in use. -/
def systemError : Nat → IoErrorKind × String
  | 0 => (.uncategorized, "Success")
  | 1 => (.permissionDenied, "Operation not permitted")
  | 2 => (.notFound, "No such file or directory")
  | 4 => (.interrupted, "Interrupted system call")
  | 11 => (.wouldBlock, "Resource temporarily unavailable")
  | 12 => (.outOfMemory, "Cannot allocate memory")
  | 13 => (.permissionDenied, "Permission denied")
  | 17 => (.alreadyExists, "File exists")
  | 20 => (.notADirectory, "Not a directory")
  | 21 => (.isADirectory, "Is a directory")
  | 22 => (.invalidInput, "Invalid argument")
  | 32 => (.brokenPipe, "Broken pipe")
  | 36 => (.invalidFilename, "File name too long")
  | 95 => (.unsupported, "Operation not supported")
  | 98 => (.addrInUse, "Address already in use")
  | 99 => (.addrNotAvailable, "Cannot assign requested address")
  | 101 => (.networkUnreachable, "Network is unreachable")
  | 103 => (.connectionAborted, "Software caused connection abort")
  | 104 => (.connectionReset, "Connection reset by peer")
  | 107 => (.notConnected, "Transport endpoint is not connected")
  | 110 => (.timedOut, "Connection timed out")
  | 111 => (.connectionRefused, "Connection refused")
  | 113 => (.hostUnreachable, "No route to host")
  | number => (.uncategorized, "Unknown error " ++ toString number)

namespace IoError

def kind : IoError → IoErrorKind
  | system number => (systemError number).1
  | bare kind => kind
  | custom kind _ => kind

def text : IoError → String
  | system number => (systemError number).2 ++ " (os error " ++ toString number ++ ")"
  | bare kind => kind.description
  | custom _ text => text

/-- A call cut short by a signal; sized reads repeat it. -/
def isInterrupted (error : IoError) : Bool := error.kind == .interrupted

/-- The peer went away. -/
def isDisconnect (error : IoError) : Bool :=
  match error.kind with
  | .connectionReset | .connectionAborted | .brokenPipe | .unexpectedEof => true
  | _ => false

end IoError
end BackendLink
