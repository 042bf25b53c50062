import BackendLink.Wire.FrameError
import BackendLink.Wire.Word

/-!
# Messages

A message is a header and a payload. The header of the first message on a connection is a length;
every later message has a type byte in front of it. The length counts its own four bytes and the
payload, never the type byte, and is at most `sizeLimit`.

* `Message.startup` and `Message.regular` encode a payload, or refuse one above the limit.
* `Message.header_append_payload`: a message is its header followed by its payload.
-/

namespace BackendLink.Wire

/-- Which header a message has. -/
inductive Kind
  /-- A length alone: the first message on a connection, and the SSL request. -/
  | startup
  /-- A type byte and a length: everything else. -/
  | regular
  deriving DecidableEq, Repr

def lengthSize : Nat := 4

def Kind.headerSize : Kind → Nat
  | .startup => lengthSize
  | .regular => 1 + lengthSize

/-- The largest length that may be declared: 1 GiB. -/
def sizeLimit : Nat := 0x40000000

/-- Payload bytes behind a header that declares `declared`; a length too small to count itself
stands for no payload. -/
def payloadLength (declared : UInt32) : Nat := declared.toNat - lengthSize

/-- One complete message, header included. -/
structure Message where
  kind : Kind
  bytes : List UInt8
  header_le : kind.headerSize ≤ bytes.length
  deriving DecidableEq, Repr

/-- The length in a header of the given kind. -/
def Kind.declaredLength (kind : Kind) (bytes : List UInt8) : UInt32 :=
  decodeWord ((bytes.drop (kind.headerSize - lengthSize)).take lengthSize)

/-- The length to declare for a payload of `size` bytes. One that does not fit its field is reported
as the largest that does. -/
def encodedLength (size : UInt64) : Except FrameError UInt32 :=
  match word? (saturatingAdd size (.ofNat lengthSize)) with
  | some length =>
    if length.toNat ≤ sizeLimit then .ok length else .error (.tooLarge length.toNat sizeLimit)
  | none => .error (.tooLarge 0xFFFFFFFF sizeLimit)

namespace Message

def startup (payload : List UInt8) : Except FrameError Message :=
  match encodedLength (sizeInMemory payload) with
  | .error e => .error e
  | .ok length => .ok ⟨.startup, encodeWord length ++ payload, by simp [Kind.headerSize, lengthSize]⟩

def regular (tag : UInt8) (payload : List UInt8) : Except FrameError Message :=
  match encodedLength (sizeInMemory payload) with
  | .error e => .error e
  | .ok length =>
    .ok ⟨.regular, tag :: (encodeWord length ++ payload), by simp [Kind.headerSize, lengthSize]⟩

/-- The type byte of a regular message. -/
def tag? (m : Message) : Option UInt8 :=
  match m.kind with
  | .startup => none
  | .regular => m.bytes.head?

/-- The length field as it stood on the wire. -/
def declaredLength (m : Message) : UInt32 := m.kind.declaredLength m.bytes

def header (m : Message) : List UInt8 := m.bytes.take m.kind.headerSize

def payload (m : Message) : List UInt8 := m.bytes.drop m.kind.headerSize

def size (m : Message) : Nat := m.bytes.length

def isEmpty (m : Message) : Bool := m.bytes.isEmpty

theorem header_append_payload (m : Message) : m.header ++ m.payload = m.bytes :=
  List.take_append_drop _ _

end Message

/-- The code that an SSL request carries where a startup message has its version. -/
def sslRequestCode : UInt32 := 80877103

/-- The SSL request: a startup message of which the code is the whole payload. -/
def sslRequest : List UInt8 := encodeWord 8 ++ encodeWord sslRequestCode

/-- The reply that accepts an SSL request. -/
def sslAllowed : UInt8 := 0x53

/-- The usual reply that declines one. -/
def sslDenied : UInt8 := 0x4E

/-- The port a backend listens on by default. -/
def defaultPort : Nat := 5432

end BackendLink.Wire
