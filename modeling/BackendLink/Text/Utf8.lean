/-!
# UTF-8

Bytes as a sequence of characters and of broken stretches: a broken stretch is the longest start of
a character that no further byte can complete, or one byte that starts none. Nothing is lost, so a
name that is not text can still be shown, quoted and compared.

* `decode` splits bytes into pieces, `encode` writes one character, `Piece.bytes` a piece.
* `text?` is the strict reading: it exists exactly when no piece is broken.
-/

namespace BackendLink.Utf8

/-- One character, or bytes that are part of none. -/
inductive Piece
  | char (value : Char)
  | broken (bytes : List UInt8)
  deriving DecidableEq, Repr

/-- The bytes of one character, shortest form. -/
def encode (c : Char) : List UInt8 :=
  let n := c.toNat
  if n < 0x80 then [UInt8.ofNat n]
  else if n < 0x800 then [UInt8.ofNat (0xC0 + n / 0x40), UInt8.ofNat (0x80 + n % 0x40)]
  else if n < 0x10000 then
    [UInt8.ofNat (0xE0 + n / 0x1000), UInt8.ofNat (0x80 + n / 0x40 % 0x40),
      UInt8.ofNat (0x80 + n % 0x40)]
  else
    [UInt8.ofNat (0xF0 + n / 0x40000), UInt8.ofNat (0x80 + n / 0x1000 % 0x40),
      UInt8.ofNat (0x80 + n / 0x40 % 0x40), UInt8.ofNat (0x80 + n % 0x40)]

def encodeAll (cs : List Char) : List UInt8 := cs.flatMap encode

def Piece.bytes : Piece → List UInt8
  | .char c => encode c
  | .broken bs => bs

/-- A byte that continues a character. -/
def isContinuation (b : UInt8) : Bool := 0x80 ≤ b && b < 0xC0

/-- For a first byte: how many bytes follow, and the range that the first of them lies in. The
ranges leave out overlong forms, surrogates and numbers above the last character. -/
def following (b : UInt8) : Option (Nat × UInt8 × UInt8) :=
  if b < 0xC2 then none
  else if b < 0xE0 then some (1, 0x80, 0xBF)
  else if b == 0xE0 then some (2, 0xA0, 0xBF)
  else if b == 0xED then some (2, 0x80, 0x9F)
  else if b < 0xF0 then some (2, 0x80, 0xBF)
  else if b == 0xF0 then some (3, 0x90, 0xBF)
  else if b < 0xF4 then some (3, 0x80, 0xBF)
  else if b == 0xF4 then some (3, 0x80, 0x8F)
  else none

/-- The bytes at the front that continue a character of which `missing` bytes are still to come;
the first of them must lie between `low` and `high`. -/
def continuation (missing : Nat) (low high : UInt8) (bs : List UInt8) : List UInt8 :=
  match bs with
  | b :: rest =>
    if low ≤ b && b ≤ high then b :: (rest.take (missing - 1)).takeWhile isContinuation else []
  | [] => []

/-- The number a complete character's bytes stand for. -/
def number (first : UInt8) (rest : List UInt8) : Nat :=
  let lead := match rest.length with
    | 0 => first.toNat
    | 1 => first.toNat - 0xC0
    | 2 => first.toNat - 0xE0
    | _ => first.toNat - 0xF0
  rest.foldl (fun n b => n * 0x40 + (b.toNat - 0x80)) lead

/-- The first piece of `b :: bs` and how many bytes of `bs` belong to it. -/
def firstPiece (b : UInt8) (bs : List UInt8) : Piece × Nat :=
  if b < 0x80 then (.char (Char.ofNat b.toNat), 0)
  else match following b with
    | none => (.broken [b], 0)
    | some (missing, low, high) =>
      let more := continuation missing low high bs
      if more.length == missing then (.char (Char.ofNat (number b more)), missing)
      else (.broken (b :: more), more.length)

def decode (bs : List UInt8) : List Piece :=
  match bs with
  | [] => []
  | b :: rest =>
    let (piece, used) := firstPiece b rest
    piece :: decode (rest.drop used)
termination_by bs.length
decreasing_by
  simp only [List.length_cons, List.length_drop]
  omega

/-- The characters, when no piece is broken. -/
def chars? : List Piece → Option (List Char)
  | [] => some []
  | .char c :: rest => (chars? rest).map (c :: ·)
  | .broken _ :: _ => none

def text? (bs : List UInt8) : Option String := (chars? (decode bs)).map String.ofList

/-- For display: each broken stretch is shown as one replacement character. -/
def Piece.shown : Piece → Char
  | .char c => c
  | .broken _ => '\uFFFD'

theorem chars?_map_char (cs : List Char) : chars? (cs.map Piece.char) = some cs := by
  induction cs with
  | nil => rfl
  | cons c rest ih => simp [chars?, ih]

end BackendLink.Utf8
