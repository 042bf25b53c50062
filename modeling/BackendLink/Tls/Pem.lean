import BackendLink.Text.Base64
import BackendLink.Text.Utf8

/-!
# PEM files

A file holds sections between a line `-----BEGIN label-----` and a line `-----END label-----`, with
Base64 in between; text outside sections is passed over. Labels are exact, and sections with labels
that are not known are passed over too.

* `bundle` reads a file: the items up to the first malformed section, and whether there is one.
* `Bundle.certificates` and `Bundle.privateKey` are the two searches in it. The first needs a file
  that is well formed throughout, the second only up to the key.
-/

namespace BackendLink.Pem

inductive Kind
  | certificate
  | publicKey
  /-- A key of RSA alone. -/
  | rsaKey
  /-- A key of any kind, with its algorithm. -/
  | privateKey
  /-- A key of an elliptic curve alone. -/
  | curveKey
  | revocationList
  | certificateRequest
  deriving DecidableEq, Repr

structure Item where
  kind : Kind
  der : List UInt8
  deriving DecidableEq, Repr

def Item.isKey (item : Item) : Bool :=
  match item.kind with
  | .rsaKey | .privateKey | .curveKey => true
  | _ => false

/-- The items that come before the first malformed section, if there is one. -/
structure Bundle where
  items : List Item
  malformed : Bool
  deriving DecidableEq, Repr

def ascii (text : String) : List UInt8 := Utf8.encodeAll text.toList

def kinds : List (List UInt8 × Kind) := [
  (ascii "CERTIFICATE", .certificate),
  (ascii "PUBLIC KEY", .publicKey),
  (ascii "RSA PRIVATE KEY", .rsaKey),
  (ascii "PRIVATE KEY", .privateKey),
  (ascii "EC PRIVATE KEY", .curveKey),
  (ascii "X509 CRL", .revocationList),
  (ascii "CERTIFICATE REQUEST", .certificateRequest)]

/-- The lines of a file: each line feed and each carriage return ends one. -/
def lines : List UInt8 → List (List UInt8)
  | [] => [[]]
  | b :: rest =>
    if b = 0x0A ∨ b = 0x0D then [] :: lines rest
    else
      match lines rest with
      | [] => [[b]]
      | line :: others => (b :: line) :: others

def dash : UInt8 := 0x2D
def space : UInt8 := 0x20

def beginMark : List UInt8 := ascii "-----BEGIN "

def endLine (label : List UInt8) : List UInt8 := ascii "-----END " ++ label ++ ascii "-----"

/-- The label that a line announces, from behind its mark: what stands before the five dashes at the
end. Blanks between and behind the dashes do not count. -/
def labelOf (rest : List UInt8) : Option (List UInt8) :=
  let closing := (rest.reverse.takeWhile fun b => b == dash || b == space).reverse
  let dashes := closing.dropWhile (· == space)
  if closing.count dash == 5 then some (rest.take (rest.length - dashes.length)) else none

/-- An open section: its label and its lines, last one first. -/
structure Open where
  label : List UInt8
  body : List (List UInt8) := []

/-- Goes through the lines of a file. A line that opens a section inside another one takes over what
was read of that. -/
def readLines : Option Open → List (List UInt8) → Bundle
  | current, [] => ⟨[], current.isSome⟩
  | current, line :: rest =>
    if beginMark.isPrefixOf line then
      match labelOf (line.drop beginMark.length) with
      | none => ⟨[], true⟩
      | some label => readLines (some ⟨label, (current.map Open.body).getD []⟩) rest
    else
      match current with
      | none => readLines none rest
      | some part =>
        if (endLine part.label).isPrefixOf line then
          match kinds.lookup part.label with
          | none => readLines none rest
          | some kind =>
            match Base64.decode part.body.reverse.flatten with
            | none => ⟨[], true⟩
            | some der =>
              let behind := readLines none rest
              ⟨⟨kind, der⟩ :: behind.items, behind.malformed⟩
        else readLines (some { part with body := line :: part.body }) rest

def bundle (file : List UInt8) : Bundle := readLines none (lines file)

namespace Bundle

/-- All certificates in order, if the whole file is well formed. -/
def certificates (b : Bundle) : Option (List (List UInt8)) :=
  if b.malformed then none
  else some ((b.items.filter fun item => item.kind == .certificate).map Item.der)

/-- How the search for a key ends. -/
inductive KeySearch
  | found (key : Item)
  | absent
  | malformed
  deriving DecidableEq, Repr

/-- The first key; what comes behind it does not matter. -/
def privateKey (b : Bundle) : KeySearch :=
  match b.items.find? Item.isKey with
  | some key => .found key
  | none => if b.malformed then .malformed else .absent

end Bundle
end BackendLink.Pem
