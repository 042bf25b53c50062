import BackendLink.Tls.Der

/-!
# Certificates

As much of an X.509 certificate as is looked at before a handshake: whether it is well formed, whose
it is, and which key it certifies. Nothing is said about who signed it.

* `Certificate.parse?` reads a certificate of version 3.
* `Certificate.anchor?` reads one that is trusted as it is; it may also be of version 1.
-/

namespace BackendLink

structure Certificate where
  subject : List UInt8
  /-- The key and its algorithm, without the tag around them. -/
  publicKey : List UInt8
  deriving DecidableEq, Repr

namespace Certificate
open Der

/-- Certificates from this length on are not read. -/
def lengthLimit : Nat := 0xFFFF

/-- The signed part of a certificate and the algorithm that it is signed with. -/
def signedPart? (der : List UInt8) : Option (List UInt8 × List UInt8) := do
  let content ← only? Tag.sequence der
  guard (content.length < lengthLimit)
  let (signed, rest) ← element? Tag.sequence content
  let (algorithm, rest) ← element? Tag.sequence rest
  let signature ← only? Tag.bitString rest
  discard (wholeBits? signature)
  some (signed, algorithm)

/-- Number, algorithm, issuer, validity, subject and key, from the front of the signed part behind
the version, and what is behind them. -/
def fields? (signed : List UInt8) : Option (Certificate × List UInt8 × List UInt8) := do
  let (_, rest) ← element? Tag.integer signed
  let (algorithm, rest) ← element? Tag.sequence rest
  let (_, rest) ← element? Tag.sequence rest
  let (_, rest) ← element? Tag.sequence rest
  let (subject, rest) ← element? Tag.sequence rest
  let (publicKey, rest) ← element? Tag.sequence rest
  some (⟨subject, publicKey⟩, algorithm, rest)

/-- The extensions that are understood, by the last part of their id. -/
inductive Extension
  | keyUsage
  | alternativeName
  | basicConstraints
  | nameConstraints
  | revocationPoints
  | extendedKeyUsage
  deriving DecidableEq, Repr

def extension? (objectId : List UInt8) : Option Extension :=
  match objectId with
  | [0x55, 0x1D, 15] => some .keyUsage
  | [0x55, 0x1D, 17] => some .alternativeName
  | [0x55, 0x1D, 19] => some .basicConstraints
  | [0x55, 0x1D, 30] => some .nameConstraints
  | [0x55, 0x1D, 31] => some .revocationPoints
  | [0x55, 0x1D, 37] => some .extendedKeyUsage
  | _ => none

/-- The mark of a critical extension; without it an extension is not critical. -/
def critical? (content : List UInt8) : Option (Bool × List UInt8) :=
  if content.head? = some Tag.boolean then
    match element? Tag.boolean content with
    | some ([0xFF], rest) => some (true, rest)
    | some ([0x00], rest) => some (false, rest)
    | _ => none
  else some (false, content)

/-- One extension behind those that were `seen`. One that is understood must not be repeated and
holds a sequence, only key usage holds bits; of the others none may be critical. -/
def checkExtension (seen : List Extension) (content : List UInt8) : Option (List Extension) := do
  let (objectId, behind) ← element? Tag.objectId content
  let (critical, behind) ← critical? behind
  let value ← only? Tag.octetString behind
  match extension? objectId with
  | none => if critical then none else some seen
  | some extension =>
    guard (extension ∉ seen)
    guard (extension = .keyUsage ∨ (only? Tag.sequence value).isSome)
    some (extension :: seen)

/-- The end of the signed part: nothing, or extensions. -/
def checkEnd (rest : List UInt8) : Option Unit :=
  if rest.isEmpty then some ()
  else do
    let tagged ← only? (Tag.context 3) rest
    let list ← only? Tag.sequence tagged
    let extensions ← elements? Tag.sequence list
    discard (extensions.foldlM checkExtension [])

/-- A certificate of version 3 names the algorithm of its signature twice, in the same words. -/
def parse? (der : List UInt8) : Option Certificate := do
  let (signed, signedWith) ← signedPart? der
  let (version, rest) ← element? (Tag.context 0) signed
  guard (version = [Tag.integer, 1, 2])
  let (certificate, algorithm, rest) ← fields? rest
  guard (algorithm = signedWith)
  checkEnd rest
  some certificate

/-- A certificate of version 1 names no version and has no extensions. -/
def parseOld? (der : List UInt8) : Option Certificate := do
  let (signed, _) ← signedPart? der
  let (certificate, _, rest) ← fields? signed
  guard rest.isEmpty
  some certificate

def anchor? (der : List UInt8) : Option Certificate := (parse? der).or (parseOld? der)

end Certificate
end BackendLink
