import BackendLink.Crypto.Edwards
import BackendLink.Crypto.Weierstrass
import BackendLink.Tls.Der
import BackendLink.Tls.Pem

/-!
# Private keys

Keys of RSA, of the standard curves and of the Edwards curve. A key is accepted if it is consistent
in itself, and what is needed of it here is its public half, in the words a certificate has for it.

* `PrivateKey.publicKey?` is that half, for keys that are accepted.
-/

namespace BackendLink.PrivateKey
open Der

/-- An algorithm by its id and parameters, and the bits of a public key. -/
def publicKeyInfo (algorithm bits : List UInt8) : List UInt8 :=
  element Tag.sequence algorithm ++ wholeBits bits

/-! ## RSA -/

def rsaId : List UInt8 := [0x2A, 0x86, 0x48, 0x86, 0xF7, 0x0D, 0x01, 0x01, 0x01]

structure RsaKey where
  modulus : Nat
  publicExponent : Nat
  secretExponent : Nat
  p : Nat
  q : Nat
  exponentP : Nat
  exponentQ : Nat
  coefficient : Nat

/-- `b` is below `m` and the inverse of `a` modulo `m`. -/
def isInverse (m a b : Nat) : Bool := b < m && a * b % m == 1 % m

namespace RsaKey

/-- The numbers belong together, and the modulus has a size that is in use. -/
def isConsistent (k : RsaKey) : Bool :=
  let bits := k.modulus.log2 + 1
  let odd (n : Nat) : Bool := n % 2 == 1
  2048 ≤ bits && bits ≤ 8192 && odd k.modulus &&
    odd k.publicExponent && 3 ≤ k.publicExponent && k.publicExponent < 0x200000000 &&
    k.secretExponent < k.modulus && k.p < k.modulus && k.q < k.modulus &&
    k.p * k.q == k.modulus &&
    k.secretExponent * k.publicExponent % (k.p - 1) == 1 &&
    k.secretExponent * k.publicExponent % (k.q - 1) == 1 &&
    isInverse (k.p - 1) k.publicExponent k.exponentP &&
    isInverse (k.q - 1) k.publicExponent k.exponentQ &&
    isInverse k.p k.q k.coefficient

/-- The numbers of a key of two primes, which are all there is in it. -/
def ofContent? (content : List UInt8) : Option RsaKey := do
  let (version, rest) ← naturalElement? content
  guard (version = 0)
  let (modulus, rest) ← naturalElement? rest
  let (publicExponent, rest) ← naturalElement? rest
  let (secretExponent, rest) ← naturalElement? rest
  let (p, rest) ← naturalElement? rest
  let (q, rest) ← naturalElement? rest
  let (exponentP, rest) ← naturalElement? rest
  let (exponentQ, rest) ← naturalElement? rest
  let (coefficient, rest) ← naturalElement? rest
  guard rest.isEmpty
  let key : RsaKey :=
    { modulus, publicExponent, secretExponent, p, q, exponentP, exponentQ, coefficient }
  guard key.isConsistent
  some key

def publicKey (k : RsaKey) : List UInt8 :=
  publicKeyInfo (element Tag.objectId rsaId ++ element Tag.null [])
    (element Tag.sequence (natural k.modulus ++ natural k.publicExponent))

end RsaKey

/-- A key of RSA alone; what is behind it does not matter. -/
def rsaPublicKey? (der : List UInt8) : Option (List UInt8) := do
  let (content, _) ← element? Tag.sequence der
  some (← RsaKey.ofContent? content).publicKey

/-! ## Curves in Weierstrass form -/

open Weierstrass (Curve)

def curveKeyId : List UInt8 := [0x2A, 0x86, 0x48, 0xCE, 0x3D, 0x02, 0x01]

def curveOf? (objectId : List UInt8) : Option Curve :=
  Weierstrass.curves.find? fun c => c.objectId == objectId

/-- A number in a given count of bytes, the highest first. -/
def fixedBytes (size n : Nat) : List UInt8 := (Edwards.littleBytes size n).reverse

def uncompressed (c : Curve) (point : Nat × Nat) : List UInt8 :=
  0x04 :: fixedBytes c.size point.1 ++ fixedBytes c.size point.2

/-- One coordinate, and the parity of the other. -/
def compressed (c : Curve) (point : Nat × Nat) : List UInt8 :=
  (if point.2 % 2 = 0 then 0x02 else 0x03) :: fixedBytes c.size point.1

/-- The curve that a key names, if it names one, must be the one that is expected. -/
def namedCurve (c : Curve) (rest : List UInt8) : Option (List UInt8) :=
  if rest.head? = some (Tag.context 0) then do
    let (parameters, rest) ← element? (Tag.context 0) rest
    guard ((← only? Tag.objectId parameters) = c.objectId)
    some rest
  else some rest

/-- The public half that a key states, if it states one, must be its own. -/
def statedHalf (c : Curve) (point : Nat × Nat) (rest : List UInt8) : Option Unit :=
  if rest.isEmpty then some ()
  else do
    let stated ← only? (Tag.context 1) rest
    let bits ← wholeBits? (← only? Tag.bitString stated)
    guard (bits = uncompressed c point ∨ bits = compressed c point)

/-- The content of a key of a curve: a secret number, the curve and the public half. -/
def curvePublicKeyOf (c : Curve) (content : List UInt8) : Option (List UInt8) := do
  let (version, rest) ← naturalElement? content
  guard (version = 1)
  let (bytes, rest) ← element? Tag.octetString rest
  let secret := Wire.bigEndian bytes
  guard (0 < secret ∧ secret < c.order)
  let rest ← namedCurve c rest
  let point ← Weierstrass.publicPoint c secret
  statedHalf c point rest
  some (publicKeyInfo (element Tag.objectId curveKeyId ++ element Tag.objectId c.objectId)
    (uncompressed c point))

/-- A key of a curve alone. Where it does not name its curve it is one of the first that it fits. -/
def curvePublicKey? (der : List UInt8) : Option (List UInt8) := do
  let (content, _) ← element? Tag.sequence der
  Weierstrass.curves.findSome? fun c => curvePublicKeyOf c content

/-! ## The Edwards curve -/

def edwardsId : List UInt8 := [0x2B, 0x65, 0x70]

/-- A secret of 32 bytes. The public half, where it is stated, must be its own. -/
def edwardsPublicKeyOf (key : List UInt8) (stated : Option (List UInt8)) : Option (List UInt8) := do
  let secret ← only? Tag.octetString key
  guard (secret.length = 32)
  let half := Edwards.publicKey secret
  guard (stated.all fun bits => bits == 0 :: half)
  some (publicKeyInfo (element Tag.objectId edwardsId) half)

/-! ## Keys with their algorithm -/

structure NamedKey where
  /-- The algorithm. -/
  objectId : List UInt8
  parameters : List UInt8
  /-- The key itself, in the form that the algorithm has for it. -/
  key : List UInt8
  /-- The public half, where it is stated beside the key. -/
  stated : Option (List UInt8)

namespace NamedKey

/-- The tag of a stated public half. -/
def statedTag : UInt8 := 0x81

/-- Version, algorithm and key, attributes that do not matter, and from the second version on perhaps
the public half. -/
def ofDer? (der : List UInt8) : Option NamedKey := do
  let (content, _) ← element? Tag.sequence der
  let (version, rest) ← naturalElement? content
  guard (version ≤ 1)
  let (algorithm, rest) ← element? Tag.sequence rest
  let (objectId, parameters) ← element? Tag.objectId algorithm
  let (key, rest) ← element? Tag.octetString rest
  let rest ←
    if rest.head? = some (Tag.context 0) then (element? (Tag.context 0) rest).map Prod.snd
    else some rest
  if version = 1 ∧ rest.head? = some statedTag then
    (element? statedTag rest).map fun (bits, _) => ⟨objectId, parameters, key, some bits⟩
  else some ⟨objectId, parameters, key, none⟩

def rsaPublicKey? (k : NamedKey) : Option (List UInt8) := do
  guard (k.objectId = rsaId ∧ k.stated = none ∧ k.parameters = element Tag.null [])
  some (← RsaKey.ofContent? (← only? Tag.sequence k.key)).publicKey

def curvePublicKey? (k : NamedKey) : Option (List UInt8) := do
  guard (k.objectId = curveKeyId ∧ k.stated = none)
  curvePublicKeyOf (← curveOf? (← only? Tag.objectId k.parameters)) (← only? Tag.sequence k.key)

def edwardsPublicKey? (k : NamedKey) : Option (List UInt8) := do
  guard (k.objectId = edwardsId ∧ k.parameters = [])
  edwardsPublicKeyOf k.key k.stated

end NamedKey

/-- The public half of a key that is accepted. Under the label of curve keys a key may also be
written with its algorithm, as long as that is one of the curves. -/
def publicKey? (item : Pem.Item) : Option (List UInt8) :=
  match item.kind with
  | .rsaKey => rsaPublicKey? item.der
  | .curveKey => ((NamedKey.ofDer? item.der).bind NamedKey.curvePublicKey?).or (curvePublicKey? item.der)
  | .privateKey => do
    let named ← NamedKey.ofDer? item.der
    (named.rsaPublicKey?.or named.curvePublicKey?).or named.edwardsPublicKey?
  | _ => none

end BackendLink.PrivateKey
