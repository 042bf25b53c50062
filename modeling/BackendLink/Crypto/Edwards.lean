import BackendLink.Crypto.Residue
import BackendLink.Crypto.Sha512

/-!
# Keys on the Edwards curve

The curve `-x² + y² = 1 + d x² y²` over the field of `2 ^ 255 - 19` elements. The public half of a
key is a multiple of the base point by a number drawn from a hash of the secret.
-/

namespace BackendLink.Edwards
open Residue

def prime : Nat := Nat.pow 2 255 - 19

def d : Nat := prime - divide prime 121665 121666

abbrev Point := Nat × Nat

def base : Point :=
  (0x216936d3cd6e53fec0a4e231fdd6dc5c692cc7609525a7b2c9562d608f25d51a, divide prime 4 5)

/-- The sum of two points; it has no exceptions, for `d` is no square. -/
def add (p q : Point) : Point :=
  let (x₁, y₁) := p
  let (x₂, y₂) := q
  let k := d * (x₁ * x₂ % prime) % prime * (y₁ * y₂ % prime) % prime
  (divide prime (x₁ * y₂ + x₂ * y₁) (1 + k), divide prime (y₁ * y₂ + x₁ * x₂) (sub prime 1 k))

def multiple (n : Nat) (p : Point) : Point :=
  if _ : n = 0 then (0, 1)
  else
    let half := multiple (n / 2) (add p p)
    if n % 2 = 1 then add p half else half
decreasing_by omega

/-- The number that bytes stand for, the lowest first. -/
def littleEndian (bytes : List UInt8) : Nat := bytes.foldr (fun b n => b.toNat + 256 * n) 0

/-- The lowest `size` bytes of a number, the lowest first. -/
def littleBytes : (size : Nat) → Nat → List UInt8
  | 0, _ => []
  | size + 1, n => UInt8.ofNat n :: littleBytes size (n / 256)

/-- The number that a secret stands for: of the first half of its hash, a multiple of eight with the
highest bit but one set. -/
def scalar (secret : List UInt8) : Nat :=
  let n := littleEndian ((Sha512.hash secret).take 32)
  Nat.pow 2 254 + n % Nat.pow 2 254 / 8 * 8

/-- A point as its second coordinate, with the parity of the first as the highest bit. -/
def pointBytes (p : Point) : List UInt8 := littleBytes 32 (p.2 + p.1 % 2 * Nat.pow 2 255)

def publicKey (secret : List UInt8) : List UInt8 := pointBytes (multiple (scalar secret) base)

end BackendLink.Edwards
