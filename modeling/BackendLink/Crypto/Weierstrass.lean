import BackendLink.Crypto.Residue

/-!
# Curves in Weierstrass form

The points of `y² = x³ + ax + b` over a prime field and the point at infinity, with their addition.
The public half of a key is the multiple of the curve's generator by the secret number.
-/

namespace BackendLink.Weierstrass
open Residue

structure Curve where
  prime : Nat
  a : Nat
  generator : Nat × Nat
  /-- How many multiples of the generator there are. -/
  order : Nat
  /-- The bytes of a coordinate. -/
  size : Nat
  objectId : List UInt8

/-- A point by its coordinates; the one at infinity has none. -/
abbrev Point := Option (Nat × Nat)

/-- The third point on a line of slope `m` through two points, mirrored. -/
def along (c : Curve) (m : Nat) (x₁ y₁ x₂ : Nat) : Point :=
  let x := sub c.prime (m * m) ((x₁ + x₂) % c.prime)
  some (x, sub c.prime (m * sub c.prime x₁ x) y₁)

def add (c : Curve) : Point → Point → Point
  | none, q => q
  | p, none => p
  | some (x₁, y₁), some (x₂, y₂) =>
    if x₁ = x₂ then
      if (y₁ + y₂) % c.prime = 0 then none
      else along c (divide c.prime (3 * x₁ * x₁ + c.a) (2 * y₁)) x₁ y₁ x₂
    else along c (divide c.prime (sub c.prime y₂ y₁) (sub c.prime x₂ x₁)) x₁ y₁ x₂

/-- The sum of `n` times the same point. -/
def multiple (c : Curve) (n : Nat) (p : Point) : Point :=
  if _ : n = 0 then none
  else
    let half := multiple c (n / 2) (add c p p)
    if n % 2 = 1 then add c p half else half
decreasing_by omega

def publicPoint (c : Curve) (secret : Nat) : Point := multiple c secret (some c.generator)

/-! ## Standard curves -/

def p256 : Curve where
  prime := Nat.pow 2 256 - Nat.pow 2 224 + Nat.pow 2 192 + Nat.pow 2 96 - 1
  a := Nat.pow 2 256 - Nat.pow 2 224 + Nat.pow 2 192 + Nat.pow 2 96 - 4
  generator :=
    (0x6b17d1f2e12c4247f8bce6e563a440f277037d812deb33a0f4a13945d898c296,
      0x4fe342e2fe1a7f9b8ee7eb4a7c0f9e162bce33576b315ececbb6406837bf51f5)
  order := 0xffffffff00000000ffffffffffffffffbce6faada7179e84f3b9cac2fc632551
  size := 32
  objectId := [0x2A, 0x86, 0x48, 0xCE, 0x3D, 0x03, 0x01, 0x07]

def p384 : Curve where
  prime := Nat.pow 2 384 - Nat.pow 2 128 - Nat.pow 2 96 + Nat.pow 2 32 - 1
  a := Nat.pow 2 384 - Nat.pow 2 128 - Nat.pow 2 96 + Nat.pow 2 32 - 4
  generator :=
    (0xaa87ca22be8b05378eb1c71ef320ad746e1d3b628ba79b9859f741e082542a385502f25dbf55296c3a545e3872760ab7,
      0x3617de4a96262c6f5d9e98bf9292dc29f8f41dbd289a147ce9da3113b5f0b8c00a60b1ce1d7e819d7a431d7c90ea0e5f)
  order :=
    0xffffffffffffffffffffffffffffffffffffffffffffffffc7634d81f4372ddf581a0db248b0a77aecec196accc52973
  size := 48
  objectId := [0x2B, 0x81, 0x04, 0x00, 0x22]

def p521 : Curve where
  prime := Nat.pow 2 521 - 1
  a := Nat.pow 2 521 - 4
  generator :=
    (0x00c6858e06b70404e9cd9e3ecb662395b4429c648139053fb521f828af606b4d3dbaa14b5e77efe75928fe1dc127a2ffa8de3348b3c1856a429bf97e7e31c2e5bd66,
      0x011839296a789a3bc0045c8a5fb42c7d1bd998f54449579b446817afbd17273e662c97ee72995ef42640c550b9013fad0761353c7086a272c24088be94769fd16650)
  order :=
    Nat.pow 2 521 - Nat.pow 2 260 + 0xa51868783bf2f966b7fcc0148f709a5d03bb5c9b8899c47aebb6fb71e91386409
  size := 66
  objectId := [0x2B, 0x81, 0x04, 0x00, 0x23]

def curves : List Curve := [p256, p384, p521]

end BackendLink.Weierstrass
