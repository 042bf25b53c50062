/-!
# Base64

Three bytes as four letters of an alphabet of sixty-four. Blanks may stand anywhere and padding may
be missing, but a letter that stands alone in its group holds no byte.

* `decode` reads a text; `bytes?` puts the digits of its letters together.
-/

namespace BackendLink.Base64

/-- What a byte stands for: a digit of six bits, a blank, or padding. -/
inductive Symbol
  | digit (value : Nat)
  | blank
  | padding
  deriving DecidableEq, Repr

def symbol? (b : UInt8) : Option Symbol :=
  if 0x41 ≤ b && b ≤ 0x5A then some (.digit (b.toNat - 0x41))
  else if 0x61 ≤ b && b ≤ 0x7A then some (.digit (b.toNat - 0x61 + 26))
  else if 0x30 ≤ b && b ≤ 0x39 then some (.digit (b.toNat - 0x30 + 52))
  else if b == 0x2B then some (.digit 62)
  else if b == 0x2F then some (.digit 63)
  else if b == 0x3D then some .padding
  else if b == 0x20 || b == 0x09 || b == 0x0A || b == 0x0D then some .blank
  else none

def Symbol.digit? : Symbol → Option Nat
  | digit value => some value
  | blank | padding => none

/-- Padding is missing, or it completes the last group of four. -/
def isComplete (digits padding : Nat) : Bool :=
  padding == 0 || (padding ≤ 2 && (digits + padding) % 4 == 0)

/-- The digits of a text without blanks; behind padding there are none. -/
def digits? (symbols : List Symbol) : Option (List Nat) :=
  let digits := (symbols.takeWhile fun s => s.digit?.isSome).filterMap Symbol.digit?
  let behind := symbols.drop digits.length
  if behind.all (· == .padding) && isComplete digits.length behind.length then some digits else none

/-- The bytes that digits hold, four digits to three bytes. -/
def bytes? : List Nat → Option (List UInt8)
  | [] => some []
  | [_] => none
  | [a, b] => some [UInt8.ofNat (a * 4 + b / 16)]
  | [a, b, c] => some [UInt8.ofNat (a * 4 + b / 16), UInt8.ofNat (b * 16 + c / 4)]
  | a :: b :: c :: d :: rest =>
    (bytes? rest).map fun more =>
      UInt8.ofNat (a * 4 + b / 16) :: UInt8.ofNat (b * 16 + c / 4) :: UInt8.ofNat (c * 64 + d) :: more

def decode (text : List UInt8) : Option (List UInt8) := do
  let symbols ← text.mapM symbol?
  bytes? (← digits? (symbols.filter (· != .blank)))

end BackendLink.Base64
