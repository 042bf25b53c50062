/-!
# Unsigned numbers in texts

Ports and durations are written as decimal digits, with an optional plus sign in front and any
number of leading zeros.
-/

namespace BackendLink.Text

/-- The value of a decimal digit of ASCII. -/
def digitValue (c : Char) : Nat := c.toNat - '0'.toNat

/-- The number that a sequence of digits stands for. -/
def decimalValue (digits : List Char) : Nat :=
  digits.foldl (fun n c => n * 10 + digitValue c) 0

/-- The greatest number of 64 bits. -/
def greatest64 : Nat := 0xFFFFFFFFFFFFFFFF

/-- Reads a number of at most `limit`; anything but digits behind the sign is refused. -/
def unsigned? (limit : Nat) (text : List Char) : Option Nat :=
  let digits := match text with
    | '+' :: rest => rest
    | _ => text
  if digits.isEmpty || !digits.all Char.isDigit then none
  else if decimalValue digits ≤ limit then some (decimalValue digits)
  else none

end BackendLink.Text
