import BackendLink.Text.Shown
import BackendLink.Text.Utf8

/-!
# Quoted texts

How an error message quotes a text that it did not write itself: between double quotes, with the
usual short escapes and every other character without a glyph by its number in braces. Bytes that
are no text are written as two upper-case digits each.
-/

namespace BackendLink.Text

def hexDigit (n : Nat) : Char := (Nat.digitChar n)

/-- Lower-case hexadecimal, without leading zeros. -/
def hexNumber (n : Nat) : List Char := Nat.toDigits 16 n

def quotedChar (c : Char) : List Char :=
  match c with
  | '\x00' => ['\\', '0']
  | '\t' => ['\\', 't']
  | '\r' => ['\\', 'r']
  | '\n' => ['\\', 'n']
  | '"' => ['\\', '"']
  | '\\' => ['\\', '\\']
  | c => if isShown c then [c] else ['\\', 'u', '\x7b'] ++ hexNumber c.toNat ++ ['\x7d']

def quotedByte (b : UInt8) : List Char :=
  ['\\', 'x', (hexDigit (b.toNat / 16)).toUpper, (hexDigit (b.toNat % 16)).toUpper]

def quotedPiece : Utf8.Piece → List Char
  | .char c => quotedChar c
  | .broken bs => bs.flatMap quotedByte

def quote (s : String) : String :=
  String.ofList (['"'] ++ s.toList.flatMap quotedChar ++ ['"'])

end BackendLink.Text
