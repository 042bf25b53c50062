import BackendLink.Text.Number

/-!
# IP addresses

Both kinds of addresses in their usual notations, read from a text and written in one canonical way.

* `Ip.ofChars?` reads an address; nothing may be left over.
* `Ip.text` writes one: the longest run of zeros in a long address is left out.
-/

namespace BackendLink

inductive Ip
  /-- Four numbers below 256. -/
  | short (bytes : List Nat)
  /-- Eight numbers below 65536. -/
  | long (groups : List Nat)
  deriving DecidableEq, Repr

namespace Ip

/-! ## Reading -/

def hexDigit? (c : Char) : Option Nat :=
  if c.isDigit then some (c.toNat - '0'.toNat)
  else if 'a' ≤ c && c ≤ 'f' then some (c.toNat - 'a'.toNat + 10)
  else if 'A' ≤ c && c ≤ 'F' then some (c.toNat - 'A'.toNat + 10)
  else none

/-- One of the four numbers at the front: at most three digits, no needless zero. -/
def byte? (text : List Char) : Option (Nat × List Char) :=
  let digits := text.takeWhile Char.isDigit
  let n := Text.decimalValue digits
  if digits.isEmpty || 3 < digits.length || 255 < n then none
  else if digits.head? == some '0' && digits.length != 1 then none
  else some (n, text.drop digits.length)

/-- One of the eight numbers at the front: at most four digits. -/
def group? (text : List Char) : Option (Nat × List Char) :=
  let digits := text.takeWhile fun c => (hexDigit? c).isSome
  if digits.isEmpty || 4 < digits.length then none
  else some (digits.foldl (fun n c => n * 16 + (hexDigit? c).getD 0) 0, text.drop digits.length)

/-- What is behind a mark at the front. -/
def behind? (mark : Char) : List Char → Option (List Char)
  | [] => none
  | c :: rest => if c = mark then some rest else none

/-- Four numbers with points between them. -/
def quad? (text : List Char) : Option (List Nat × List Char) := do
  let (a, rest) ← byte? text
  let (b, rest) ← byte? (← behind? '.' rest)
  let (c, rest) ← byte? (← behind? '.' rest)
  let (d, rest) ← byte? (← behind? '.' rest)
  some ([a, b, c, d], rest)

/-- The two groups that four numbers fill. -/
def groupsOf : List Nat → List Nat
  | [a, b, c, d] => [a * 256 + b, c * 256 + d]
  | _ => []

/-- Groups at the front of a text, and whether the last two are written as four numbers. -/
structure Groups where
  values : List Nat
  closed : Bool
  rest : List Char

/-- Reads at most `room` groups; behind the first each needs a colon. Four numbers take the room of
two groups, and nothing follows them. -/
def groups (first : Bool) : (room : Nat) → List Char → Groups
  | 0, text => ⟨[], false, text⟩
  | room + 1, text =>
    match if first then some text else behind? ':' text with
    | none => ⟨[], false, text⟩
    | some start =>
      match if room = 0 then none else quad? start with
      | some (bytes, rest) => ⟨groupsOf bytes, true, rest⟩
      | none =>
        match group? start with
        | none => ⟨[], false, text⟩
        | some (value, rest) =>
          let more := groups false room rest
          { more with values := value :: more.values }

/-- Eight groups, or fewer with two colons in place of at least one. -/
def long? (text : List Char) : Option (List Nat × List Char) :=
  let head := groups true 8 text
  if head.values.length = 8 then some (head.values, head.rest)
  else if head.closed then none
  else
    match head.rest with
    | ':' :: ':' :: rest =>
      let tail := groups true (7 - head.values.length) rest
      let zeros := List.replicate (8 - head.values.length - tail.values.length) 0
      some (head.values ++ zeros ++ tail.values, tail.rest)
    | _ => none

def ofChars? (text : List Char) : Option Ip :=
  match quad? text with
  | some (bytes, []) => some (.short bytes)
  | _ =>
    match long? text with
    | some (values, []) => some (.long values)
    | _ => none

/-! ## Writing -/

def dotted (bytes : List Nat) : List Char := ['.'].intercalate (bytes.map (Nat.toDigits 10))

def coloned (values : List Nat) : List Char := [':'].intercalate (values.map (Nat.toDigits 16))

/-- The zeros at the front. -/
def zeros (values : List Nat) : Nat := (values.takeWhile (· == 0)).length

/-- Start and length of the longest run of zeros from `place` on; of several the first. -/
def longestZeros (place : Nat) : List Nat → Nat × Nat
  | [] => (0, 0)
  | value :: rest =>
    let here := zeros (value :: rest)
    let later := longestZeros (place + 1) rest
    if later.2 ≤ here then (place, here) else later

def text : Ip → String
  | short bytes => String.ofList (dotted bytes)
  | long values =>
    match values with
    | [0, 0, 0, 0, 0, 0xFFFF, a, b] =>
      String.ofList ("::ffff:".toList ++ dotted [a / 256, a % 256, b / 256, b % 256])
    | _ =>
      let (start, count) := longestZeros 0 values
      if 2 ≤ count then
        String.ofList (coloned (values.take start) ++ "::".toList ++ coloned (values.drop (start + count)))
      else String.ofList (coloned values)

end Ip
end BackendLink
