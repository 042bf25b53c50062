import BackendLink.Number.Binary64
import BackendLink.Text.Number
import BackendLink.Yaml.Character

/-!
# What plain scalars mean

A plain scalar is a null, a boolean, a number or else a text. Decimal digits with a needless zero in
front are a text.
-/

namespace BackendLink.Yaml

def isNull (text : List Char) : Bool :=
  text == ['~'] || text == "null".toList || text == "Null".toList || text == "NULL".toList

def bool? (text : List Char) : Option Bool :=
  if text == "true".toList || text == "True".toList || text == "TRUE".toList then some true
  else if text == "false".toList || text == "False".toList || text == "FALSE".toList then some false
  else none

/-- Digits with a needless zero in front, behind an optional sign. -/
def isPaddedNumber (text : List Char) : Bool :=
  let digits := match text with
    | '+' :: rest | '-' :: rest => rest
    | _ => text
  match digits with
  | '0' :: d :: rest => (d :: rest).all Char.isDigit
  | _ => false

/-- The number that digits stand for in a base of at most sixteen. -/
def digits? (base : Nat) (text : List Char) : Option Nat :=
  if text.isEmpty then none
  else text.foldlM (fun n c =>
    match hexValue? c with
    | some d => if d < base then some (n * base + d) else none
    | none => none) 0

/-- The base that the front of a number announces, and what is behind. -/
def announcedBase : List Char → Option (Nat × List Char)
  | '0' :: 'x' :: rest => some (16, rest)
  | '0' :: 'o' :: rest => some (8, rest)
  | '0' :: 'b' :: rest => some (2, rest)
  | _ => none

/-- A number without a minus sign, of at most `limit`. -/
def unsigned? (limit : Nat) (text : List Char) : Option Nat :=
  let digits := match text with
    | '+' :: rest => rest
    | _ => text
  let number := match announcedBase digits with
    | some (base, rest) => digits? base rest
    | none => if isPaddedNumber text then none else digits? 10 digits
  number.filter (· ≤ limit)

/-- A number with a minus sign, whose distance from zero is at most `limit`. -/
def negative? (limit : Nat) (text : List Char) : Option Nat :=
  match text with
  | '-' :: digits =>
    let number := match announcedBase digits with
      | some (base, rest) => digits? base rest
      | none => if isPaddedNumber text then none else digits? 10 digits
    number.filter (· ≤ limit)
  | _ => none

/-- Digits with an optional point, and the place of the last one. -/
def decimal? (text : List Char) : Option (List Char × Int) :=
  let whole := text.takeWhile Char.isDigit
  match text.drop whole.length with
  | [] => if whole.isEmpty then none else some (whole, 0)
  | '.' :: rest =>
    if rest.all Char.isDigit && !(whole.isEmpty && rest.isEmpty) then
      some (whole ++ rest, -(rest.length : Int))
    else none
  | _ => none

/-- An exponent: an optional sign and digits. -/
def exponent? (text : List Char) : Option Int :=
  let digits := match text with
    | '+' :: rest | '-' :: rest => rest
    | _ => text
  if digits.isEmpty || !digits.all Char.isDigit then none
  else
    let n : Int := Text.decimalValue digits
    some (if text.head? = some '-' then -n else n)

/-- The double nearest to `digits · 10 ^ place`. What lies far outside the range of doubles is
settled by its size alone. -/
def nearestDecimal (negative : Bool) (digits : List Char) (place : Int) : Option Number.Binary64 :=
  let n := Text.decimalValue digits
  let size : Int := (Nat.toDigits 10 n).length + place
  if n == 0 || size < -400 then Number.Binary64.nearest negative 0 1
  else if 400 < size then none
  else
    let (num, den) := Number.Binary64.power 10 place
    Number.Binary64.nearest negative (n * num) den

/-- A finite number in decimal notation. -/
def finite? (text : List Char) : Option Number.Binary64 :=
  let negative := text.head? == some '-'
  let unsigned := if negative then text.drop 1 else text
  let mantissa := unsigned.takeWhile fun c => c != 'e' && c != 'E'
  let behind := unsigned.drop mantissa.length
  match decimal? mantissa with
  | none => none
  | some (digits, place) =>
    match behind with
    | [] => nearestDecimal negative digits place
    | _ :: e => (exponent? e).bind fun x => nearestDecimal negative digits (place + x)

inductive FloatValue
  | finite (value : Number.Binary64)
  | infinite (negative : Bool)
  | notANumber
  deriving DecidableEq, Repr

def FloatValue.text : FloatValue → String
  | finite value => value.text
  | infinite negative => if negative then "-inf" else "inf"
  | notANumber => "NaN"

def isInfinity (text : List Char) : Bool :=
  text == ".inf".toList || text == ".Inf".toList || text == ".INF".toList

def float? (text : List Char) : Option FloatValue :=
  let (plus, positive) := match text with
    | '+' :: rest => (true, rest)
    | _ => (false, text)
  if plus && (positive.head? == some '+' || positive.head? == some '-') then none
  else if isInfinity positive then some (.infinite false)
  else if text.head? == some '-' && isInfinity (text.drop 1) then some (.infinite true)
  else if text == ".nan".toList || text == ".NaN".toList || text == ".NAN".toList then
    some .notANumber
  else (finite? positive).map .finite

/-- What a plain scalar means. -/
inductive Meaning
  | null
  | boolean (value : Bool)
  | integer (value : Int)
  | float (value : FloatValue)
  | text
  deriving DecidableEq, Repr

/-- The greatest number of 128 bits, beyond which digits are not read as an integer. -/
def greatest128 : Nat := 0xFFFFFFFFFFFFFFFFFFFFFFFFFFFFFFFF

def integer? (text : List Char) : Option Int :=
  match unsigned? greatest128 text with
  | some n => some n
  | none => (negative? (greatest128 / 2 + 1) text).map fun n => -(n : Int)

def meaning (text : List Char) : Meaning :=
  if text.isEmpty || isNull text then .null
  else
    match bool? text with
    | some b => .boolean b
    | none =>
      match integer? text with
      | some i => .integer i
      | none =>
        if isPaddedNumber text then .text
        else
          match float? text with
          | some f => .float f
          | none => .text

end BackendLink.Yaml
