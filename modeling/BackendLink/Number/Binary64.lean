/-!
# Double-precision numbers, exactly

A finite number of double precision is a sign and `significand · 2 ^ exponent` with a significand
below 2^53 and an exponent between -1074 and 971. All arithmetic here is on natural numbers.

* `nearest`: the number next to a fraction, an even significand where two are equally near.
* `shortest`: the fewest decimal digits that `nearest` reads back as the same number.
-/

namespace BackendLink.Number

structure Binary64 where
  negative : Bool
  significand : Nat
  exponent : Int
  deriving DecidableEq, Repr

namespace Binary64

def maxExponent : Int := 971
def minExponent : Int := -1074

/-- The power of a base as a fraction. -/
def power (base : Nat) (x : Int) : Nat × Nat :=
  if 0 ≤ x then (Nat.pow base x.toNat, 1) else (1, Nat.pow base (-x).toNat)

/-- The first number that is too large for a significand. -/
def significandLimit : Nat := 0x20000000000000

/-- `num / den · 2 ^ (-e)` as a fraction. -/
def scaled (num den : Nat) (e : Int) : Nat × Nat :=
  let (n, d) := power 2 e
  (num * d, den * n)

/-- The nearest integer to a fraction, the even one of two. -/
def roundEven (num den : Nat) : Nat :=
  let q := num / den
  let r := num % den
  if 2 * r < den || (2 * r == den && q % 2 == 0) then q else q + 1

/-- The smallest exponent from `e` on for which the significand stays below 2^53. -/
def fit (num den : Nat) : Nat → Int → Int
  | 0, e => e
  | tries + 1, e =>
    let (n, d) := scaled num den e
    if n / d < significandLimit then e else fit num den tries (e + 1)

/-- The number nearest to `num / den`; none is near what is too large. -/
def nearest (negative : Bool) (num den : Nat) : Option Binary64 :=
  if num == 0 then some ⟨negative, 0, minExponent⟩
  else
    let guess : Int := (num.log2 : Int) - (den.log2 : Int) - 54
    let e := fit num den 4 (max guess minExponent)
    let (n, d) := scaled num den e
    let m := roundEven n d
    let (m, e) := if m == significandLimit then (significandLimit / 2, e + 1) else (m, e)
    if maxExponent < e then none else some ⟨negative, m, e⟩

/-- How a candidate of `count` digits on the grid of `10 ^ place` compares with the numbers that
read back as `x`: the ends of their interval belong to it where the significand is even. -/
def readsBack (x : Binary64) (candidate : Nat) (place : Int) : Bool :=
  -- four times the significand, so that both ends of the interval are whole
  let low := if x.significand == significandLimit / 2 && x.exponent != minExponent
    then 4 * x.significand - 1 else 4 * x.significand - 2
  let high := 4 * x.significand + 2
  let (tn, td) := power 10 place
  let (bn, bd) := power 2 x.exponent
  let here := 4 * candidate * tn * bd
  let lowEnd := low * bn * td
  let highEnd := high * bn * td
  if x.significand % 2 == 0 then lowEnd ≤ here && here ≤ highEnd
  else lowEnd < here && here < highEnd

/-- The digits of `x` on the grid of `10 ^ place`, rounded down and what is left of a step. -/
def onGrid (x : Binary64) (place : Int) : Nat × Nat × Nat :=
  let (tn, td) := power 10 place
  let (bn, bd) := power 2 x.exponent
  let num := x.significand * bn * td
  let den := tn * bd
  (num / den, num % den, den)

/-- The place of the first digit of a number other than zero, from a guess at or above it. -/
def leadingPlace (x : Binary64) : Nat → Int → Int
  | 0, p => p
  | tries + 1, p => if (onGrid x p).1 == 0 then leadingPlace x tries (p - 1) else p

/-- The shortest digits from `place` down that read back, and their place. -/
def shortestFrom (x : Binary64) : Nat → Int → Nat × Int
  | 0, place => ((onGrid x place).1, place)
  | more + 1, place =>
    let (down, r, den) := onGrid x place
    let up := down + 1
    let downFits := readsBack x down place
    let upFits := readsBack x up place
    if downFits && (!upFits || 2 * r ≤ den) then (down, place)
    else if upFits then (up, place)
    else shortestFrom x more (place - 1)

/-- The shortest digits that read back as `x`, as a number and the place of its last digit. The
search starts one place above the first digit, where only a rounding up can read back. -/
def shortest (x : Binary64) : Nat × Int :=
  if x.significand == 0 then (0, 0)
  else
    -- three decimal places stand for nearly ten binary ones
    let guess := ((x.significand.log2 : Int) + x.exponent) * 30103 / 100000 + 1
    shortestFrom x 18 (leadingPlace x 4 guess + 1)

/-- Positional notation, with at least one digit on either side of the point. -/
def text (x : Binary64) : String :=
  let (digits, place) := x.shortest
  let ds := Nat.toDigits 10 digits
  let body :=
    if 0 ≤ place then
      (if digits == 0 then ['0'] else ds ++ List.replicate place.toNat '0') ++ ['.', '0']
    else
      let behind := (-place).toNat
      if behind < ds.length then ds.take (ds.length - behind) ++ ['.'] ++ ds.drop (ds.length - behind)
      else ['0', '.'] ++ List.replicate (behind - ds.length) '0' ++ ds
  String.ofList (if x.negative then '-' :: body else body)

end Binary64
end BackendLink.Number
