/-!
# SHA-512

The hash that stretches the secret of an Edwards curve key. The constants of the algorithm are the
first 64 bits behind the point of roots of primes, so they are computed and not listed.
-/

namespace BackendLink.Sha512

/-- The greatest number below `2 ^ bits` whose `k`-th power is at most `n`. -/
def root (k n : Nat) : (bits : Nat) → Nat → Nat
  | 0, r => r
  | bits + 1, r =>
    let next := r + Nat.pow 2 bits
    root k n bits (if Nat.pow next k ≤ n then next else r)

/-- The first 64 bits behind the point of the `k`-th root of `n`. -/
def fractionBits (k n : Nat) : UInt64 := UInt64.ofNat (root k (n * Nat.pow 2 (64 * k)) 70 0)

def isPrime (n : Nat) : Bool := 2 ≤ n && (List.range n).all fun d => d < 2 || n % d != 0

/-- The first eighty primes. -/
def primes : List Nat := (List.range 410).filter isPrime

def roundConstants : List UInt64 := primes.map (fractionBits 3)

def rotate (w : UInt64) (n : Nat) : UInt64 :=
  (w >>> UInt64.ofNat n) ||| (w <<< UInt64.ofNat (64 - n))

/-- The eight registers of the algorithm. -/
structure State where
  a : UInt64
  b : UInt64
  c : UInt64
  d : UInt64
  e : UInt64
  f : UInt64
  g : UInt64
  h : UInt64

def State.add (s t : State) : State :=
  ⟨s.a + t.a, s.b + t.b, s.c + t.c, s.d + t.d, s.e + t.e, s.f + t.f, s.g + t.g, s.h + t.h⟩

def State.words (s : State) : List UInt64 := [s.a, s.b, s.c, s.d, s.e, s.f, s.g, s.h]

def State.start : State :=
  let r := fractionBits 2
  ⟨r 2, r 3, r 5, r 7, r 11, r 13, r 17, r 19⟩

/-- One round, with a constant and a word of the message. -/
def round (s : State) (k w : UInt64) : State :=
  let s1 := rotate s.e 14 ^^^ rotate s.e 18 ^^^ rotate s.e 41
  let choice := (s.e &&& s.f) ^^^ (~~~s.e &&& s.g)
  let t1 := s.h + s1 + choice + k + w
  let s0 := rotate s.a 28 ^^^ rotate s.a 34 ^^^ rotate s.a 39
  let majority := (s.a &&& s.b) ^^^ (s.a &&& s.c) ^^^ (s.b &&& s.c)
  ⟨t1 + s0 + majority, s.a, s.b, s.c, s.d + t1, s.e, s.f, s.g⟩

/-- The word that follows those of a schedule. -/
def nextWord (ws : Array UInt64) : UInt64 :=
  let back (n : Nat) := ws.getD (ws.size - n) 0
  let s0 := rotate (back 15) 1 ^^^ rotate (back 15) 8 ^^^ (back 15 >>> 7)
  let s1 := rotate (back 2) 19 ^^^ rotate (back 2) 61 ^^^ (back 2 >>> 6)
  back 16 + s0 + back 7 + s1

/-- Sixteen words of a block, and sixty-four made of them. -/
def schedule (block : List UInt64) : List UInt64 :=
  ((List.range 64).foldl (fun ws _ => ws.push (nextWord ws)) block.toArray).toList

def compress (s : State) (block : List UInt64) : State :=
  s.add ((roundConstants.zip (schedule block)).foldl (fun s kw => round s kw.1 kw.2) s)

/-- Cuts a list into stretches of `n`. -/
def chunks {α : Type} (n : Nat) (xs : List α) : List (List α) :=
  if _ : n = 0 ∨ xs = [] then [] else xs.take n :: chunks n (xs.drop n)
termination_by xs.length
decreasing_by
  have : xs.length ≠ 0 := by simp_all
  simp only [List.length_drop]
  omega

def word (bytes : List UInt8) : UInt64 := bytes.foldl (fun w b => (w <<< 8) ||| b.toUInt64) 0

def wordBytes (w : UInt64) : List UInt8 :=
  (List.range 8).map fun i => (w >>> UInt64.ofNat (56 - 8 * i)).toUInt8

/-- A message with its padding: a bit, zeros, and its length in bits as sixteen bytes. -/
def padded (message : List UInt8) : List UInt8 :=
  let zeros := (111 + (128 - message.length % 128)) % 128
  message ++ 0x80 :: List.replicate (zeros + 8) 0 ++ wordBytes (UInt64.ofNat (8 * message.length))

def hash (message : List UInt8) : List UInt8 :=
  let blocks := (chunks 128 (padded message)).map fun block => (chunks 8 block).map word
  (blocks.foldl compress State.start).words.flatMap wordBytes

end BackendLink.Sha512
