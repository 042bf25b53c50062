import BackendLink.Wire.Word

/-!
# DER

Values as a tag, a length and a content. Lengths take the fewest bytes that hold them, and tags are
single bytes.

* `element?` reads one value and what is behind it, `elements?` a row of values, `element` writes one.
-/

namespace BackendLink.Der

namespace Tag

def boolean : UInt8 := 0x01
def integer : UInt8 := 0x02
def bitString : UInt8 := 0x03
def octetString : UInt8 := 0x04
def null : UInt8 := 0x05
def objectId : UInt8 := 0x06
def sequence : UInt8 := 0x30

/-- A value of the context with a number, made of values. -/
def context (number : UInt8) : UInt8 := 0xA0 + number

end Tag

/-- The length at the front of `bytes`, and what is behind it. -/
def length? (bytes : List UInt8) : Option (Nat × List UInt8) :=
  match bytes with
  | [] => none
  | b :: rest =>
    if b < 0x80 then some (b.toNat, rest)
    else
      let count := b.toNat - 0x80
      let length := Wire.bigEndian (rest.take count)
      if count == 0 || 4 < count || rest.length < count then none
      else if length < 0x80 || length < Nat.pow 256 (count - 1) then none
      else some (length, rest.drop count)

theorem length_content_le {bytes content : List UInt8} {length : Nat}
    (read : length? bytes = some (length, content)) : content.length ≤ bytes.length := by
  unfold length? at read
  split at read
  next => contradiction
  next b rest =>
    split at read
    next =>
      obtain ⟨_, rfl⟩ := Prod.mk.inj (Option.some.inj read)
      exact Nat.le_succ _
    next =>
      dsimp only at read
      split at read
      next => cases read
      next =>
        split at read
        next => cases read
        next =>
          obtain ⟨_, rfl⟩ := Prod.mk.inj (Option.some.inj read)
          rw [List.length_drop]
          exact Nat.le_succ_of_le (Nat.sub_le ..)

/-- The content of a value with this tag, and what is behind it. -/
def element? (tag : UInt8) (bytes : List UInt8) : Option (List UInt8 × List UInt8) :=
  match bytes with
  | [] => none
  | b :: rest =>
    if b != tag then none
    else
      match length? rest with
      | none => none
      | some (length, content) =>
        if content.length < length then none else some (content.take length, content.drop length)

/-- A value with this tag that is all there is. -/
def only? (tag : UInt8) (bytes : List UInt8) : Option (List UInt8) :=
  match element? tag bytes with
  | some (content, []) => some content
  | _ => none

theorem length_rest_lt {tag : UInt8} {bytes content rest : List UInt8}
    (read : element? tag bytes = some (content, rest)) : rest.length < bytes.length := by
  unfold element? at read
  split at read
  next => contradiction
  next b behind =>
    split at read
    next => contradiction
    next =>
      split at read
      next => contradiction
      next length value found =>
        split at read
        next => contradiction
        next =>
          obtain ⟨_, rfl⟩ := Prod.mk.inj (Option.some.inj read)
          rw [List.length_drop, List.length_cons]
          exact Nat.lt_succ_of_le (Nat.le_trans (Nat.sub_le ..) (length_content_le found))

/-- The contents of values that all have this tag, one behind the other. -/
def elements? (tag : UInt8) (bytes : List UInt8) : Option (List (List UInt8)) :=
  if bytes.isEmpty then some []
  else
    match _ : element? tag bytes with
    | none => none
    | some (content, rest) => (elements? tag rest).map (content :: ·)
termination_by bytes.length
decreasing_by exact length_rest_lt (by assumption)

/-- A natural number: no sign, no needless zero in front. -/
def natural? (content : List UInt8) : Option Nat :=
  match content with
  | [] => none
  | [b] => if b < 0x80 then some b.toNat else none
  | b :: c :: _ =>
    if b < 0x80 && !(b == 0 && c < 0x80) then some (Wire.bigEndian content) else none

def naturalElement? (bytes : List UInt8) : Option (Nat × List UInt8) := do
  let (content, rest) ← element? Tag.integer bytes
  some (← natural? content, rest)

/-- The bits of a bit string that ends with a whole byte. -/
def wholeBits? (content : List UInt8) : Option (List UInt8) :=
  match content with
  | 0 :: bits => some bits
  | _ => none

/-! ## Writing -/

/-- The fewest bytes that hold a number, the highest first; none for zero. -/
def digits (n : Nat) : List UInt8 :=
  if _ : n = 0 then [] else digits (n / 256) ++ [UInt8.ofNat n]
decreasing_by omega

def lengthBytes (n : Nat) : List UInt8 :=
  if n < 0x80 then [UInt8.ofNat n] else UInt8.ofNat (0x80 + (digits n).length) :: digits n

def element (tag : UInt8) (content : List UInt8) : List UInt8 :=
  tag :: lengthBytes content.length ++ content

/-- A natural number takes a zero in front where its first bit would be read as a sign. -/
def natural (n : Nat) : List UInt8 :=
  let ds := digits n
  element Tag.integer (if ds.head?.all (0x80 ≤ ·) then 0 :: ds else ds)

def wholeBits (bits : List UInt8) : List UInt8 := element Tag.bitString (0 :: bits)

end BackendLink.Der
