/-!
# Words on the wire

Lengths and codes travel as four bytes, the highest first. A size in memory has twice as many bytes
and may be too large for a word.

* `decodeWord_encodeWord`: a word that was written is read back.
* `encodeWord_decodeWord`: four bytes are what their word is written as.
* `toNat_saturatingAdd`: a sum of sizes never wraps around.
-/

namespace BackendLink.Wire

/-- The number that bytes stand for, the highest first. -/
def bigEndian (bytes : List UInt8) : Nat := bytes.foldl (fun n b => n * 256 + b.toNat) 0

def encodeWord (w : UInt32) : List UInt8 :=
  [UInt8.ofNat (w.toNat / 0x1000000), UInt8.ofNat (w.toNat / 0x10000), UInt8.ofNat (w.toNat / 0x100),
    UInt8.ofNat w.toNat]

def decodeWord (bytes : List UInt8) : UInt32 := UInt32.ofNat (bigEndian bytes)

@[simp] theorem length_encodeWord (w : UInt32) : (encodeWord w).length = 4 := rfl

@[simp] theorem decodeWord_encodeWord (w : UInt32) : decodeWord (encodeWord w) = w := by
  apply UInt32.toNat_inj.mp
  have bound := w.toNat_lt
  simp [decodeWord, encodeWord, bigEndian]
  omega

theorem encodeWord_decodeWord (a b c d : UInt8) :
    encodeWord (decodeWord [a, b, c, d]) = [a, b, c, d] := by
  have ha := a.toNat_lt
  have hb := b.toNat_lt
  have hc := c.toNat_lt
  have hd := d.toNat_lt
  simp only [encodeWord, decodeWord, bigEndian, List.foldl_cons, List.foldl_nil, UInt32.toNat_ofNat',
    List.cons.injEq, and_true, ← UInt8.toNat_inj, UInt8.toNat_ofNat']
  refine ⟨?_, ?_, ?_, ?_⟩ <;> omega

/-! ## Sizes -/

/-- The size of a row of bytes in memory, where no row is longer than the largest size. -/
def sizeInMemory (bytes : List UInt8) : UInt64 := .ofNatClamp bytes.length

/-- The sum of two sizes, or the largest size if the sum is above it. -/
def saturatingAdd (a b : UInt64) : UInt64 :=
  if a + b < a then 0xFFFFFFFFFFFFFFFF else a + b

/-- A size as a word, unless it is too large for one. -/
def word? (size : UInt64) : Option UInt32 :=
  if size.toNat < UInt32.size then some size.toUInt32 else none

theorem toNat_sizeInMemory (bytes : List UInt8) :
    (sizeInMemory bytes).toNat = min bytes.length 0xFFFFFFFFFFFFFFFF := by
  unfold sizeInMemory
  by_cases fits : bytes.length < UInt64.size
  · have small : bytes.length < 0x10000000000000000 := fits
    rw [UInt64.toNat_ofNatClamp_of_lt fits]
    omega
  · have large : 0x10000000000000000 ≤ bytes.length := Nat.not_lt.mp fits
    rw [UInt64.toNat_ofNatClamp_of_le (Nat.not_lt.mp fits), Nat.min_eq_right (by omega)]
    rfl

theorem toNat_saturatingAdd (a b : UInt64) :
    (saturatingAdd a b).toNat = min (a.toNat + b.toNat) 0xFFFFFFFFFFFFFFFF := by
  have ha := a.toNat_lt
  have hb := b.toNat_lt
  have sum : (a + b).toNat = (a.toNat + b.toNat) % 2 ^ 64 := UInt64.toNat_add a b
  unfold saturatingAdd
  split <;> rename_i wraps <;> rw [UInt64.lt_iff_toNat_lt] at wraps
  · show 0xFFFFFFFFFFFFFFFF = _
    omega
  · omega

end BackendLink.Wire
