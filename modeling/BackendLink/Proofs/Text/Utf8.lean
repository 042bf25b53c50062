import BackendLink.OsText
import Mathlib

/-!
# Strict and lossless reading

Whatever bytes are read, the pieces that come out are these bytes (`bytes_decode`). The strict
reading exists exactly for the bytes of a text, and then it is that text (`text?_eq_some_iff`).
-/

namespace BackendLink

namespace Utf8

/-! ## Bytes as numbers -/

theorem isContinuation_iff (b : UInt8) : isContinuation b ↔ 0x80 ≤ b.toNat ∧ b.toNat < 0xC0 := by
  simp [isContinuation, UInt8.le_iff_toNat_le, UInt8.lt_iff_toNat_lt]

theorem following_eq_some_iff {b low high : UInt8} {missing : Nat} :
    following b = some (missing, low, high) ↔
      (missing = 1 ∧ 0xC2 ≤ b.toNat ∧ b.toNat < 0xE0 ∧ low.toNat = 0x80 ∧ high.toNat = 0xBF) ∨
      (missing = 2 ∧ 0xE0 ≤ b.toNat ∧ b.toNat < 0xF0 ∧
        low.toNat = (if b.toNat = 0xE0 then 0xA0 else 0x80) ∧
        high.toNat = if b.toNat = 0xED then 0x9F else 0xBF) ∨
      (missing = 3 ∧ 0xF0 ≤ b.toNat ∧ b.toNat < 0xF5 ∧
        low.toNat = (if b.toNat = 0xF0 then 0x90 else 0x80) ∧
        high.toNat = if b.toNat = 0xF4 then 0x8F else 0xBF) := by
  simp only [following, UInt8.lt_iff_toNat_lt, beq_iff_eq, ← UInt8.toNat_inj]
  split_ifs <;> simp_all [← UInt8.toNat_inj] <;> omega

theorem exists_following {b : UInt8} (lower : 0xC2 ≤ b.toNat) (upper : b.toNat < 0xF5) :
    ∃ missing low high, following b = some (missing, low, high) := by
  simp only [following, UInt8.lt_iff_toNat_lt, beq_iff_eq, ← UInt8.toNat_inj]
  split_ifs <;> simp_all <;> omega

theorem ofNat_eq_iff {n : Nat} {b : UInt8} : UInt8.ofNat n = b ↔ n % 0x100 = b.toNat := by
  rw [← UInt8.toNat_inj, UInt8.toNat_ofNat']

theorem toNat_lt_of_char (c : Char) :
    c.toNat < 0xD800 ∨ 0xDFFF < c.toNat ∧ c.toNat < 0x110000 := c.valid

theorem encode_eq_two_iff {c : Char} {x y : UInt8} :
    encode c = [x, y] ↔ (0xC2 ≤ x.toNat ∧ x.toNat < 0xE0) ∧ (0x80 ≤ y.toNat ∧ y.toNat < 0xC0) ∧
      c.toNat = (x.toNat - 0xC0) * 0x40 + (y.toNat - 0x80) := by
  have valid := toNat_lt_of_char c
  unfold encode
  dsimp only
  split_ifs <;>
    simp only [List.cons.injEq, ofNat_eq_iff, reduceCtorEq, and_true, and_false, false_iff] <;>
    omega

theorem encode_eq_three_iff {c : Char} {x y z : UInt8} :
    encode c = [x, y, z] ↔ (0xE0 ≤ x.toNat ∧ x.toNat < 0xF0) ∧
      (0x80 ≤ y.toNat ∧ y.toNat < 0xC0) ∧ (0x80 ≤ z.toNat ∧ z.toNat < 0xC0) ∧ 0x800 ≤ c.toNat ∧
      c.toNat = ((x.toNat - 0xE0) * 0x40 + (y.toNat - 0x80)) * 0x40 + (z.toNat - 0x80) := by
  have valid := toNat_lt_of_char c
  unfold encode
  dsimp only
  split_ifs <;>
    simp only [List.cons.injEq, ofNat_eq_iff, reduceCtorEq, and_true, and_false, false_iff] <;>
    omega

theorem encode_eq_four_iff {c : Char} {x y z w : UInt8} :
    encode c = [x, y, z, w] ↔ (0xF0 ≤ x.toNat ∧ x.toNat < 0xF5) ∧
      (0x80 ≤ y.toNat ∧ y.toNat < 0xC0) ∧ (0x80 ≤ z.toNat ∧ z.toNat < 0xC0) ∧
      (0x80 ≤ w.toNat ∧ w.toNat < 0xC0) ∧ 0x10000 ≤ c.toNat ∧
      c.toNat = (((x.toNat - 0xF0) * 0x40 + (y.toNat - 0x80)) * 0x40 + (z.toNat - 0x80)) * 0x40 +
        (w.toNat - 0x80) := by
  have valid := toNat_lt_of_char c
  unfold encode
  dsimp only
  split_ifs <;>
    simp only [List.cons.injEq, ofNat_eq_iff, reduceCtorEq, and_true, and_false, false_iff] <;>
    omega

theorem encode_ne_nil (c : Char) : encode c ≠ [] := by
  unfold encode
  dsimp only
  split_ifs <;> exact List.cons_ne_nil _ _

theorem encode_eq_utf8EncodeChar (c : Char) : encode c = String.utf8EncodeChar c := by
  have valid : c.val.toNat < 0xD800 ∨ 0xDFFF < c.val.toNat ∧ c.val.toNat < 0x110000 := c.valid
  unfold encode String.utf8EncodeChar
  simp only [← Char.toNat_val]
  split_ifs <;>
    simp only [List.cons.injEq, ofNat_eq_iff, UInt8.toNat_ofNat', reduceCtorEq, and_true,
      and_false] <;>
    omega

/-! ## One character -/

/-- A first byte with all the bytes that it calls for. -/
inductive Complete : UInt8 → List UInt8 → Prop
  | intro {first next low high : UInt8} {others : List UInt8}
      (calls : following first = some (others.length + 1, low, high)) (least : low ≤ next)
      (most : next ≤ high) (tail : ∀ b ∈ others, isContinuation b) : Complete first (next :: others)

theorem encode_of_complete {first : UInt8} {more : List UInt8} (complete : Complete first more) :
    encode (Char.ofNat (number first more)) = first :: more := by
  obtain ⟨calls, least, most, tail⟩ := complete
  rename_i next low high others
  rw [UInt8.le_iff_toNat_le] at least most
  simp only [isContinuation_iff] at tail
  -- The ranges of the second byte leave out overlong forms, surrogates and what is above the last
  -- character, so the number is that of a character and of none with fewer bytes.
  rcases following_eq_some_iff.mp calls with ⟨count, ranges⟩ | ⟨count, ranges⟩ | ⟨count, ranges⟩
  · obtain rfl : others = [] := List.eq_nil_of_length_eq_zero (by omega)
    have value : number first [next] = (first.toNat - 0xC0) * 0x40 + (next.toNat - 0x80) := rfl
    have valid : (number first [next]).isValidChar := .inl (by omega)
    rw [encode_eq_two_iff, Char.toNat_ofNat, if_pos valid]
    omega
  · obtain ⟨third, rfl⟩ := List.length_eq_one_iff.mp (by omega : others.length = 1)
    have thirdTail := tail third (by simp)
    have value : number first [next, third] =
      ((first.toNat - 0xE0) * 0x40 + (next.toNat - 0x80)) * 0x40 + (third.toNat - 0x80) := rfl
    have valid : (number first [next, third]).isValidChar := by
      unfold Nat.isValidChar
      split_ifs at ranges <;> omega
    rw [encode_eq_three_iff, Char.toNat_ofNat, if_pos valid]
    split_ifs at ranges <;> omega
  · obtain ⟨third, fourth, rfl⟩ := List.length_eq_two.mp (by omega : others.length = 2)
    have thirdTail := tail third (by simp)
    have fourthTail := tail fourth (by simp)
    have value : number first [next, third, fourth] =
      (((first.toNat - 0xF0) * 0x40 + (next.toNat - 0x80)) * 0x40 + (third.toNat - 0x80)) * 0x40 +
        (fourth.toNat - 0x80) := rfl
    have valid : (number first [next, third, fourth]).isValidChar := by
      unfold Nat.isValidChar
      split_ifs at ranges <;> omega
    rw [encode_eq_four_iff, Char.toNat_ofNat, if_pos valid]
    split_ifs at ranges <;> omega

theorem exists_complete {c : Char} (long : 0x80 ≤ c.toNat) :
    ∃ first more, encode c = first :: more ∧ Complete first more ∧ number first more = c.toNat := by
  have valid := toNat_lt_of_char c
  have shape : (∃ x y, encode c = [x, y]) ∨ (∃ x y z, encode c = [x, y, z]) ∨
      ∃ x y z w, encode c = [x, y, z, w] := by
    unfold encode
    dsimp only
    split_ifs
    · omega
    · exact .inl ⟨_, _, rfl⟩
    · exact .inr (.inl ⟨_, _, _, rfl⟩)
    · exact .inr (.inr ⟨_, _, _, _, rfl⟩)
  rcases shape with ⟨x, y, encoded⟩ | ⟨x, y, z, encoded⟩ | ⟨x, y, z, w, encoded⟩
  · obtain ⟨first, next, value⟩ := encode_eq_two_iff.mp encoded
    obtain ⟨missing, low, high, calls⟩ := exists_following first.1 (by omega)
    have ranges := following_eq_some_iff.mp calls
    obtain rfl : missing = 1 := by omega
    have least : low ≤ y := UInt8.le_iff_toNat_le.mpr (by omega)
    have most : y ≤ high := UInt8.le_iff_toNat_le.mpr (by omega)
    exact ⟨x, [y], encoded, .intro calls least most (by simp), value.symm⟩
  · obtain ⟨first, next, third, large, value⟩ := encode_eq_three_iff.mp encoded
    obtain ⟨missing, low, high, calls⟩ := exists_following (b := x) (by omega) (by omega)
    have ranges := following_eq_some_iff.mp calls
    obtain rfl : missing = 2 := by omega
    have least : low ≤ y := UInt8.le_iff_toNat_le.mpr (by split_ifs at ranges <;> omega)
    have most : y ≤ high := UInt8.le_iff_toNat_le.mpr (by split_ifs at ranges <;> omega)
    have tail : ∀ b ∈ [z], isContinuation b := by simpa [isContinuation_iff] using third
    exact ⟨x, [y, z], encoded, .intro calls least most tail, value.symm⟩
  · obtain ⟨first, next, third, fourth, large, value⟩ := encode_eq_four_iff.mp encoded
    obtain ⟨missing, low, high, calls⟩ := exists_following (b := x) (by omega) (by omega)
    have ranges := following_eq_some_iff.mp calls
    obtain rfl : missing = 3 := by omega
    have least : low ≤ y := UInt8.le_iff_toNat_le.mpr (by split_ifs at ranges <;> omega)
    have most : y ≤ high := UInt8.le_iff_toNat_le.mpr (by split_ifs at ranges <;> omega)
    have tail : ∀ b ∈ [z, w], isContinuation b := by simpa [isContinuation_iff] using ⟨third, fourth⟩
    exact ⟨x, [y, z, w], encoded, .intro calls least most tail, value.symm⟩

theorem firstPiece_of_complete {first : UInt8} {more : List UInt8} (complete : Complete first more)
    (rest : List UInt8) :
    firstPiece first (more ++ rest) = (.char (Char.ofNat (number first more)), more.length) := by
  obtain ⟨calls, least, most, tail⟩ := complete
  rename_i next low high others
  have long : ¬ first < 0x80 := by
    have ranges := following_eq_some_iff.mp calls
    have bound : (0x80 : UInt8).toNat = 0x80 := rfl
    rw [UInt8.lt_iff_toNat_lt]
    omega
  have taken : continuation (others.length + 1) low high (next :: others ++ rest) =
      next :: others := by
    have whole : (others ++ rest).take others.length = others := List.take_left
    rw [List.cons_append, continuation, if_pos (by simp [least, most]), Nat.add_sub_cancel, whole,
      List.takeWhile_eq_self_iff.mpr tail]
  rw [firstPiece, if_neg long, calls]
  simp only [taken, List.length_cons, beq_self_eq_true, if_true]

theorem encode_short {b : UInt8} (short : b < 0x80) : encode (Char.ofNat b.toNat) = [b] := by
  have bound : b.toNat < 0x80 := UInt8.lt_iff_toNat_lt.mp short
  have valid : b.toNat.isValidChar := .inl (by omega)
  rw [encode, Char.toNat_ofNat, if_pos valid, if_pos bound, UInt8.ofNat_toNat]

theorem isPrefix_continuation (missing : Nat) (low high : UInt8) (bs : List UInt8) :
    continuation missing low high bs <+: bs := by
  unfold continuation
  split
  · split
    · exact List.cons_prefix_cons.mpr ⟨rfl, (List.takeWhile_prefix _).trans (List.take_prefix _ _)⟩
    · exact List.nil_prefix
  · exact List.nil_prefix

theorem complete_of_continuation {b low high : UInt8} {missing : Nat} {bs : List UInt8}
    (calls : following b = some (missing, low, high))
    (full : (continuation missing low high bs).length = missing) :
    Complete b (continuation missing low high bs) := by
  have positive : 0 < missing := by
    have ranges := following_eq_some_iff.mp calls
    omega
  unfold continuation at full ⊢
  split at full
  · split at full
    · rename_i next rest within
      rw [Bool.and_eq_true, decide_eq_true_eq, decide_eq_true_eq] at within
      rw [if_pos (by simp [within])]
      rw [← full, List.length_cons] at calls
      exact .intro calls within.1 within.2 fun b member => List.mem_takeWhile_imp member
    · exact absurd full positive.ne
  · exact absurd full positive.ne

theorem bytes_firstPiece (b : UInt8) (bs : List UInt8) :
    (firstPiece b bs).1.bytes ++ bs.drop (firstPiece b bs).2 = b :: bs := by
  unfold firstPiece
  split
  · rename_i short
    rw [Piece.bytes, encode_short short]
    rfl
  · split
    · rfl
    · rename_i missing low high calls
      have whole := List.prefix_iff_eq_append.mp (isPrefix_continuation missing low high bs)
      dsimp only
      split
      · rename_i full
        have full := beq_iff_eq.mp full
        rw [full] at whole
        rw [Piece.bytes, encode_of_complete (complete_of_continuation calls full), List.cons_append,
          whole]
      · rw [Piece.bytes, List.cons_append, whole]

theorem firstPiece_encode {c : Char} {first : UInt8} {more : List UInt8}
    (encoded : encode c = first :: more) (rest : List UInt8) :
    firstPiece first (more ++ rest) = (.char c, more.length) := by
  by_cases short : c.toNat < 0x80
  · rw [encode, if_pos short] at encoded
    obtain ⟨rfl, rfl⟩ := List.cons.inj encoded
    have same : (UInt8.ofNat c.toNat).toNat = c.toNat :=
      UInt8.toNat_ofNat_of_lt' (Nat.lt_trans short (by decide))
    have below : UInt8.ofNat c.toNat < 0x80 := by
      rw [UInt8.lt_iff_toNat_lt, same]
      exact short
    rw [firstPiece, if_pos below, same, Char.ofNat_toNat]
    rfl
  · obtain ⟨_, _, encoded', complete, value⟩ := exists_complete (Nat.le_of_not_lt short)
    obtain ⟨rfl, rfl⟩ := List.cons.inj (encoded.symm.trans encoded')
    rw [firstPiece_of_complete complete, value, Char.ofNat_toNat]

/-! ## All bytes -/

theorem bytes_decode (bs : List UInt8) : (decode bs).flatMap Piece.bytes = bs := by
  induction bs using decode.induct with
  | case1 =>
      rw [decode]
      rfl
  | case2 b rest piece used first ih =>
      have whole := bytes_firstPiece b rest
      rw [first] at whole
      rw [decode, first, List.flatMap_cons, ih, whole]

theorem decode_encode_append (c : Char) (rest : List UInt8) :
    decode (encode c ++ rest) = .char c :: decode rest := by
  cases encoded : encode c with
  | nil => exact absurd encoded (encode_ne_nil c)
  | cons first more =>
      rw [List.cons_append, decode, firstPiece_encode encoded]
      simp only [List.drop_left]

theorem decode_encodeAll (cs : List Char) : decode (encodeAll cs) = cs.map .char := by
  induction cs with
  | nil => rw [encodeAll, List.flatMap_nil, decode, List.map_nil]
  | cons c cs ih =>
      rw [encodeAll, List.flatMap_cons, decode_encode_append, ← encodeAll, ih, List.map_cons]

theorem chars?_eq_some_iff {pieces : List Piece} {cs : List Char} :
    chars? pieces = some cs ↔ pieces = cs.map .char := by
  constructor
  · intro read
    induction pieces generalizing cs with
    | nil =>
        cases read
        rfl
    | cons piece pieces ih =>
        cases piece with
        | broken bytes => cases read
        | char c =>
            obtain ⟨others, readRest, rfl⟩ := Option.map_eq_some_iff.mp read
            rw [ih readRest, List.map_cons]
  · rintro rfl
    exact chars?_map_char cs

theorem flatMap_bytes_map_char (cs : List Char) :
    (cs.map Piece.char).flatMap Piece.bytes = encodeAll cs := by
  rw [List.flatMap_map]
  rfl

theorem encodeAll_toList (s : String) : encodeAll s.toList = s.toUTF8.data.toList := by
  have encodes : encode = String.utf8EncodeChar := funext encode_eq_utf8EncodeChar
  conv_rhs => rw [← String.ofList_toList (s := s)]
  rw [encodeAll, encodes, String.toUTF8_eq_toByteArray, String.toByteArray_ofList, List.utf8Encode,
    List.data_toByteArray]

theorem text?_eq_some_iff {bs : List UInt8} {s : String} :
    text? bs = some s ↔ bs = s.toUTF8.data.toList := by
  rw [← encodeAll_toList]
  constructor
  · intro read
    obtain ⟨cs, whole, rfl⟩ := Option.map_eq_some_iff.mp read
    rw [String.toList_ofList, ← flatMap_bytes_map_char, ← chars?_eq_some_iff.mp whole,
      bytes_decode]
  · rintro rfl
    rw [text?, decode_encodeAll, chars?_map_char, Option.map_some, String.ofList_toList]

end Utf8

/-! ## Names -/

namespace OsText

theorem text?_eq_some_iff {t : OsText} {s : String} : t.text? = some s ↔ t = ofString s := by
  constructor
  · intro read
    obtain ⟨cs, whole, rfl⟩ := Option.map_eq_some_iff.mp read
    obtain ⟨pieces⟩ := t
    rw [ofString, String.toList_ofList, ← Utf8.chars?_eq_some_iff.mp whole]
  · rintro rfl
    exact text?_ofString s

end OsText
end BackendLink
