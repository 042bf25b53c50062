import BackendLink.Transport.Receive
import Mathlib.Data.Nat.Digits.Defs

/-!
# One message off flat bytes

`Message.parse` is the layout of a message read off flat bytes behind which the stream stops. A
message whose length field fits its payload, as every encoded one does (`Encoded.framed`), is parsed
back from its bytes, whatever follows them (`Framed.parse_append`).
-/

namespace BackendLink.Wire

/-! ## Length fields -/

theorem bigEndian_eq_ofDigits (bytes : List UInt8) :
    bigEndian bytes = Nat.ofDigits 256 (bytes.reverse.map UInt8.toNat) := by
  rw [bigEndian, Nat.ofDigits_eq_foldr, List.foldr_map, List.foldr_reverse]
  congr 1
  funext n b
  show n * 256 + b.toNat = b.toNat + 256 * n
  omega

theorem bigEndian_lt (bytes : List UInt8) : bigEndian bytes < 256 ^ bytes.length := by
  have bound := Nat.ofDigits_lt_base_pow_length (b := 256)
    (l := bytes.reverse.map UInt8.toNat) (by omega) fun digit member => by
      obtain ⟨b, -, rfl⟩ := List.mem_map.mp member
      exact b.toNat_lt
  rw [bigEndian_eq_ofDigits]
  simpa using bound

theorem toNat_decodeWord {bytes : List UInt8} (four : bytes.length = 4) :
    (decodeWord bytes).toNat = Nat.ofDigits 256 (bytes.reverse.map UInt8.toNat) := by
  have bound : bigEndian bytes < 2 ^ 32 := by simpa [four] using bigEndian_lt bytes
  rw [decodeWord, UInt32.toNat_ofNat', Nat.mod_eq_of_lt bound, bigEndian_eq_ofDigits]

/-- The number that the last four bytes of the header stand for, the highest byte first. -/
def Kind.lengthField (kind : Kind) (bytes : List UInt8) : Nat :=
  Nat.ofDigits 256
    (((bytes.take kind.headerSize).drop (kind.headerSize - 4)).reverse.map UInt8.toNat)

theorem Kind.four_le_headerSize (kind : Kind) : 4 ≤ kind.headerSize := by
  cases kind <;> decide

theorem Kind.toNat_declaredLength {kind : Kind} {bytes : List UInt8}
    (complete : kind.headerSize ≤ bytes.length) :
    (kind.declaredLength bytes).toNat = kind.lengthField bytes := by
  have four := kind.four_le_headerSize
  have same : (bytes.drop (kind.headerSize - lengthSize)).take lengthSize =
      (bytes.take kind.headerSize).drop (kind.headerSize - 4) := by
    rw [List.drop_take, lengthSize, show kind.headerSize - (kind.headerSize - 4) = 4 by omega]
  rw [declaredLength, same, toNat_decodeWord, lengthField]
  rw [List.length_drop, List.length_take]
  omega

theorem Kind.lengthField_append {kind : Kind} {bytes : List UInt8}
    (complete : kind.headerSize ≤ bytes.length) (rest : List UInt8) :
    kind.lengthField (bytes ++ rest) = kind.lengthField bytes := by
  rw [lengthField, lengthField, List.take_append_of_le_length complete]

/-! ## The parser -/

/-- What stands in front of flat bytes behind which the stream stops: a message, or an error that
tells how many of the expected bytes were there. -/
def Message.parse (kind : Kind) (bytes : List UInt8) (stop : Shortfall) :
    Except FrameError Message :=
  let torn (read expected : Nat) : FrameError :=
    match stop with
    | .failed e => .readFailed read expected e
    | .endOfStream => .incomplete read expected
  let declared := kind.lengthField bytes
  let payload := max declared 4 - 4
  if bytes.length < kind.headerSize then .error (torn bytes.length kind.headerSize)
  else if 2 ^ 30 < declared then .error (.tooLarge declared (2 ^ 30))
  else if short : bytes.length < kind.headerSize + payload then
    .error (torn (bytes.length - kind.headerSize) payload)
  else .ok ⟨kind, bytes.take (kind.headerSize + payload), by rw [List.length_take]; omega⟩

/-- The length field is within the limit and fits the payload. -/
structure Message.Framed (m : Message) : Prop where
  declared_le : m.declaredLength.toNat ≤ sizeLimit
  length_payload : m.payload.length = payloadLength m.declaredLength

namespace Message

theorem Framed.parse_append {m : Message} (framed : m.Framed) (rest : List UInt8)
    (stop : Shortfall) : parse m.kind (m.bytes ++ rest) stop = .ok m := by
  obtain ⟨declared_le, length_payload⟩ := framed
  have complete := m.header_le
  have declared : m.kind.lengthField (m.bytes ++ rest) = m.declaredLength.toNat := by
    rw [Kind.lengthField_append complete, declaredLength, Kind.toNat_declaredLength complete]
  have whole : m.bytes.length = m.kind.headerSize + (max m.declaredLength.toNat 4 - 4) := by
    rw [payload, List.length_drop, payloadLength, lengthSize] at length_payload
    omega
  have within : ¬ 2 ^ 30 < m.declaredLength.toNat := Nat.not_lt.mpr declared_le
  have long : m.bytes.length ≤ (m.bytes ++ rest).length := by simp
  unfold parse
  simp only [declared]
  rw [if_neg (by omega), if_neg within, dif_neg (by omega)]
  simp only [← whole, List.take_left]

/-- The front of a message ends in its header or in its payload. -/
theorem Framed.parse_torn {m : Message} (framed : m.Framed) {torn : List UInt8}
    (front : torn <+: m.bytes) (short : torn.length < m.size) :
    parse m.kind torn .endOfStream = .error (
      if torn.length < m.kind.headerSize then .incomplete torn.length m.kind.headerSize
      else .incomplete (torn.length - m.kind.headerSize) m.payload.length) := by
  obtain ⟨declared_le, length_payload⟩ := framed
  unfold parse
  by_cases cut : torn.length < m.kind.headerSize
  · simp only [cut, if_true]
  · have declared : m.kind.lengthField torn = m.declaredLength.toNat := by
      obtain ⟨rest, same⟩ := front
      rw [declaredLength, Kind.toNat_declaredLength m.header_le, ← same,
        Kind.lengthField_append (Nat.not_lt.mp cut)]
    have expected : max m.declaredLength.toNat 4 - 4 = m.payload.length := by
      rw [length_payload, payloadLength, lengthSize]
      omega
    have whole : m.size = m.kind.headerSize + m.payload.length := by
      have header := m.header_le
      rw [size, payload, List.length_drop]
      omega
    have within : ¬ 2 ^ 30 < m.declaredLength.toNat := Nat.not_lt.mpr declared_le
    simp only [declared, expected]
    rw [if_neg cut, if_neg within, dif_pos (by omega), if_neg cut]

/-- What is parsed is the front of the bytes, and its length field fits its payload. -/
theorem parse_ok {kind : Kind} {bytes : List UInt8} {stop : Shortfall} {m : Message}
    (parsed : parse kind bytes stop = .ok m) : m.kind = kind ∧ m.bytes <+: bytes ∧ m.Framed := by
  unfold parse at parsed
  dsimp only at parsed
  split at parsed
  · cases parsed
  · rename_i complete
    split at parsed
    · cases parsed
    · rename_i within
      split at parsed
      · cases parsed
      · rename_i enough
        have parts := Except.ok.inj parsed
        obtain rfl : kind = m.kind := congrArg Message.kind parts
        have taken : bytes.take (m.kind.headerSize + (max (m.kind.lengthField bytes) 4 - 4)) =
            m.bytes := congrArg Message.bytes parts
        have front : m.bytes <+: bytes := taken ▸ List.take_prefix _ _
        have size : m.bytes.length = m.kind.headerSize + (max (m.kind.lengthField bytes) 4 - 4) := by
          rw [← taken, List.length_take]
          omega
        have declared : m.declaredLength.toNat = m.kind.lengthField bytes := by
          obtain ⟨rest, same⟩ := front
          rw [declaredLength, Kind.toNat_declaredLength m.header_le, ← same,
            Kind.lengthField_append m.header_le]
        refine ⟨rfl, front, ?_, ?_⟩
        · rw [declared]
          exact Nat.not_lt.mp within
        · rw [payload, List.length_drop, size, payloadLength, declared, lengthSize]
          omega

/-- A message that an encoder built. -/
def Encoded (m : Message) : Prop :=
  (∃ payload, startup payload = .ok m) ∨ ∃ tag payload, regular tag payload = .ok m

/-- No sum of sizes wraps around on the way to a length. -/
theorem encodedLength_eq (size : UInt64) :
    encodedLength size =
      if size.toNat + 4 ≤ 2 ^ 30 then .ok (UInt32.ofNat (size.toNat + 4))
      else .error (.tooLarge (min (size.toNat + 4) (2 ^ 32 - 1)) (2 ^ 30)) := by
  have bound := size.toNat_lt
  have total := toNat_saturatingAdd size (.ofNat lengthSize)
  rw [show (UInt64.ofNat lengthSize).toNat = 4 from rfl] at total
  unfold encodedLength word?
  rw [show UInt32.size = 2 ^ 32 from rfl]
  by_cases narrow : size.toNat + 4 < 2 ^ 32
  · have length : (saturatingAdd size (.ofNat lengthSize)).toUInt32 = .ofNat (size.toNat + 4) := by
      apply UInt32.toNat_inj.mp
      rw [UInt64.toNat_toUInt32, UInt32.toNat_ofNat', total]
      omega
    have value : (UInt32.ofNat (size.toNat + 4)).toNat = size.toNat + 4 :=
      UInt32.toNat_ofNat_of_lt' narrow
    rw [if_pos (by omega), length, Nat.min_eq_left (by omega)]
    simp only [value]
    rfl
  · rw [if_neg (by omega), if_neg (by omega), Nat.min_eq_right (by omega)]
    rfl

theorem encodedLength_sizeInMemory (payload : List UInt8) :
    encodedLength (sizeInMemory payload) =
      if payload.length + 4 ≤ 2 ^ 30 then .ok (UInt32.ofNat (payload.length + 4))
      else .error (.tooLarge (min (payload.length + 4) (2 ^ 32 - 1)) (2 ^ 30)) := by
  rw [encodedLength_eq, toNat_sizeInMemory]
  by_cases fits : payload.length < 2 ^ 64
  · rw [Nat.min_eq_left (show payload.length ≤ 0xFFFFFFFFFFFFFFFF by omega)]
  · -- A row as long as that is above the limit and above every word.
    rw [Nat.min_eq_right (show 0xFFFFFFFFFFFFFFFF ≤ payload.length by omega), if_neg (by omega),
      if_neg (by omega), Nat.min_eq_right (by omega), Nat.min_eq_right (by omega)]

theorem encodedLength_ok {payload : List UInt8} {length : UInt32}
    (fits : encodedLength (sizeInMemory payload) = .ok length) :
    payload.length + 4 ≤ sizeLimit ∧ length.toNat = payload.length + 4 := by
  rw [encodedLength_sizeInMemory] at fits
  split at fits
  · rename_i within
    cases fits
    exact ⟨within, UInt32.toNat_ofNat_of_lt' (Nat.lt_of_le_of_lt within (by decide))⟩
  · cases fits

theorem startup_ok {payload : List UInt8} {m : Message} (built : startup payload = .ok m) :
    ∃ length, encodedLength (sizeInMemory payload) = .ok length ∧ m.kind = .startup ∧
      m.bytes = encodeWord length ++ payload := by
  unfold startup at built
  split at built
  · cases built
  · rename_i length fits
    cases built
    exact ⟨length, fits, rfl, rfl⟩

theorem regular_ok {tag : UInt8} {payload : List UInt8} {m : Message}
    (built : regular tag payload = .ok m) :
    ∃ length, encodedLength (sizeInMemory payload) = .ok length ∧ m.kind = .regular ∧
      m.bytes = tag :: (encodeWord length ++ payload) := by
  unfold regular at built
  split at built
  · cases built
  · rename_i length fits
    cases built
    exact ⟨length, fits, rfl, rfl⟩

theorem framed_of_parts {m : Message} (front : List UInt8) {payload : List UInt8}
    {length : UInt32} (fits : encodedLength (sizeInMemory payload) = .ok length)
    (header : m.kind.headerSize = front.length + 4)
    (parts : m.bytes = front ++ (encodeWord length ++ payload)) : m.Framed := by
  obtain ⟨within, declared⟩ := encodedLength_ok fits
  have field : m.declaredLength = length := by
    rw [declaredLength, Kind.declaredLength, parts, lengthSize, header, Nat.add_sub_cancel,
      List.drop_left, ← length_encodeWord length, List.take_left, decodeWord_encodeWord]
  refine ⟨?_, ?_⟩
  · rw [field, declared]
    exact within
  · rw [field, Message.payload, parts, payloadLength, declared, header, ← List.append_assoc,
      List.drop_left' (by simp)]
    rfl

theorem Encoded.framed {m : Message} (encoded : m.Encoded) : m.Framed := by
  rcases encoded with ⟨payload, built⟩ | ⟨tag, payload, built⟩
  · obtain ⟨length, fits, kind, bytes⟩ := startup_ok built
    exact framed_of_parts [] fits (by rw [kind]; rfl) bytes
  · obtain ⟨length, fits, kind, bytes⟩ := regular_ok built
    exact framed_of_parts [tag] fits (by rw [kind]; rfl) bytes

end Message
end BackendLink.Wire
