import BackendLink.Proofs.Transport.Receive
import BackendLink.Proofs.Wire.Layout

/-!
# What every message has in common

Messages come from the two encoders and from the two receives, and a receive takes whatever length
the peer declares. All of them frame themselves (`Obtained.framed`), and from that the answers of
their accessors follow from each other (`coherent_of_obtained`).
-/

namespace BackendLink
open Wire

namespace Wire.Message

/-- The accessors of a message answer alike, and no sum of its sizes wraps around. -/
structure Coherent (m : Message) : Prop where
  header_le : m.kind.headerSize ≤ m.bytes.length
  declared_le : m.declaredLength.toNat ≤ 2 ^ 30
  length_payload : m.payload.length = payloadLength m.declaredLength
  payloadLength_eq : payloadLength m.declaredLength = max m.declaredLength.toNat 4 - 4
  size_eq : m.size = m.kind.headerSize + m.payload.length
  size_word : (UInt32.ofNat m.kind.headerSize + UInt32.ofNat m.payload.length).toNat = m.size
  size_long : (UInt64.ofNat m.kind.headerSize + UInt64.ofNat m.payload.length).toNat = m.size
  bytes_eq : m.bytes = m.header ++ m.payload
  header_eq : m.header = m.tag?.toList ++ encodeWord m.declaredLength
  tag?_eq : ∃ first rest, m.bytes = first :: rest ∧
    m.tag? = if m.kind = .regular then some first else none
  isEmpty_eq : m.isEmpty = false

theorem size_eq (m : Message) : m.size = m.kind.headerSize + m.payload.length := by
  rw [size, ← header_append_payload m, List.length_append, header, List.length_take,
    Nat.min_eq_left m.header_le]

theorem header_eq (m : Message) : m.header = m.tag?.toList ++ encodeWord m.declaredLength := by
  rw [← header_ofParts m.tag? m.declaredLength m.payload, ofParts_eta]

theorem exists_first (m : Message) : ∃ first rest, m.bytes = first :: rest ∧
    m.tag? = if m.kind = .regular then some first else none := by
  obtain ⟨kind, bytes, header_le⟩ := m
  cases bytes with
  | nil => cases kind <;> cases header_le
  | cons first rest => exact ⟨first, rest, rfl, by cases kind <;> rfl⟩

theorem Framed.size_lt {m : Message} (framed : m.Framed) :
    m.kind.headerSize + m.payload.length < 2 ^ 32 := by
  obtain ⟨within, fits⟩ := framed
  have header : m.kind.headerSize ≤ 5 := by cases m.kind <;> decide
  rw [sizeLimit] at within
  rw [payloadLength, lengthSize] at fits
  omega

theorem Framed.coherent {m : Message} (framed : m.Framed) : m.Coherent where
  header_le := m.header_le
  declared_le := framed.declared_le
  length_payload := framed.length_payload
  payloadLength_eq := by
    rw [payloadLength, lengthSize]
    omega
  size_eq := m.size_eq
  size_word := by
    have small := framed.size_lt
    rw [UInt32.toNat_add, UInt32.toNat_ofNat_of_lt' (Nat.lt_of_le_of_lt (Nat.le_add_right _ _) small),
      UInt32.toNat_ofNat_of_lt' (Nat.lt_of_le_of_lt (Nat.le_add_left _ _) small),
      Nat.mod_eq_of_lt small, m.size_eq]
  size_long := by
    have small := Nat.lt_trans framed.size_lt (show 2 ^ 32 < 2 ^ 64 by decide)
    rw [UInt64.toNat_add, UInt64.toNat_ofNat_of_lt' (Nat.lt_of_le_of_lt (Nat.le_add_right _ _) small),
      UInt64.toNat_ofNat_of_lt' (Nat.lt_of_le_of_lt (Nat.le_add_left _ _) small),
      Nat.mod_eq_of_lt small, m.size_eq]
  bytes_eq := m.header_append_payload.symm
  header_eq := m.header_eq
  tag?_eq := m.exists_first
  isEmpty_eq := by
    obtain ⟨first, rest, bytes, -⟩ := m.exists_first
    rw [isEmpty, bytes]
    rfl

theorem encoded_iff {m : Message} : m.Encoded ↔ ∃ tag payload, encode tag payload = .ok m := by
  constructor
  · rintro (⟨payload, built⟩ | ⟨tag, payload, built⟩)
    · exact ⟨none, payload, built⟩
    · exact ⟨some tag, payload, built⟩
  · rintro ⟨_ | tag, payload, built⟩
    · exact .inl ⟨payload, built⟩
    · exact .inr ⟨tag, payload, built⟩

theorem Encoded.declaredLength_eq {m : Message} (encoded : m.Encoded) :
    m.declaredLength.toNat = m.payload.length + 4 := by
  obtain ⟨tag, payload, built⟩ := encoded_iff.mp encoded
  obtain ⟨parts, declared⟩ := encode_ok built
  rw [declared, parts, payload_ofParts]

end Wire.Message

/-! ## Where messages come from -/

inductive Obtained (m : Message) : Prop
  | startup (payload : List UInt8) (built : Message.startup payload = .ok m)
  | regular (tag : UInt8) (payload : List UInt8) (built : Message.regular tag payload = .ok m)
  | receivedFirst (t : Transport) (received : (receiveStartup t).1 = .ok m)
  | received (t : Transport) (received : (receive t).1 = .ok m)

theorem Obtained.framed {m : Message} (obtained : Obtained m) : m.Framed := by
  cases obtained with
  | startup payload built => exact Message.Encoded.framed (.inl ⟨payload, built⟩)
  | regular tag payload built => exact Message.Encoded.framed (.inr ⟨tag, payload, built⟩)
  | receivedFirst t received => exact (framed_of_receiveKind (Prod.ext received rfl)).2
  | received t received => exact (framed_of_receiveKind (Prod.ext received rfl)).2

theorem coherent_of_obtained {m : Message} (obtained : Obtained m) :
    m.Coherent ∧ (m.Encoded → m.declaredLength.toNat = m.payload.length + 4 ∧
      (m.kind = .startup → m.size = m.declaredLength.toNat)) := by
  refine ⟨obtained.framed.coherent, fun encoded => ?_⟩
  have declared := encoded.declaredLength_eq
  refine ⟨declared, fun startup => ?_⟩
  rw [m.size_eq, startup, declared]
  exact Nat.add_comm 4 _

/-- One message arrives with a length that does not count itself, the other is encoded. -/
theorem coherent_of_obtained_short :
    let stub : Message := ⟨.regular, [88, 0, 0, 0, 2], by decide⟩
    let hello : Message := ⟨.startup, [0, 0, 0, 5, 7], by decide⟩
    Obtained stub ∧ stub.Coherent ∧ Obtained hello ∧ hello.Encoded ∧ hello.kind = .startup ∧
      hello.size = hello.declaredLength.toNat := by
  intro stub hello
  have arrives : (receive { reads := [.data [88, 0], .notReady, .data [0, 0, 2, 7]] }).1 =
      .ok stub := by
    rw [receive, receiveKind_eq_parse]
    rfl
  have received : Obtained stub := .received _ arrives
  have encoded : Message.startup [7] = .ok hello := rfl
  have built : Obtained hello := .startup [7] encoded
  obtain ⟨coherent, -⟩ := coherent_of_obtained received
  obtain ⟨-, lengths⟩ := coherent_of_obtained built
  obtain ⟨-, whole⟩ := lengths (.inl ⟨[7], encoded⟩)
  exact ⟨received, coherent, built, .inl ⟨[7], encoded⟩, rfl, whole rfl⟩

end BackendLink
