import BackendLink.Proofs.Conversation
import BackendLink.Proofs.Wire.Layout

/-!
# Encoding received messages anew

A received message that is encoded anew keeps its type byte and its payload; its length field stays
too, unless it was too small to count itself and becomes four (`Message.Framed.encode_eq`). What
comes out is received and encoded as it is from then on (`reencode_received`).
-/

namespace BackendLink
open Wire

namespace Wire.Message

/-- The message with a length field that counts itself. -/
def canonical (m : Message) : Message :=
  ofParts m.tag? (if m.declaredLength.toNat < 4 then 4 else m.declaredLength) m.payload

theorem canonical_of_le {m : Message} (counted : 4 ≤ m.declaredLength.toNat) :
    m.canonical = m := by
  rw [canonical, if_neg (Nat.not_lt.mpr counted), ofParts_eta]

theorem canonical_of_lt {m : Message} (short : m.declaredLength.toNat < 4) :
    m.canonical = ofParts m.tag? 4 m.payload := by
  rw [canonical, if_pos short]

@[simp] theorem tag?_canonical (m : Message) : m.canonical.tag? = m.tag? := tag?_ofParts ..

@[simp] theorem payload_canonical (m : Message) : m.canonical.payload = m.payload :=
  payload_ofParts ..

@[simp] theorem kind_canonical (m : Message) : m.canonical.kind = m.kind :=
  m.kind_eq_ofTag?.symm

theorem canonical_eq_iff (m : Message) : m.canonical = m ↔ 4 ≤ m.declaredLength.toNat := by
  refine ⟨fun same => Nat.not_lt.mp fun short => ?_, canonical_of_le⟩
  have declared : m.canonical.declaredLength = 4 := by
    rw [canonical_of_lt short, declaredLength_ofParts]
  rw [same] at declared
  rw [declared] at short
  exact absurd short (by decide)

namespace Framed

variable {m : Message}

theorem payload_eq_nil (framed : m.Framed) (short : m.declaredLength.toNat < 4) :
    m.payload = [] := by
  apply List.eq_nil_of_length_eq_zero
  rw [framed.length_payload, payloadLength, lengthSize]
  omega

theorem encode_eq (framed : m.Framed) : encode m.tag? m.payload = .ok m.canonical := by
  by_cases short : m.declaredLength.toNat < 4
  · have filled : ([] : List UInt8).length + 4 = (4 : UInt32).toNat := rfl
    rw [canonical_of_lt short, framed.payload_eq_nil short, encode_of_declared m.tag? filled,
      if_pos (by decide)]
  · have within : m.declaredLength.toNat ≤ 2 ^ 30 := framed.declared_le
    have filled : m.payload.length + 4 = m.declaredLength.toNat := by
      rw [framed.length_payload, payloadLength, lengthSize]
      omega
    rw [canonical_of_le (Nat.not_lt.mp short), encode_of_declared m.tag? filled, if_pos within,
      ofParts_eta]

theorem canonical (framed : m.Framed) : m.canonical.Framed := by
  by_cases short : m.declaredLength.toNat < 4
  · rw [canonical_of_lt short, framed.payload_eq_nil short]
    exact framed_ofParts_iff.mpr ⟨by decide, rfl⟩
  · rwa [canonical_of_le (Nat.not_lt.mp short)]

end Framed
end Wire.Message

/-! ## Once around -/

/-- What encoding makes of a message `m` that was received: the message `n`. -/
structure Reencoded (m n : Message) : Prop where
  kind : n.kind = m.kind
  tag? : n.tag? = m.tag?
  payload : n.payload = m.payload
  eq_iff : n = m ↔ 4 ≤ m.declaredLength.toNat
  short : m.declaredLength.toNat < 4 → m.payload = [] ∧
    m.bytes = m.tag?.toList ++ encodeWord m.declaredLength ∧
    n.bytes = m.tag?.toList ++ encodeWord 4
  encoded : Message.encode n.tag? n.payload = .ok n
  received : ∀ (t : Transport) (rest : List UInt8), t.arriving = n.bytes ++ rest →
    ∃ after, receiveNext n.kind t = (.ok n, after) ∧ after.arriving = rest

theorem Wire.Message.Framed.reencoded {m : Message} (framed : m.Framed) :
    Reencoded m m.canonical where
  kind := m.kind_canonical
  tag? := m.tag?_canonical
  payload := m.payload_canonical
  eq_iff := m.canonical_eq_iff
  short := by
    intro short
    have empty := framed.payload_eq_nil short
    have bytes := congrArg Message.bytes m.ofParts_eta
    rw [empty] at bytes
    refine ⟨empty, ?_, ?_⟩
    · rw [← bytes, Message.bytes_ofParts, layout, List.append_nil]
    · rw [Message.canonical_of_lt short, empty, Message.bytes_ofParts, layout, List.append_nil]
  encoded := by rw [m.tag?_canonical, m.payload_canonical, framed.encode_eq]
  received := by
    intro t rest arrives
    obtain ⟨after, received, left, -⟩ := receiveKind_framed framed.canonical arrives
    exact ⟨after, by rw [receiveNext_eq, received], left⟩

theorem reencode_received (t : Transport) :
    (∀ m, (receiveStartup t).1 = .ok m →
      ∃ n, Message.startup m.payload = .ok n ∧ Reencoded m n) ∧
    ∀ m, (receive t).1 = .ok m →
      ∃ tag n, m.tag? = some tag ∧ Message.regular tag m.payload = .ok n ∧ Reencoded m n := by
  constructor
  · intro m received
    obtain ⟨kind, framed⟩ := framed_of_receiveKind (Prod.ext received rfl)
    have built := framed.encode_eq
    rw [Message.tag?_of_startup kind] at built
    exact ⟨_, built, framed.reencoded⟩
  · intro m received
    obtain ⟨kind, framed⟩ := framed_of_receiveKind (Prod.ext received rfl)
    have built := framed.encode_eq
    obtain ⟨tag, first⟩ := Message.tag?_of_regular kind
    rw [first] at built
    exact ⟨tag, _, first, built, framed.reencoded⟩

/-- The same bytes received as either kind: both messages declare less than their length field. -/
theorem reencode_received_short :
    let t : Transport := { reads := [.data [0, 0, 0], .error (.bare .interrupted),
      .data [0, 0, 170]] }
    let first : Message := ⟨.startup, [0, 0, 0, 0], by decide⟩
    let later : Message := ⟨.regular, [0, 0, 0, 0, 0], by decide⟩
    let later' : Message := ⟨.regular, [0, 0, 0, 0, 4], by decide⟩
    (receiveStartup t).1 = .ok first ∧
      (∃ n, Message.startup first.payload = .ok n ∧ Reencoded first n) ∧
      (receive t).1 = .ok later ∧ Message.regular 0 later.payload = .ok later' ∧
      Reencoded later later' ∧ later' ≠ later := by
  intro t first later later'
  have receivedFirst : (receiveStartup t).1 = .ok first := by
    rw [receiveStartup, receiveKind_eq_parse]
    rfl
  have received : (receive t).1 = .ok later := by
    rw [receive, receiveKind_eq_parse]
    rfl
  have encoded : Message.regular 0 later.payload = .ok later' := by
    show Message.regular 0 [] = .ok later'
    rfl
  obtain ⟨tag, n, tag_eq, built, reencoded⟩ := (reencode_received t).2 later received
  obtain rfl : (0 : UInt8) = tag := Option.some.inj tag_eq
  obtain rfl : later' = n := Except.ok.inj (encoded.symm.trans built)
  refine ⟨receivedFirst, (reencode_received t).1 first receivedFirst, received, encoded, reencoded,
    fun same => ?_⟩
  have counted := reencoded.eq_iff.mp same
  exact absurd counted (by decide)

end BackendLink
