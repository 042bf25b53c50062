import BackendLink.Proofs.Conversation
import BackendLink.Proofs.Wire.Layout

/-!
# One limit on both sides

An encoder refuses a payload whose length would be above the limit, and a receiver refuses a header
that declares one. No sum on the way wraps around (`Message.encodedLength_eq`), so the two draw the
line at the same place and report the same error (`sizeLimit_agrees`).
-/

namespace BackendLink
open Wire

/-! ## Behind a whole header -/

namespace Wire.Message

section
variable (tag : Option UInt8) (declared : UInt32) (rest : List UInt8)

theorem length_layout :
    (layout tag declared rest).length = (Kind.ofTag? tag).headerSize + rest.length := by
  cases tag <;> simp [layout, Kind.ofTag?, Kind.headerSize, lengthSize]
  omega

theorem take_layout (size : Nat) :
    (layout tag declared rest).take ((Kind.ofTag? tag).headerSize + size) =
      layout tag declared (rest.take size) := by
  cases tag <;> simp [layout, Kind.ofTag?, Kind.headerSize, lengthSize, encodeWord, Nat.add_comm]

theorem lengthField_layout :
    (Kind.ofTag? tag).lengthField (layout tag declared rest) = declared.toNat := by
  have field := declaredLength_ofParts tag declared rest
  rw [declaredLength, ← UInt32.toNat_inj, Kind.toNat_declaredLength (header_le _)] at field
  exact field

theorem parse_layout (stop : Shortfall) :
    parse (.ofTag? tag) (layout tag declared rest) stop =
      if 2 ^ 30 < declared.toNat then .error (.tooLarge declared.toNat (2 ^ 30))
      else if rest.length < payloadLength declared then
        .error (stop.error rest.length (payloadLength declared))
      else .ok (ofParts tag declared (rest.take (payloadLength declared))) := by
  have length := length_layout tag declared rest
  have size : max declared.toNat 4 - 4 = payloadLength declared := by
    rw [payloadLength, lengthSize]
    omega
  unfold parse
  simp only [lengthField_layout, size]
  rw [if_neg (by omega)]
  split
  · rfl
  · split <;> rename_i short
    · rw [if_pos (by omega), length, Nat.add_sub_cancel_left]
      cases stop <;> rfl
    · rw [if_neg (by omega)]
      exact congrArg Except.ok (eq_of_bytes rfl (take_layout tag declared rest _))

end

end Wire.Message

/-- The length was accepted: what comes of the receive is up to a payload of `size` bytes. -/
def PastLimit (size : Nat) : Except FrameError Message → Prop
  | .ok m => m.payload.length = size
  | .error err => ∃ read < size, err = .incomplete read size ∨ ∃ e, err = .readFailed read size e

theorem receiveNext_of_arriving {tag : Option UInt8} {declared : UInt32} {rest : List UInt8}
    {t : Transport} (arrives : t.arriving = layout tag declared rest) :
    (declared.toNat ≤ 2 ^ 30 →
      PastLimit (payloadLength declared) (receiveNext (.ofTag? tag) t).1) ∧
    (2 ^ 30 < declared.toNat →
      (receiveNext (.ofTag? tag) t).1 = .error (.tooLarge declared.toNat (2 ^ 30))) := by
  rw [receiveNext_eq, receiveKind_eq_parse, arrives, Message.parse_layout]
  constructor
  · intro within
    rw [if_neg (Nat.not_lt.mpr within)]
    split <;> rename_i short
    · refine ⟨_, short, ?_⟩
      cases t.ending with
      | endOfStream => exact .inl rfl
      | failed e => exact .inr ⟨e, rfl⟩
    · show (Message.ofParts _ _ _).payload.length = _
      rw [Message.payload_ofParts, List.length_take]
      omega
  · intro above
    rw [if_pos above]

/-! ## Both sides -/

theorem sizeLimit_agrees :
    (∀ size : UInt64, encodedLength size =
      if size.toNat + 4 ≤ 2 ^ 30 then .ok (UInt32.ofNat (size.toNat + 4))
      else .error (.tooLarge (min (size.toNat + 4) (2 ^ 32 - 1)) (2 ^ 30))) ∧
    (∀ (tag : Option UInt8) (payload : List UInt8),
      (payload.length + 4 ≤ 2 ^ 30 → ∃ m, Message.encode tag payload = .ok m ∧
        m.declaredLength.toNat = payload.length + 4) ∧
      (2 ^ 30 < payload.length + 4 → Message.encode tag payload =
        .error (.tooLarge (min (payload.length + 4) (2 ^ 32 - 1)) (2 ^ 30)))) ∧
    ∀ (first tag : Option UInt8) (declared : UInt32) (payload rest : List UInt8) (t : Transport),
      4 ≤ declared.toNat → payload.length = declared.toNat - 4 →
      t.arriving = layout first declared rest →
      ((∃ m, Message.encode tag payload = .ok m) ↔
        PastLimit payload.length (receiveNext (.ofTag? first) t).1) ∧
      ∀ err, Message.encode tag payload = .error err →
        (receiveNext (.ofTag? first) t).1 = .error err := by
  refine ⟨Message.encodedLength_eq, fun tag payload => ?_, ?_⟩
  · have built := Message.encode_eq tag payload
    constructor
    · intro within
      rw [if_pos within] at built
      exact ⟨_, built, (Message.encode_ok built).2⟩
    · intro above
      rwa [if_neg (Nat.not_le.mpr above)] at built
  · intro first tag declared payload rest t counted size arrives
    obtain ⟨past, refused⟩ := receiveNext_of_arriving arrives
    rw [payloadLength, lengthSize, ← size] at past
    have filled : payload.length + 4 = declared.toNat := by omega
    have built := Message.encode_of_declared tag filled
    by_cases within : declared.toNat ≤ 2 ^ 30
    · rw [if_pos within] at built
      simp [built, past within]
    · rw [if_neg within] at built
      have same := refused (Nat.not_le.mp within)
      simp [built, same, PastLimit]

/-- One byte above the limit: both sides report the length and the limit. -/
theorem sizeLimit_agrees_above :
    let t : Transport := { reads := [.data [68, 64], .notReady, .data [0, 0, 1]] }
    t.arriving = layout (some 68) 0x40000001 [] ∧
      ∃ payload : List UInt8, payload.length = 0x40000001 - 4 ∧
        Message.startup payload = .error (.tooLarge (2 ^ 30 + 1) (2 ^ 30)) ∧
        (receive t).1 = .error (.tooLarge (2 ^ 30 + 1) (2 ^ 30)) := by
  intro t
  have arrives : t.arriving = layout (some 68) 0x40000001 [] := rfl
  obtain ⟨payload, length⟩ : ∃ payload : List UInt8, payload.length = 0x40000001 - 4 :=
    ⟨List.replicate _ 0, List.length_replicate⟩
  obtain ⟨-, encoders, receivers⟩ := sizeLimit_agrees
  have refused : Message.startup payload = .error (.tooLarge (2 ^ 30 + 1) (2 ^ 30)) := by
    have report := (encoders none payload).2 (by omega)
    rwa [length] at report
  obtain ⟨-, same⟩ := receivers (some 68) none 0x40000001 payload [] t (by decide) length arrives
  exact ⟨arrives, payload, length, refused, same _ refused⟩

end BackendLink
