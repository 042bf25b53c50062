import BackendLink.Proofs.Wire.Parse

/-!
# Messages and their parts

A message is its type byte, if it has one, its length field and its payload, in this order and with
nothing in between (`ofParts_eta`). The encoders choose the length field (`encode_eq`); a receiver
takes it as it comes.
-/

namespace BackendLink.Wire

/-- The kind of the messages with this type byte, or with none. -/
def Kind.ofTag? : Option UInt8 → Kind
  | none => .startup
  | some _ => .regular

def layout (tag : Option UInt8) (declared : UInt32) (payload : List UInt8) : List UInt8 :=
  tag.toList ++ (encodeWord declared ++ payload)

theorem encodeWord_take_append_drop {bytes : List UInt8} (four : 4 ≤ bytes.length) :
    encodeWord (decodeWord (bytes.take 4)) ++ bytes.drop 4 = bytes := by
  match bytes, four with
  | a :: b :: c :: d :: rest, _ => exact congrArg (· ++ rest) (encodeWord_decodeWord a b c d)

namespace Message

/-! ## A message from its parts -/

def ofParts (tag : Option UInt8) (declared : UInt32) (payload : List UInt8) : Message where
  kind := .ofTag? tag
  bytes := layout tag declared payload
  header_le := by cases tag <;> simp [Kind.ofTag?, layout, Kind.headerSize, lengthSize]

section
variable (tag : Option UInt8) (declared : UInt32) (payload : List UInt8)

@[simp] theorem kind_ofParts : (ofParts tag declared payload).kind = .ofTag? tag := rfl

@[simp] theorem bytes_ofParts :
    (ofParts tag declared payload).bytes = layout tag declared payload := rfl

@[simp] theorem tag?_ofParts : (ofParts tag declared payload).tag? = tag := by
  cases tag <;> rfl

@[simp] theorem declaredLength_ofParts :
    (ofParts tag declared payload).declaredLength = declared := by
  cases tag <;> exact decodeWord_encodeWord declared

@[simp] theorem payload_ofParts : (ofParts tag declared payload).payload = payload := by
  cases tag <;> rfl

theorem header_ofParts :
    (ofParts tag declared payload).header = tag.toList ++ encodeWord declared := by
  cases tag <;> rfl

end

theorem eq_of_bytes {m n : Message} (kind : m.kind = n.kind) (bytes : m.bytes = n.bytes) :
    m = n := by
  obtain ⟨_, _, _⟩ := m
  cases kind
  cases bytes
  rfl

theorem ofParts_eta (m : Message) : ofParts m.tag? m.declaredLength m.payload = m := by
  obtain ⟨kind, bytes, header_le⟩ := m
  cases kind with
  | startup => exact eq_of_bytes rfl (encodeWord_take_append_drop header_le)
  | regular =>
      cases bytes with
      | nil => cases header_le
      | cons tag rest =>
          have four : 4 ≤ rest.length := by simpa [Kind.headerSize, lengthSize] using header_le
          exact eq_of_bytes rfl (congrArg (tag :: ·) (encodeWord_take_append_drop four))

theorem kind_eq_ofTag? (m : Message) : m.kind = .ofTag? m.tag? := by
  rw [← kind_ofParts m.tag? m.declaredLength m.payload, ofParts_eta]

theorem tag?_of_startup {m : Message} (startup : m.kind = .startup) : m.tag? = none := by
  rw [tag?, startup]

theorem tag?_of_regular {m : Message} (regular : m.kind = .regular) :
    ∃ tag, m.tag? = some tag := by
  cases first : m.tag? with
  | none =>
      rw [kind_eq_ofTag?, first] at regular
      cases regular
  | some tag => exact ⟨tag, rfl⟩

theorem framed_ofParts_iff {tag : Option UInt8} {declared : UInt32} {payload : List UInt8} :
    (ofParts tag declared payload).Framed ↔
      declared.toNat ≤ sizeLimit ∧ payload.length = payloadLength declared := by
  constructor
  · rintro ⟨within, fits⟩
    simpa using And.intro within fits
  · rintro ⟨within, fits⟩
    exact ⟨by simpa using within, by simpa using fits⟩

/-! ## The encoders -/

def encode : Option UInt8 → List UInt8 → Except FrameError Message
  | none => startup
  | some tag => regular tag

theorem encode_eq (tag : Option UInt8) (payload : List UInt8) :
    encode tag payload =
      if payload.length + 4 ≤ 2 ^ 30 then
        .ok (ofParts tag (UInt32.ofNat (payload.length + 4)) payload)
      else .error (.tooLarge (min (payload.length + 4) (2 ^ 32 - 1)) (2 ^ 30)) := by
  have length := encodedLength_sizeInMemory payload
  by_cases within : payload.length + 4 ≤ 2 ^ 30
  · rw [if_pos within] at length ⊢
    cases tag <;> simp only [encode, startup, regular, length] <;> rfl
  · rw [if_neg within] at length ⊢
    cases tag <;> simp only [encode, startup, regular, length]

theorem encode_of_declared (tag : Option UInt8) {declared : UInt32} {payload : List UInt8}
    (filled : payload.length + 4 = declared.toNat) :
    encode tag payload =
      if declared.toNat ≤ 2 ^ 30 then .ok (ofParts tag declared payload)
      else .error (.tooLarge declared.toNat (2 ^ 30)) := by
  -- The declared length is a word, so the report is not cut off.
  have word : declared.toNat ≤ 2 ^ 32 - 1 := Nat.le_of_lt_succ declared.toNat_lt
  rw [encode_eq, filled, UInt32.ofNat_toNat, Nat.min_eq_left word]

theorem encode_ok {tag : Option UInt8} {payload : List UInt8} {m : Message}
    (built : encode tag payload = .ok m) :
    m = ofParts tag (UInt32.ofNat (payload.length + 4)) payload ∧
      m.declaredLength.toNat = payload.length + 4 := by
  rw [encode_eq] at built
  split at built
  · rename_i within
    obtain rfl := Except.ok.inj built
    refine ⟨rfl, ?_⟩
    rw [declaredLength_ofParts]
    exact UInt32.toNat_ofNat_of_lt' (Nat.lt_of_le_of_lt within (by decide))
  · cases built

end Message
end BackendLink.Wire
