import BackendLink.Proofs.Transport.Run
import BackendLink.Proofs.Wire.Parse

/-!
# Receiving is parsing the bytes that arrive

`Message.parse` says what one receive makes of flat bytes that stop for a given reason. The two
sized reads of a receive give the same (`receiveKind_eq_parse`), so neither the places where the
stream cuts the bytes nor the interruptions in between can be seen in what is received.
-/

namespace BackendLink
open Wire ReadEvent

/-- A sized read of flat bytes behind which the stream stops. -/
def SizedRead.ofBytes (missing : Nat) (bytes : List UInt8) (stop : Shortfall) : SizedRead :=
  ⟨bytes.take missing, if missing ≤ bytes.length then none else some stop⟩

theorem SizedRead.ofBytes_append {missing : Nat} {bytes : List UInt8}
    (le : bytes.length ≤ missing) (rest : List UInt8) (stop : Shortfall) :
    SizedRead.ofBytes missing (bytes ++ rest) stop =
      ⟨bytes ++ (ofBytes (missing - bytes.length) rest stop).bytes,
        (ofBytes (missing - bytes.length) rest stop).shortfall⟩ := by
  have same : missing ≤ bytes.length + rest.length ↔ missing - bytes.length ≤ rest.length := by
    omega
  simp [ofBytes, List.take_append, List.take_of_length_le le, same]

namespace Transport

/-! ## Sized reads -/

theorem readExactly_eq (missing : Nat) (t : Transport) :
    (t.readExactly missing).1 = .ofBytes missing t.arriving t.ending := by
  fun_induction readExactly missing t with
  | case1 => simp [SizedRead.ofBytes]
  | case2 missing t positive after call =>
      obtain ⟨empty, stop⟩ := read_nothing (Nat.pos_of_ne_zero positive) call
      simp [SizedRead.ofBytes, empty, stop, positive]
  | case3 missing t positive b bytes after call rest last recursive ih =>
      obtain ⟨arrived, same⟩ := read_bytes (Nat.pos_of_ne_zero positive) call
      rw [recursive] at ih
      rw [arrived, same, SizedRead.ofBytes_append (length_le_of_read call), List.length_cons, ← ih]
  | case4 missing t positive e after call interrupted ih =>
      obtain ⟨arrived, same⟩ := read_interrupted (Nat.pos_of_ne_zero positive) call interrupted
      rw [ih, arrived, same]
  | case5 missing t positive e after call final =>
      obtain ⟨empty, stop⟩ := read_failed (Nat.pos_of_ne_zero positive) call final
      simp [SizedRead.ofBytes, empty, stop, positive]

theorem arriving_readExactly {missing : Nat} {t : Transport}
    (enough : missing ≤ t.arriving.length) :
    (t.readExactly missing).2.arriving = t.arriving.drop missing ∧
      (t.readExactly missing).2.ending = t.ending := by
  fun_induction readExactly missing t with
  | case1 => simp
  | case2 missing t positive after call =>
      obtain ⟨empty, -⟩ := read_nothing (Nat.pos_of_ne_zero positive) call
      rw [empty, List.length_nil] at enough
      omega
  | case3 missing t positive b bytes after call rest last recursive ih =>
      obtain ⟨arrived, same⟩ := read_bytes (Nat.pos_of_ne_zero positive) call
      rw [recursive] at ih
      rw [arrived, List.length_append, List.length_cons] at enough
      obtain ⟨left, ending⟩ := ih (by omega)
      refine ⟨?_, ending.trans same.symm⟩
      rw [left, arrived, List.drop_append, List.drop_of_length_le (length_le_of_read call),
        List.nil_append, List.length_cons]
  | case4 missing t positive e after call interrupted ih =>
      obtain ⟨arrived, same⟩ := read_interrupted (Nat.pos_of_ne_zero positive) call interrupted
      rw [arrived, same]
      exact ih (arrived ▸ enough)
  | case5 missing t positive e after call final =>
      obtain ⟨empty, -⟩ := read_failed (Nat.pos_of_ne_zero positive) call final
      rw [empty, List.length_nil] at enough
      omega

theorem unread_readExactly (missing : Nat) (t : Transport) :
    t.unread = (t.readExactly missing).1.bytes ++ (t.readExactly missing).2.unread := by
  fun_induction readExactly missing t with
  | case1 => rfl
  | case2 missing t positive after call =>
      have taken := unread_read missing t
      rw [call] at taken
      exact taken
  | case3 missing t positive b bytes after call rest last recursive ih =>
      have taken := unread_read missing t
      rw [call] at taken
      rw [recursive] at ih
      rw [taken, ih]
      simp [Except.toOption]
  | case4 missing t positive e after call interrupted ih =>
      have taken := unread_read missing t
      rw [call] at taken
      rw [taken]
      exact ih
  | case5 missing t positive e after call final =>
      have taken := unread_read missing t
      rw [call] at taken
      exact taken

theorem readExactly_complete {missing : Nat} {t after : Transport} {bytes : List UInt8}
    (complete : t.readExactly missing = (⟨bytes, none⟩, after)) :
    bytes.length = missing ∧ t.arriving = bytes ++ after.arriving ∧ t.ending = after.ending ∧
      t.unread = bytes ++ after.unread := by
  have whole := readExactly_eq missing t
  have taken := unread_readExactly missing t
  rw [complete] at whole taken
  simp only [SizedRead.ofBytes, SizedRead.mk.injEq] at whole
  obtain ⟨rfl, filled⟩ := whole
  have enough : missing ≤ t.arriving.length := by
    by_contra short
    simp [short] at filled
  obtain ⟨left, same⟩ := arriving_readExactly enough
  rw [complete] at left same
  refine ⟨by simpa using enough, ?_, same.symm, taken⟩
  rw [left, List.take_append_drop]

theorem readExactly_short {missing : Nat} {t after : Transport} {bytes : List UInt8}
    {stop : Shortfall} (short : t.readExactly missing = (⟨bytes, some stop⟩, after)) :
    bytes = t.arriving ∧ stop = t.ending ∧ t.arriving.length < missing := by
  have whole := readExactly_eq missing t
  rw [short] at whole
  simp only [SizedRead.ofBytes, SizedRead.mk.injEq] at whole
  obtain ⟨rfl, cut⟩ := whole
  by_cases enough : missing ≤ t.arriving.length
  · simp [enough] at cut
  · simp only [enough, if_false, Option.some.injEq] at cut
    exact ⟨List.take_of_length_le (by omega), cut, by omega⟩

/-- A sized read that is cut short takes all that the stream still holds, unless data stands behind
what cut it. -/
theorem unread_of_short {missing : Nat} {t after : Transport} {bytes : List UInt8}
    {stop : Shortfall} (short : t.readExactly missing = (⟨bytes, some stop⟩, after))
    (final : t.unread = t.arriving) : after.unread = [] := by
  obtain ⟨rfl, -, -⟩ := readExactly_short short
  have taken := t.unread_readExactly missing
  rw [short, final] at taken
  exact List.self_eq_append_right.mp taken

theorem readExactly_run (missing : Nat) (t : Transport) :
    ∃ trace, t.Run trace (t.readExactly missing).2 ∧
      trace.flatMap Call.delivered = (t.readExactly missing).1.bytes := by
  fun_induction readExactly missing t with
  | case1 => exact ⟨[], .nil _, rfl⟩
  | case2 missing t positive after call =>
      exact ⟨[.read missing (.ok [])], .cons call (.nil after), rfl⟩
  | case3 missing t positive b bytes after call rest last recursive ih =>
      obtain ⟨trace, run, delivered⟩ := ih
      rw [recursive] at run delivered
      refine ⟨.read missing (.ok (b :: bytes)) :: trace, .cons call run, ?_⟩
      rw [List.flatMap_cons, delivered]
      rfl
  | case4 missing t positive e after call interrupted ih =>
      obtain ⟨trace, run, delivered⟩ := ih
      exact ⟨.read missing (.error e) :: trace, .cons call run, delivered⟩
  | case5 missing t positive e after call final =>
      exact ⟨[.read missing (.error e)], .cons call (.nil after), rfl⟩

end Transport

/-! ## Messages -/

theorem receiveKind_eq_parse (kind : Kind) (t : Transport) :
    (receiveKind kind t).1 = Message.parse kind t.arriving t.ending := by
  unfold receiveKind
  split
  · rename_i header stop after outcome
    obtain ⟨rfl, rfl, short⟩ := Transport.readExactly_short outcome
    unfold Message.parse
    simp only [if_pos short]
    cases t.ending <;> rfl
  · rename_i header after outcome
    obtain ⟨length, arrived, same, -⟩ := Transport.readExactly_complete outcome
    have declared : (kind.declaredLength header).toNat = kind.lengthField t.arriving := by
      rw [arrived, Kind.lengthField_append length.ge, Kind.toNat_declaredLength length.ge]
    have expected : payloadLength (kind.declaredLength header) =
        max (kind.lengthField t.arriving) 4 - 4 := by
      rw [payloadLength, declared, lengthSize]
      omega
    have long : t.arriving.length = kind.headerSize + after.arriving.length := by
      rw [arrived, List.length_append, length]
    unfold Message.parse
    simp only [declared, if_neg (show ¬ t.arriving.length < kind.headerSize by omega)]
    split
    · rename_i above
      rw [if_pos (show 2 ^ 30 < kind.lengthField t.arriving from above)]
      rfl
    · rename_i within
      rw [if_neg (show ¬ 2 ^ 30 < kind.lengthField t.arriving from within)]
      split
      · rename_i payload stop last second
        obtain ⟨rfl, rfl, short⟩ := Transport.readExactly_short second
        rw [expected] at short
        rw [dif_pos (by omega), expected, long, Nat.add_sub_cancel_left, same]
        cases after.ending <;> rfl
      · rename_i payload last second
        obtain ⟨size, behind, -, -⟩ := Transport.readExactly_complete second
        rw [expected] at size
        have enough : payload.length ≤ after.arriving.length := by
          rw [behind, List.length_append]
          omega
        have bytes : t.arriving.take (kind.headerSize + (max (kind.lengthField t.arriving) 4 - 4)) =
            header ++ payload := by
          rw [← size, ← length, ← List.length_append, arrived, behind, ← List.append_assoc,
            List.take_left]
        rw [dif_neg (by omega)]
        simp only [bytes]

/-- A received message is the front of what arrives, and no more than it is taken. -/
theorem receiveKind_ok {kind : Kind} {t after : Transport} {m : Message}
    (received : receiveKind kind t = (.ok m, after)) :
    t.arriving = m.bytes ++ after.arriving ∧ t.ending = after.ending ∧
      t.unread = m.bytes ++ after.unread := by
  unfold receiveKind at received
  split at received
  · cases received
  · rename_i header mid first
    obtain ⟨-, arrived, ending, taken⟩ := Transport.readExactly_complete first
    dsimp only at received
    split at received
    · cases received
    · split at received
      · cases received
      · rename_i payload last second
        obtain ⟨-, arrived', ending', taken'⟩ := Transport.readExactly_complete second
        cases received
        simp [arrived, arrived', ending, ending', taken, taken']

theorem unread_receiveKind (kind : Kind) (t : Transport) :
    (receiveKind kind t).2.unread <:+ t.unread := by
  have header := t.unread_readExactly kind.headerSize
  unfold receiveKind
  split
  · rename_i bytes stop after first
    rw [first] at header
    exact ⟨bytes, header.symm⟩
  · rename_i bytes after first
    rw [first] at header
    have payload := after.unread_readExactly (payloadLength (kind.declaredLength bytes))
    have front : after.unread <:+ t.unread := ⟨bytes, header.symm⟩
    dsimp only
    split
    · exact front
    · split <;> rename_i more last second <;> rw [second] at payload <;>
        exact .trans ⟨_, payload.symm⟩ front

theorem unread_of_incomplete {kind : Kind} {t after : Transport} {read expected : Nat}
    (failed : receiveKind kind t = (.error (.incomplete read expected), after))
    (final : t.unread = t.arriving) : after.unread = [] := by
  unfold receiveKind at failed
  split at failed
  · rename_i header stop mid first
    obtain ⟨-, rfl⟩ := Prod.mk.inj failed
    exact Transport.unread_of_short first final
  · rename_i header mid first
    obtain ⟨-, arrived, -, taken⟩ := Transport.readExactly_complete first
    rw [final, arrived] at taken
    dsimp only at failed
    split at failed
    · cases failed
    · split at failed
      · rename_i payload stop last second
        obtain ⟨-, rfl⟩ := Prod.mk.inj failed
        exact Transport.unread_of_short second (List.append_cancel_left taken).symm
      · cases failed

/-- The reads of a receive deliver the bytes of the message that it returns and no others. -/
theorem receiveKind_run {kind : Kind} {t after : Transport} {m : Message}
    (received : receiveKind kind t = (.ok m, after)) :
    ∃ trace, t.Run trace after ∧ trace.flatMap Call.delivered = m.bytes := by
  unfold receiveKind at received
  split at received
  · cases received
  · rename_i header mid first
    obtain ⟨trace, run, delivered⟩ := t.readExactly_run kind.headerSize
    rw [first] at run delivered
    dsimp only at received
    split at received
    · cases received
    · split at received
      · cases received
      · rename_i payload last second
        obtain ⟨later, run', delivered'⟩ :=
          mid.readExactly_run (payloadLength (kind.declaredLength header))
        rw [second] at run' delivered'
        cases received
        exact ⟨_, run.append run', by rw [List.flatMap_append, delivered, delivered']⟩

theorem framed_of_receiveKind {kind : Kind} {t after : Transport} {m : Message}
    (received : receiveKind kind t = (.ok m, after)) : m.kind = kind ∧ m.Framed := by
  have parsed := receiveKind_eq_parse kind t
  rw [received] at parsed
  obtain ⟨same, -, framed⟩ := Message.parse_ok parsed.symm
  exact ⟨same, framed⟩

theorem receiveKind_framed {m : Message} (framed : m.Framed) {t : Transport} {rest : List UInt8}
    (arrives : t.arriving = m.bytes ++ rest) :
    ∃ after, receiveKind m.kind t = (.ok m, after) ∧ after.arriving = rest ∧
      t.unread = m.bytes ++ after.unread := by
  have received : receiveKind m.kind t = (.ok m, (receiveKind m.kind t).2) :=
    Prod.ext (by rw [receiveKind_eq_parse, arrives, framed.parse_append]) rfl
  obtain ⟨arrived, -, taken⟩ := receiveKind_ok received
  exact ⟨_, received, List.append_cancel_left (arrived.symm.trans arrives), taken⟩

theorem receive_eq_parse :
    (∀ t : Transport,
      (receiveStartup t).1 = Message.parse .startup t.arriving t.ending ∧
      (receive t).1 = Message.parse .regular t.arriving t.ending) ∧
    ∀ t u : Transport, t.arriving = u.arriving → t.ending = u.ending →
      (receiveStartup t).1 = (receiveStartup u).1 ∧ (receive t).1 = (receive u).1 := by
  refine ⟨fun t => ⟨receiveKind_eq_parse _ t, receiveKind_eq_parse _ t⟩, ?_⟩
  intro t u bytes stop
  constructor
  · rw [receiveStartup, receiveStartup, receiveKind_eq_parse, receiveKind_eq_parse, bytes, stop]
  · rw [receive, receive, receiveKind_eq_parse, receiveKind_eq_parse, bytes, stop]

/-- A cut inside the length, a wait, a cut inside the payload and an interruption change nothing. -/
theorem receive_cut_eq_whole :
    let cut : Transport := { reads := [.data [0], .notReady, .data [0, 0, 6, 7],
      .error (.bare .interrupted), .data [8, 9], .error (.bare .connectionReset)] }
    let whole : Transport := { reads := [.data [0, 0, 0, 6, 7, 8, 9],
      .error (.bare .connectionReset)] }
    cut.arriving = whole.arriving ∧ cut.ending = whole.ending ∧
      (receiveStartup cut).1 = (receiveStartup whole).1 ∧
      (receiveStartup whole).1 = .ok ⟨.startup, [0, 0, 0, 6, 7, 8], by decide⟩ ∧
      (receive cut).1 = .error (.readFailed 2 1539 (.bare .connectionReset)) := by
  intro cut whole
  refine ⟨rfl, rfl, (receive_eq_parse.2 cut whole rfl rfl).1, ?_, ?_⟩
  · rw [(receive_eq_parse.1 whole).1]
    rfl
  · rw [(receive_eq_parse.1 cut).2]
    rfl

end BackendLink
