import BackendLink.Proofs.Conversation

/-!
# Sends that break off

Sends that stop at their first failure leave whole messages on the stream and, when a write failed,
the front of one more (`sendUntilFailure_written`). A peer that reads up to the end of the stream
gets the whole ones; its next receive tells how much of the torn one was there, and no receive after
it returns a message (`receiveEach_torn`).
-/

namespace BackendLink
open Wire

/-! ## The sender -/

/-- Sends messages up to the first send that fails, and says why it failed. -/
def sendUntilFailure : List Message → Transport → Option FrameError × Transport
  | [], t => (none, t)
  | m :: messages, t =>
    match send m.bytes t with
    | (.error e, last) => (some e, last)
    | (.ok _, after) => sendUntilFailure messages after

/-- The front of the next message, but not all of it. -/
def Torn : List Message → List UInt8 → Prop
  | [], torn => torn = []
  | next :: _, torn => torn <+: next.bytes ∧ torn.length < next.size

theorem size_pos (m : Message) : 0 < m.size := by
  have four := m.kind.four_le_headerSize
  have header := m.header_le
  rw [Message.size]
  omega

theorem torn_nil (messages : List Message) : Torn messages [] := by
  cases messages with
  | nil => rfl
  | cons next _ => exact ⟨List.nil_prefix, size_pos next⟩

theorem sendUntilFailure_written (messages : List Message) (t : Transport) :
    ∃ complete rest torn, messages = complete ++ rest ∧ Torn rest torn ∧
      (sendUntilFailure messages t).2.written =
        t.written ++ (complete.flatMap Message.bytes ++ torn) ∧
      ((sendUntilFailure messages t).1 = none → rest = []) := by
  induction messages generalizing t with
  | nil => exact ⟨[], [], [], rfl, rfl, (List.append_nil _).symm, fun _ => rfl⟩
  | cons m messages ih =>
      obtain ⟨trace, sending, run⟩ := send_sending m.bytes t
      unfold sendUntilFailure
      split
      · rename_i e last failed
        rw [failed] at sending run
        cases sending with
        | stopped writes =>
            refine ⟨[], m :: messages, trace.flatMap Call.written, rfl,
              ⟨writes.written_prefix, writes.written_lt rfl⟩, run.written, ?_⟩
            intro sent
            cases sent
        | @unflushed trace e writes =>
            -- The flush came behind the last byte, so this message is whole.
            refine ⟨[m], messages, [], rfl, torn_nil messages, ?_, ?_⟩
            · rw [run.written, List.flatMap_append, writes.written_ok rfl]
              simp [Call.written]
            · intro sent
              cases sent
      · rename_i size after sent
        rw [sent] at sending run
        obtain ⟨-, writes, rfl, -, written⟩ := sending.complete
        obtain ⟨complete, rest, torn, rfl, cut, left, whole⟩ := ih after
        refine ⟨m :: complete, rest, torn, rfl, cut, ?_, whole⟩
        rw [left, run.written, List.flatMap_append, written, List.flatMap_cons]
        simp [Call.written]

/-! ## The peer -/

/-- All that arrives is `bytes`, and no data stands behind the end of the stream. -/
structure Transport.EndsAfter (t : Transport) (bytes : List UInt8) : Prop where
  arriving : t.arriving = bytes
  ending : t.ending = .endOfStream
  unread : t.unread = bytes

/-- Every script without an end of its own ends where its data does. -/
theorem Transport.endsAfter_of_goesOn {t : Transport} (flowing : ∀ event ∈ t.reads, event.goesOn) :
    t.EndsAfter t.unread where
  arriving := ReadEvent.arriving_eq_pending flowing
  ending := by
    have none : t.reads.find? (fun event => !event.goesOn) = none := by simpa using flowing
    rw [Transport.ending, ReadEvent.ending, none]
  unread := rfl

theorem receiveEach_exhausted {t : Transport} (empty : t.unread = []) (kinds : List Kind) :
    ∀ answer ∈ (receiveEach kinds t).1, ∀ m, answer ≠ .ok m := by
  induction kinds generalizing t with
  | nil => simp [receiveEach, inTurn]
  | cons kind kinds ih =>
      rw [receiveEach_cons]
      intro answer member m
      rcases List.mem_cons.mp member with rfl | member
      · intro received
        obtain ⟨-, -, taken⟩ := receiveKind_ok (Prod.ext received rfl)
        have size := size_pos m
        rw [empty] at taken
        rw [Message.size, (List.append_eq_nil_iff.mp taken.symm).1] at size
        exact Nat.lt_irrefl 0 size
      · have left := unread_receiveKind kind t
        rw [empty] at left
        exact ih (List.suffix_nil.mp left) answer member m

theorem Received.ending {kinds : List Kind} {messages : List Message} {t after : Transport}
    (received : Received kinds t messages after) : after.ending = t.ending := by
  induction received with
  | nil t => rfl
  | cons first others ih =>
      obtain ⟨-, same, -⟩ := receiveKind_ok first
      rw [ih, same]

/-- Receives for the kinds of `complete` return these messages; the next one, for `kind`, fails with
`error`, and no later one returns a message. -/
def ReceivesUpTo (t : Transport) (complete : List Message) (kind : Kind) (error : FrameError) :
    Prop :=
  ∀ later, ∃ failures after,
    receiveEach (complete.map Message.kind ++ kind :: later) t =
      (complete.map .ok ++ .error error :: failures, after) ∧
    ∀ answer ∈ failures, ∀ m, answer ≠ .ok m

theorem receivesUpTo_of_parse {complete : List Message} (framed : ∀ m ∈ complete, m.Framed)
    {t : Transport} {torn : List UInt8}
    (ends : t.EndsAfter (complete.flatMap Message.bytes ++ torn)) {kind : Kind}
    {read expected : Nat}
    (parsed : Message.parse kind torn .endOfStream = .error (.incomplete read expected)) :
    ReceivesUpTo t complete kind (.incomplete read expected) := by
  intro later
  obtain ⟨mid, received, left, taken⟩ := receiveEach_framed framed ends.arriving
  have final : mid.unread = mid.arriving := by
    rw [ends.unread] at taken
    rw [left, List.append_cancel_left taken]
  have failed : (receiveKind kind mid).1 = .error (.incomplete read expected) := by
    rw [receiveKind_eq_parse, left, (received_of_receiveEach received).ending, ends.ending, parsed]
  have empty := unread_of_incomplete (Prod.ext failed rfl) final
  refine ⟨_, (receiveEach later (receiveKind kind mid).2).2, ?_, receiveEach_exhausted empty later⟩
  rw [receiveEach, inTurn_append, ← receiveEach, received, receiveEach_cons, failed]

/-! ## Both sides -/

theorem receiveEach_torn {messages : List Message} {sent : List UInt8}
    {sender receiver : Transport} (encoded : ∀ m ∈ messages, m.Encoded)
    (written : (sendUntilFailure messages sender).2.written = sender.written ++ sent)
    (ends : receiver.EndsAfter sent) :
    ∃ complete rest torn, messages = complete ++ rest ∧
      sent = complete.flatMap Message.bytes ++ torn ∧
      ((sendUntilFailure messages sender).1 = none → rest = []) ∧
      (torn = [] → ∀ kind, ReceivesUpTo receiver complete kind (.incomplete 0 kind.headerSize)) ∧
      (torn ≠ [] → ∃ next others, rest = next :: others ∧
        torn <+: next.bytes ∧ torn.length < next.size ∧
        ReceivesUpTo receiver complete next.kind (
          if torn.length < next.kind.headerSize then .incomplete torn.length next.kind.headerSize
          else .incomplete (torn.length - next.kind.headerSize) next.payload.length)) := by
  obtain ⟨complete, rest, torn, rfl, cut, reached, whole⟩ :=
    sendUntilFailure_written messages sender
  obtain rfl : sent = complete.flatMap Message.bytes ++ torn :=
    List.append_cancel_left (written.symm.trans reached)
  have framed : ∀ m ∈ complete ++ rest, m.Framed := fun m member => (encoded m member).framed
  have framedComplete : ∀ m ∈ complete, m.Framed := fun m member =>
    framed m (List.mem_append_left rest member)
  refine ⟨complete, rest, torn, rfl, rfl, whole, ?_, ?_⟩
  · rintro rfl kind
    have header : Message.parse kind [] .endOfStream = .error (.incomplete 0 kind.headerSize) := by
      cases kind <;> rfl
    exact receivesUpTo_of_parse framedComplete ends header
  · intro nonempty
    cases rest with
    | nil => exact absurd cut nonempty
    | cons next others =>
        obtain ⟨front, short⟩ := cut
        refine ⟨next, others, rfl, front, short, ?_⟩
        have parsed := (framed next (by simp)).parse_torn front short
        split at parsed <;> rename_i header
        · rw [if_pos header]
          exact receivesUpTo_of_parse framedComplete ends parsed
        · rw [if_neg header]
          exact receivesUpTo_of_parse framedComplete ends parsed

/-- A write fails one byte before the end of the second message, behind its header. -/
theorem receiveEach_torn_payload :
    let first : Message := ⟨.startup, [0, 0, 0, 5, 9], by decide⟩
    let second : Message := ⟨.regular, [81, 0, 0, 0, 6, 7, 8], by decide⟩
    let sender : Transport := { writes := [.room 3, .room 9, .room 6, .error (.bare .brokenPipe)] }
    let receiver : Transport := { reads := [.data [0, 0, 0, 5, 9, 81, 0], .notReady,
      .data [0, 0, 6, 7]] }
    first.Encoded ∧ second.Encoded ∧
      (sendUntilFailure [first, second] sender).1 = some (.transport (.bare .brokenPipe)) ∧
      receiver.EndsAfter (sendUntilFailure [first, second] sender).2.written ∧
      ReceivesUpTo receiver [first] .regular (.incomplete 1 2) := by
  intro first second sender receiver
  have firstEncoded : first.Encoded := .inl ⟨[9], rfl⟩
  have secondEncoded : second.Encoded := .inr ⟨81, [7, 8], rfl⟩
  have encoded : ∀ m ∈ [first, second], m.Encoded := by simp [firstEncoded, secondEncoded]
  have failed : (sendUntilFailure [first, second] sender).1 =
      some (.transport (.bare .brokenPipe)) := by decide +kernel
  have written : (sendUntilFailure [first, second] sender).2.written =
      sender.written ++ [0, 0, 0, 5, 9, 81, 0, 0, 0, 6, 7] := by decide +kernel
  have ends : receiver.EndsAfter [0, 0, 0, 5, 9, 81, 0, 0, 0, 6, 7] :=
    Transport.endsAfter_of_goesOn (by decide)
  refine ⟨firstEncoded, secondEncoded, failed, written ▸ ends, ?_⟩
  obtain ⟨complete, rest, torn, messages, sent, -, whole, cut⟩ :=
    receiveEach_torn encoded written ends
  rcases complete with _ | ⟨a, _ | ⟨b, complete⟩⟩
  · obtain rfl : _ = torn := sent
    obtain ⟨next, others, parts, -, short, -⟩ := cut (by simp)
    obtain ⟨rfl, -⟩ := List.cons.inj (messages.trans parts)
    exact absurd short (by decide)
  · obtain ⟨rfl, rfl⟩ := List.cons.inj messages
    have parts : first.bytes ++ [81, 0, 0, 0, 6, 7] = first.bytes ++ torn := sent
    obtain rfl := List.append_cancel_left parts
    obtain ⟨next, others, parts, -, -, received⟩ := cut (by simp)
    obtain ⟨rfl, -⟩ := List.cons.inj parts
    exact received
  · obtain ⟨rfl, others⟩ := List.cons.inj messages
    obtain ⟨rfl, -⟩ := List.cons.inj others
    have size := congrArg List.length sent
    simp [first, second] at size

end BackendLink
