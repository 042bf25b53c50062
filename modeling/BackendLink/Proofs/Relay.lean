import BackendLink.Proofs.Conversation

/-!
# Relaying

Messages that were received may be sent on as they are. Whatever bytes they were read off, they are
those bytes (`Received.consumed`) and frame themselves again (`Received.frames`), so sending them on
loses nothing and the next receiver gets the same messages (`relay_lossless`).
-/

namespace BackendLink
open Wire

/-- The messages are the bytes that the reads took off the stream, with nothing lost in between. -/
theorem Received.consumed {kinds : List Kind} {messages : List Message} {t after : Transport}
    (received : Received kinds t messages after) :
    t.unread = messages.flatMap Message.bytes ++ after.unread ∧
      ∃ trace, t.Run trace after ∧
        trace.flatMap Call.delivered = messages.flatMap Message.bytes := by
  induction received with
  | nil t => exact ⟨rfl, [], .nil t, rfl⟩
  | cons first others ih =>
      obtain ⟨-, -, taken⟩ := receiveKind_ok first
      obtain ⟨trace, run, delivered⟩ := receiveKind_run first
      obtain ⟨takenRest, later, runRest, deliveredRest⟩ := ih
      refine ⟨?_, trace ++ later, run.append runRest, ?_⟩
      · rw [taken, takenRest, List.flatMap_cons, List.append_assoc]
      · rw [List.flatMap_append, delivered, deliveredRest, List.flatMap_cons]

theorem Received.frames {kinds : List Kind} {messages : List Message} {t after : Transport}
    (received : Received kinds t messages after) :
    messages.map Message.kind = kinds ∧ ∀ m ∈ messages, m.Framed := by
  induction received with
  | nil t => exact ⟨rfl, by simp⟩
  | cons first others ih =>
      obtain ⟨same, framed⟩ := framed_of_receiveKind first
      obtain ⟨sameRest, framedRest⟩ := ih
      exact ⟨by rw [List.map_cons, same, sameRest], List.forall_mem_cons.mpr ⟨framed, framedRest⟩⟩

theorem relay_lossless {kinds : List Kind} {messages : List Message} {source after : Transport}
    (received : receiveEach kinds source = (messages.map .ok, after)) :
    (source.unread = messages.flatMap Message.bytes ++ after.unread ∧
      ∃ trace, source.Run trace after ∧
        trace.flatMap Call.delivered = messages.flatMap Message.bytes) ∧
    ∀ (sender : Transport) (sent : List UInt8), (∀ event ∈ sender.writes, event.accepts) →
      (sendEach messages sender).2.written = sender.written ++ sent →
      sent = messages.flatMap Message.bytes ∧
      ((∀ event ∈ sender.flushes, event.succeeds) →
        (sendEach messages sender).1 = messages.map fun m => .ok m.size) ∧
      ∀ (receiver : Transport) (rest : List UInt8), receiver.arriving = sent ++ rest →
        ∃ last, receiveEach kinds receiver = (messages.map .ok, last) ∧
          last.arriving = rest ∧ receiver.unread = sent ++ last.unread := by
  have received := received_of_receiveEach received
  refine ⟨received.consumed, ?_⟩
  intro sender sent accepting written
  rw [written_sendEach messages accepting] at written
  obtain rfl := List.append_cancel_left written
  refine ⟨rfl, sendEach_ok messages accepting, ?_⟩
  intro receiver rest arrives
  obtain ⟨rfl, framed⟩ := received.frames
  exact receiveEach_framed framed arrives

/-- Two of the messages declare lengths that do not count themselves; the chunks that arrive cut the
first one and join the others. -/
theorem relay_lossless_short_lengths :
    let stub : Message := ⟨.regular, [88, 0, 0, 0, 2], by decide⟩
    let empty : Message := ⟨.startup, [0, 0, 0, 0], by decide⟩
    let whole : Message := ⟨.regular, [81, 0, 0, 0, 5, 7], by decide⟩
    let source : Transport := { reads := [.data [88, 0], .error (.bare .interrupted),
      .data [0, 0, 2, 0, 0, 0, 0, 81], .notReady, .data [0, 0, 0, 5, 7, 170]] }
    let sender : Transport := { writes := [.room 2, .notReady, .room 1] }
    let receiver : Transport := { reads := [.data [88, 0, 0, 0, 2, 0], .notReady,
      .data [0, 0, 0, 81, 0, 0, 0, 5, 7]] }
    ∃ after last,
      receiveEach [.regular, .startup, .regular] source = ([.ok stub, .ok empty, .ok whole], after) ∧
      after.unread = [170] ∧ (∀ event ∈ sender.writes, event.accepts) ∧
      (sendEach [stub, empty, whole] sender).1 = [.ok 5, .ok 4, .ok 6] ∧
      receiver.unread = (sendEach [stub, empty, whole] sender).2.written ∧
      receiveEach [.regular, .startup, .regular] receiver =
        ([.ok stub, .ok empty, .ok whole], last) := by
  intro stub empty whole source sender receiver
  have framed : ∀ m ∈ [stub, empty, whole], m.Framed := by
    have stubFramed : stub.Framed := ⟨by decide, by decide⟩
    have emptyFramed : empty.Framed := ⟨by decide, by decide⟩
    have wholeFramed : whole.Framed := ⟨by decide, by decide⟩
    simp [stubFramed, emptyFramed, wholeFramed]
  have accepting : ∀ event ∈ sender.writes, event.accepts := by decide
  have written := written_sendEach [stub, empty, whole] accepting
  have arrives : source.arriving = [stub, empty, whole].flatMap Message.bytes ++ [170] := rfl
  have arrived : source.unread = [stub, empty, whole].flatMap Message.bytes ++ [170] := rfl
  obtain ⟨after, received, -, left⟩ := receiveEach_framed framed arrives
  rw [arrived] at left
  obtain ⟨-, relayed⟩ := relay_lossless received
  obtain ⟨-, answers, again⟩ := relayed sender _ accepting written
  obtain ⟨last, receivedAgain, -⟩ := again receiver [] rfl
  exact ⟨after, last, received, (List.append_cancel_left left).symm, accepting,
    answers (by decide), written ▸ rfl, receivedAgain⟩

end BackendLink
