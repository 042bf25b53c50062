import BackendLink.Proofs.Transport.Receive
import BackendLink.Proofs.Transport.Send

/-!
# Conversations

Messages that are sent one after the other are received one after the other. Over writes that never
fail the sends put the messages on the stream back to back (`written_sendEach`); as many receives
take those bytes off it and no others, wherever they were cut in between (`receiveEach_framed`).
-/

namespace BackendLink
open Wire

def inTurn {Item Answer : Type} (act : Item → Transport → Answer × Transport) :
    List Item → Transport → List Answer × Transport
  | [], t => ([], t)
  | item :: items, t =>
    let (answer, after) := act item t
    let (answers, last) := inTurn act items after
    (answer :: answers, last)

theorem inTurn_append {Item Answer : Type} (act : Item → Transport → Answer × Transport)
    (items more : List Item) (t : Transport) :
    inTurn act (items ++ more) t =
      ((inTurn act items t).1 ++ (inTurn act more (inTurn act items t).2).1,
        (inTurn act more (inTurn act items t).2).2) := by
  induction items generalizing t with
  | nil => rfl
  | cons item items ih => simp [inTurn, ih]

def sendEach : List Message → Transport → List (Except FrameError Nat) × Transport :=
  inTurn fun m => send m.bytes

/-- The receive for the next message, by the kind that is expected. -/
def receiveNext : Kind → Transport → Except FrameError Message × Transport
  | .startup => receiveStartup
  | .regular => receive

theorem receiveNext_eq (kind : Kind) (t : Transport) : receiveNext kind t = receiveKind kind t := by
  cases kind <;> rfl

def receiveEach : List Kind → Transport → List (Except FrameError Message) × Transport :=
  inTurn receiveNext

theorem sendEach_cons (m : Message) (messages : List Message) (t : Transport) :
    sendEach (m :: messages) t =
      ((send m.bytes t).1 :: (sendEach messages (send m.bytes t).2).1,
        (sendEach messages (send m.bytes t).2).2) := rfl

theorem receiveEach_cons (kind : Kind) (kinds : List Kind) (t : Transport) :
    receiveEach (kind :: kinds) t =
      ((receiveKind kind t).1 :: (receiveEach kinds (receiveKind kind t).2).1,
        (receiveEach kinds (receiveKind kind t).2).2) := by
  cases kind <;> rfl

/-! ## The sender -/

theorem written_sendEach (messages : List Message) {t : Transport}
    (accepting : ∀ event ∈ t.writes, event.accepts) :
    (sendEach messages t).2.written = t.written ++ messages.flatMap Message.bytes := by
  induction messages generalizing t with
  | nil => exact (List.append_nil _).symm
  | cons m messages ih =>
      obtain ⟨written, others⟩ := send_accepts m.bytes accepting
      rw [sendEach_cons, ih others, written, List.flatMap_cons, List.append_assoc]

theorem sendEach_ok (messages : List Message) {t : Transport}
    (accepting : ∀ event ∈ t.writes, event.accepts)
    (flushing : ∀ event ∈ t.flushes, event.succeeds) :
    (sendEach messages t).1 = messages.map fun m => .ok m.size := by
  induction messages generalizing t with
  | nil => rfl
  | cons m messages ih =>
      obtain ⟨-, others⟩ := send_accepts m.bytes accepting
      obtain ⟨sent, left⟩ := send_ok m.bytes accepting flushing
      rw [sendEach_cons, ih others left, sent, List.map_cons, Message.size]

/-! ## The receiver -/

/-- The receives for the kinds return the messages, one after the other. -/
inductive Received : List Kind → Transport → List Message → Transport → Prop
  | nil (t : Transport) : Received [] t [] t
  | cons {kind : Kind} {kinds : List Kind} {m : Message} {messages : List Message}
      {t mid after : Transport} (first : receiveKind kind t = (.ok m, mid))
      (others : Received kinds mid messages after) : Received (kind :: kinds) t (m :: messages) after

theorem received_of_receiveEach {kinds : List Kind} {messages : List Message} {t after : Transport}
    (received : receiveEach kinds t = (messages.map .ok, after)) :
    Received kinds t messages after := by
  induction kinds generalizing messages t with
  | nil =>
      obtain ⟨answers, rfl⟩ := Prod.mk.inj received
      obtain rfl := List.map_eq_nil_iff.mp answers.symm
      exact .nil t
  | cons kind kinds ih =>
      rw [receiveEach_cons] at received
      obtain ⟨answers, last⟩ := Prod.mk.inj received
      cases messages with
      | nil => cases answers
      | cons m messages =>
          obtain ⟨first, others⟩ := List.cons.inj answers
          exact .cons (Prod.ext first rfl) (ih (Prod.ext others last))

theorem receiveEach_framed {messages : List Message} (framed : ∀ m ∈ messages, m.Framed)
    {t : Transport} {rest : List UInt8}
    (arrives : t.arriving = messages.flatMap Message.bytes ++ rest) :
    ∃ after, receiveEach (messages.map Message.kind) t = (messages.map .ok, after) ∧
      after.arriving = rest ∧ t.unread = messages.flatMap Message.bytes ++ after.unread := by
  induction messages generalizing t with
  | nil => exact ⟨t, rfl, arrives, rfl⟩
  | cons m messages ih =>
      obtain ⟨first, others⟩ := List.forall_mem_cons.mp framed
      rw [List.flatMap_cons, List.append_assoc] at arrives
      obtain ⟨mid, received, left, taken⟩ := receiveKind_framed first arrives
      obtain ⟨after, receivedRest, leftRest, takenRest⟩ := ih others left
      refine ⟨after, ?_, leftRest, ?_⟩
      · rw [List.map_cons, receiveEach_cons, received]
        dsimp only
        rw [receivedRest, List.map_cons]
      · rw [taken, takenRest, List.flatMap_cons, List.append_assoc]

/-! ## Both sides -/

theorem receiveEach_sendEach {messages : List Message} {sent suffix : List UInt8}
    {sender receiver : Transport} (encoded : ∀ m ∈ messages, m.Encoded)
    (accepting : ∀ event ∈ sender.writes, event.accepts)
    (written : (sendEach messages sender).2.written = sender.written ++ sent)
    (flowing : ∀ event ∈ receiver.reads, event.goesOn)
    (delivered : receiver.unread = sent ++ suffix) :
    ((∀ event ∈ sender.flushes, event.succeeds) →
      (sendEach messages sender).1 = messages.map fun m => .ok m.size) ∧
    ∃ after, receiveEach (messages.map Message.kind) receiver = (messages.map .ok, after) ∧
      after.arriving = suffix ∧ after.unread = suffix := by
  refine ⟨sendEach_ok messages accepting, ?_⟩
  rw [written_sendEach messages accepting] at written
  have bytes := List.append_cancel_left written
  have arrives : receiver.arriving = messages.flatMap Message.bytes ++ suffix := by
    rw [bytes, ← delivered]
    exact ReadEvent.arriving_eq_pending flowing
  obtain ⟨after, received, left, taken⟩ :=
    receiveEach_framed (fun m member => (encoded m member).framed) arrives
  refine ⟨after, received, left, ?_⟩
  rw [delivered, ← bytes] at taken
  exact (List.append_cancel_left taken).symm

/-- Two messages, written in three pieces, of which the middle chunk that arrives holds the end of
the first and the front of the second. -/
theorem receiveEach_sendEach_straddling :
    let first : Message := ⟨.startup, [0, 0, 0, 5, 7], by decide⟩
    let second : Message := ⟨.regular, [81, 0, 0, 0, 4], by decide⟩
    let sender : Transport := { writes := [.room 3, .notReady, .room 1], flushes := [.notReady] }
    let receiver : Transport := { reads := [.data [0, 0], .error (.bare .interrupted),
      .data [0, 5, 7, 81, 0], .notReady, .data [0, 0, 4, 9]] }
    first.Encoded ∧ second.Encoded ∧ (∀ event ∈ sender.writes, event.accepts) ∧
      (∀ event ∈ receiver.reads, event.goesOn) ∧
      receiver.unread = (sendEach [first, second] sender).2.written ++ [9] ∧
      (sendEach [first, second] sender).1 = [.ok 5, .ok 5] ∧
      ∃ after, receiveEach [.startup, .regular] receiver = ([.ok first, .ok second], after) ∧
        after.unread = [9] := by
  intro first second sender receiver
  have firstEncoded : first.Encoded := .inl ⟨[7], rfl⟩
  have secondEncoded : second.Encoded := .inr ⟨81, [], rfl⟩
  have encoded : ∀ m ∈ [first, second], m.Encoded := by simp [firstEncoded, secondEncoded]
  have accepting : ∀ event ∈ sender.writes, event.accepts := by decide
  have flowing : ∀ event ∈ receiver.reads, event.goesOn := by decide
  have written := written_sendEach [first, second] accepting
  have delivered : receiver.unread = [first, second].flatMap Message.bytes ++ [9] := rfl
  obtain ⟨sent, after, received, -, left⟩ :=
    receiveEach_sendEach encoded accepting written flowing delivered
  exact ⟨firstEncoded, secondEncoded, accepting, flowing, written ▸ rfl, sent (by decide),
    after, received, left⟩

end BackendLink
