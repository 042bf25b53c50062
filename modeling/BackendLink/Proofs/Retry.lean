import BackendLink.Proofs.Conversation
import BackendLink.Proofs.Transport.Accounting
import BackendLink.Proofs.Transport.Delivery

/-!
# Failures that another attempt may mend

A call that fails ends the send or the receive it is part of, and its error is the one reported. What
a send reports may always be tried again; what a receive reports only where the peer went away, so
the two are judged alike for no other kind of error (`isRetryable_of_hit_iff`).
-/

namespace BackendLink
open Wire Transport

/-- The error that a call answered with. -/
def Call.error? : Call → Option IoError
  | .read _ (.error e) | .write _ (.error e) | .flush (.error e) | .shutdown (.error e) => some e
  | _ => none

/-! ## Where a row of calls fails -/

section
variable {e : IoError} {call : Call} {trace : List Call}

theorem Call.failure?_of_error (sends : call.sends) (hit : call.error? = some e)
    (final : ¬ e.isInterrupted) : call.failure? = some e := by
  cases call with
  | read => cases sends
  | shutdown => cases sends
  | write offered result =>
      cases result with
      | error other =>
          obtain rfl := Option.some.inj hit
          exact if_neg final
      | ok => cases hit
  | flush result =>
      cases result with
      | error other => exact hit
      | ok => cases hit

theorem Sending.stopped_of_error {bytes : List UInt8} {result : Except FrameError Nat}
    (sending : Sending bytes trace result) (member : call ∈ trace) (hit : call.error? = some e)
    (final : ¬ e.isInterrupted) : result = .error (.transport e) := by
  have failed := Call.failure?_of_error (sending.sends call member) hit final
  exact (sending.failed_iff _).mpr ⟨e, rfl, stoppedBy_of_mem sending.passed member failed⟩

theorem Reading.stopped_of_error {missing : Nat} {outcome : SizedRead}
    (reading : Reading missing trace outcome) (member : call ∈ trace) (hit : call.error? = some e)
    (final : ¬ e.isInterrupted) : outcome.shortfall = some (.failed e) := by
  induction reading with
  | done => cases member
  | delivered _ _ ih =>
      rcases List.mem_cons.mp member with rfl | later
      · cases hit
      · exact ih later
  | interrupted _ again _ ih =>
      rcases List.mem_cons.mp member with rfl | later
      · obtain rfl := Option.some.inj hit
        exact absurd again final
      · exact ih later
  | ended =>
      obtain rfl := List.mem_singleton.mp member
      cases hit
  | failed =>
      obtain rfl := List.mem_singleton.mp member
      rw [Option.some.inj hit]

end

/-! ## Sends and receives -/

/-- One of the calls was answered with the error. -/
def Meets (e : IoError) (trace : List Call) : Prop := ∃ call ∈ trace, call.error? = some e

theorem send_meets {e : IoError} (final : ¬ e.isInterrupted) (bytes : List UInt8) (t : Transport) :
    ∃ trace, t.Run trace (send bytes t).2 ∧
      (Meets e trace → (send bytes t).1 = .error (.transport e)) := by
  obtain ⟨trace, sending, run⟩ := send_sending bytes t
  refine ⟨trace, run, ?_⟩
  rintro ⟨call, member, hit⟩
  exact sending.stopped_of_error member hit final

theorem receiveKind_meets {e : IoError} (final : ¬ e.isInterrupted) (kind : Kind)
    (t : Transport) : ∃ trace, t.Run trace (receiveKind kind t).2 ∧
      (Meets e trace → ∃ read expected,
        (receiveKind kind t).1 = .error (.readFailed read expected e)) := by
  obtain ⟨header, first, run⟩ := t.readExactly_reading kind.headerSize
  unfold receiveKind
  split
  · rename_i read stop after outcome
    rw [outcome] at first run
    refine ⟨header, run, ?_⟩
    rintro ⟨call, member, hit⟩
    obtain rfl := Option.some.inj (first.stopped_of_error member hit final)
    exact ⟨_, _, rfl⟩
  · rename_i read after outcome
    rw [outcome] at first run
    have whole : ¬ Meets e header := by
      rintro ⟨call, member, hit⟩
      cases first.stopped_of_error member hit final
    dsimp only
    split
    · exact ⟨header, run, fun met => absurd met whole⟩
    · obtain ⟨payload, second, run'⟩ :=
        after.readExactly_reading (payloadLength (kind.declaredLength read))
      have stopped (met : Meets e (header ++ payload)) :
          (after.readExactly (payloadLength (kind.declaredLength read))).1.shortfall =
            some (.failed e) := by
        obtain ⟨call, member, hit⟩ := met
        rcases List.mem_append.mp member with front | member
        · exact absurd ⟨call, front, hit⟩ whole
        · exact second.stopped_of_error member hit final
      split
      · rename_i bytes stop last outcome'
        rw [outcome'] at stopped run'
        refine ⟨header ++ payload, run.append run', fun met => ?_⟩
        obtain rfl := Option.some.inj (stopped met)
        exact ⟨_, _, rfl⟩
      · rename_i bytes last outcome'
        rw [outcome'] at stopped run'
        refine ⟨header ++ payload, run.append run', fun met => ?_⟩
        cases stopped met

/-- A message on its way out or in. -/
inductive Exchange
  | send (bytes : List UInt8)
  | receive (kind : Kind)

namespace Exchange

def isSend : Exchange → Bool
  | send _ => true
  | receive _ => false

def Fails (t : Transport) (err : FrameError) : Exchange → Prop
  | send bytes => (BackendLink.send bytes t).1 = .error err
  | receive kind => (receiveNext kind t).1 = .error err

def after (t : Transport) : Exchange → Transport
  | send bytes => (BackendLink.send bytes t).2
  | receive kind => (receiveNext kind t).2

/-- The transport failed one of the calls of the exchange. -/
def Hit (t : Transport) (e : IoError) (x : Exchange) : Prop :=
  ∃ trace, (x.after t).calls = t.calls ++ trace ∧ Meets e trace

theorem Hit.of_run {t : Transport} {e : IoError} {x : Exchange} {trace : List Call}
    (hit : x.Hit t e) (run : t.Run trace (x.after t)) : Meets e trace := by
  obtain ⟨row, calls, met⟩ := hit
  rw [run.calls] at calls
  exact List.append_cancel_left calls ▸ met

theorem Hit.fails {t : Transport} {e : IoError} {x : Exchange} (final : ¬ e.isInterrupted)
    (hit : x.Hit t e) : ∃ err, x.Fails t err ∧ err.cause? = some e ∧
      (ConnectError.ofFrame err).isRetryable = (x.isSend || e.isDisconnect) := by
  cases x with
  | send bytes =>
      obtain ⟨trace, run, stops⟩ := send_meets final bytes t
      exact ⟨_, stops (hit.of_run run), rfl, rfl⟩
  | receive kind =>
      have same := receiveNext_eq kind t
      obtain ⟨trace, run, stops⟩ := receiveKind_meets final kind t
      obtain ⟨read, expected, failed⟩ := stops (hit.of_run (by rwa [after, same]))
      exact ⟨_, by rwa [Fails, same], rfl, rfl⟩

end Exchange

theorem IoError.isDisconnect_iff {e : IoError} : e.isDisconnect ↔
    e.kind ∈ [.connectionReset, .connectionAborted, .brokenPipe, .unexpectedEof] := by
  unfold isDisconnect
  cases e.kind <;> decide

theorem receiveStartup_of_error {e : IoError} (final : ¬ e.isInterrupted) :
    receiveStartup { reads := [.error e] } =
      (.error (.readFailed 0 4 e), { calls := [.read 4 (.error e)] }) := by
  have short : Transport.readExactly 4 { reads := [.error e] } =
      (⟨[], some (.failed e)⟩, { calls := [.read 4 (.error e)] }) := by
    rw [Transport.readExactly]
    simp [Transport.read, ReadEvent.deliver, final]
  rw [receiveStartup, receiveKind]
  split
  · rename_i header stop after outcome
    obtain ⟨⟨⟩, rfl⟩ := Prod.mk.inj (short.symm.trans outcome)
    rfl
  · rename_i header after outcome
    cases short.symm.trans outcome

theorem Exchange.hit_of_error {e : IoError} (final : ¬ e.isInterrupted) :
    (receive .startup).Hit { reads := [.error e] } e ∧
      (receive .startup).Fails { reads := [.error e] } (.readFailed 0 4 e) := by
  have outcome := receiveStartup_of_error final
  refine ⟨⟨[.read 4 (.error e)], ?_, _, List.mem_singleton_self _, rfl⟩, ?_⟩
  · rw [after, receiveNext, outcome]
    rfl
  · rw [Fails, receiveNext, outcome]

theorem isRetryable_of_hit_iff (e : IoError) (final : ¬ e.isInterrupted) :
    (∀ (x : Exchange) (t : Transport), x.Hit t e → ∃ err, x.Fails t err ∧ err.cause? = some e ∧
      (ConnectError.ofFrame err).isRetryable = (x.isSend || e.isDisconnect)) ∧
    ((∀ (x : Exchange) (t : Transport) (err : FrameError), x.Hit t e → x.Fails t err →
      (ConnectError.ofFrame err).isRetryable) ↔
        e.kind ∈ [.connectionReset, .connectionAborted, .brokenPipe, .unexpectedEof]) := by
  refine ⟨fun x t hit => hit.fails final, ?_⟩
  rw [← IoError.isDisconnect_iff]
  constructor
  · intro alike
    obtain ⟨hit, failed⟩ := Exchange.hit_of_error final
    exact alike _ _ _ hit failed
  · intro gone x t err hit failed
    obtain ⟨other, same, -, verdict⟩ := hit.fails final
    obtain rfl : err = other := by
      cases x <;> exact Except.error.inj (failed.symm.trans same)
    rw [verdict, gone, Bool.or_true]

theorem isRetryable_reset :
    let e : IoError := .system 104
    let t : Transport := { reads := [.data [81, 0], .notReady, .error (.bare .interrupted),
      .data [0, 0, 8, 7], .error e] }
    ¬ e.isInterrupted ∧ (Exchange.receive .regular).Hit t e ∧
      (Exchange.receive .regular).Fails t (.readFailed 1 4 e) ∧
      (ConnectError.ofFrame (.readFailed 1 4 e)).isRetryable := by
  intro e t
  have final : ¬ e.isInterrupted := by decide
  have last : (receive t).2.calls.getLast?.bind Call.error? = some e := by decide +kernel
  obtain ⟨call, behind, failed⟩ := Option.bind_eq_some_iff.mp last
  have hit : (Exchange.receive .regular).Hit t e :=
    ⟨_, rfl, call, List.mem_of_getLast? behind, failed⟩
  have fails : (Exchange.receive .regular).Fails t (.readFailed 1 4 e) := by
    rw [Exchange.Fails, receiveNext, receive, receiveKind_eq_parse]
    rfl
  have alike := (isRetryable_of_hit_iff e final).2.mpr (by decide)
  exact ⟨final, hit, fails, alike _ _ _ hit fails⟩

/-- A stream that times out is worth another attempt behind a send and none behind a receive. -/
theorem not_isRetryable_timedOut :
    let e : IoError := .bare .timedOut
    (send [0] { writes := [.error e] }).1 = .error (.transport e) ∧
      (ConnectError.ofFrame (.transport e)).isRetryable ∧
      (receiveStartup { reads := [.error e] }).1 = .error (.readFailed 0 4 e) ∧
      (ConnectError.ofFrame (.readFailed 0 4 e)).isRetryable = false ∧
      ¬ ∀ (x : Exchange) (t : Transport) (err : FrameError), x.Hit t e → x.Fails t err →
        (ConnectError.ofFrame err).isRetryable := by
  intro e
  have final : ¬ e.isInterrupted := by decide
  obtain ⟨hit, fails⟩ := Exchange.hit_of_error final
  have kept : (ConnectError.ofFrame (.readFailed 0 4 e)).isRetryable = false := rfl
  refine ⟨by decide +kernel, rfl, fails, kept, fun alike => ?_⟩
  have retried := alike _ _ _ hit fails
  rw [kept] at retried
  cases retried

end BackendLink
