import BackendLink.Connection
import BackendLink.Proofs.Negotiation

/-!
# No fallback to plaintext

Where SSL is required, an attempt ends as the calls on the dialed socket tell (`Attempt.Secured`),
and a connection is handed out only by the upgrader, on a socket whose backend has accepted
(`connect_noFallback`).
-/

namespace BackendLink
open Wire Transport

/-- An attempt with SSL on a dialed socket, on which the calls of `trace` were made and which they
left as `left`. -/
structure Attempt.Secured (settings : ConnectionSettings) (upgrader : Upgrader) (socket : Socket)
    (trace : List Call) (left : Socket) (attempt : Attempt) : Prop where
  run : socket.stream.Run trace left.stream
  peer : left.peer = socket.peer
  socket : attempt.socket = some left
  written : trace.flatMap Call.written <+: sslRequest
  ok_iff : ∀ link, attempt.result = .ok link ↔
    Accepted trace ∧ (upgrader (Address.hostOf settings.addr) left).result = .ok link
  accepted : Accepted trace → attempt.upgrades = [(Address.hostOf settings.addr, left)] ∧
    attempt.result = (upgrader (Address.hostOf settings.addr) left).result
  declined : Declined trace → attempt.upgrades = [] ∧ attempt.result = .error .sslDeclined
  stops : ∀ sofar call later e, trace = sofar ++ call :: later → call.failure? = some e →
    later = []
  failed : ∀ e, StoppedBy trace e →
    attempt.upgrades = [] ∧ attempt.result = .error (.connection e)
  covered : Accepted trace ∨ Declined trace ∨ ∃ e, StoppedBy trace e

theorem secure_secured {settings : ConnectionSettings} (required : settings.requireSsl)
    (upgrader : Upgrader) (socket : Socket) :
    ∃ trace left,
      Attempt.Secured settings upgrader socket trace left (settings.secure upgrader socket) := by
  obtain ⟨trace, course, run⟩ := negotiate_course socket.stream
  have accepted : Accepted trace ↔ (negotiate socket.stream).outcome =
      .ok (.allowed (negotiate socket.stream).stream) := by
    simp [course.allowed_iff]
  have declined := course.rejected_iff.symm
  have failed (e : IoError) : StoppedBy trace e ↔
      (negotiate socket.stream).outcome = .error (.connection e) := by
    simp [course.failed_iff]
  refine ⟨trace, { socket with stream := (negotiate socket.stream).stream }, ?_⟩
  unfold ConnectionSettings.secure
  simp only [required, Bool.not_true, Bool.false_eq_true, if_false]
  cases ended : (negotiate socket.stream).outcome with
  | error err =>
      obtain ⟨e, rfl, -⟩ := (course.failed_iff err).mp ended
      rw [ended] at accepted declined failed
      constructor
      case run => exact run
      case written => exact course.written_prefix
      case stops => exact course.stops
      all_goals simp [accepted, declined, failed]
  | ok answer =>
      rw [ended] at accepted declined failed
      cases answer with
      | allowed stream =>
          obtain ⟨rfl, -⟩ := (course.allowed_iff stream).mp ended
          constructor
          case run => exact run
          case written => exact course.written_prefix
          case stops => exact course.stops
          all_goals simp [accepted, declined, failed, ConnectionSettings.host]
      | rejected =>
          constructor
          case run => exact run
          case written => exact course.written_prefix
          case stops => exact course.stops
          all_goals simp [accepted, declined, failed]

theorem connect_noFallback (settings : ConnectionSettings) (network : Network)
    (upgrader : Upgrader) :
    let attempt := connect settings network upgrader
    match dial network settings.addr settings.connectTimeout with
    | .failed e =>
        attempt.result = .error (.connection e) ∧ attempt.socket = none ∧ attempt.upgrades = []
    | .expired _ => settings.connectTimeout.isSome ∧
        attempt.result = .error .timeout ∧ attempt.socket = none ∧ attempt.upgrades = []
    | .socket socket =>
        if settings.requireSsl then
          ∃ trace left, Attempt.Secured settings upgrader socket trace left attempt
        else
          attempt.result = .ok (.plaintext socket) ∧ attempt.socket = some socket ∧
            attempt.upgrades = [] := by
  intro attempt
  cases dialed : dial network settings.addr settings.connectTimeout with
  | failed e => simp [attempt, connect, dialed, Attempt.unconnected]
  | expired limited => simp [attempt, connect, dialed, Attempt.unconnected, limited]
  | socket socket =>
      by_cases required : settings.requireSsl
      · obtain ⟨trace, left, secured⟩ := secure_secured required upgrader socket
        simp only [attempt, connect, dialed, required, if_true]
        exact ⟨trace, left, { secured with }⟩
      · simp [attempt, connect, dialed, ConnectionSettings.secure, required]

/-! ## A backend that accepts -/

/-- Every host accepts at once, with nothing behind its letter. -/
def Network.welcoming : Network := fun _ _ => .socket ⟨.ok "", { reads := [.data [0x53]] }⟩

theorem connect_welcoming {settings : ConnectionSettings} (required : settings.requireSsl)
    {target : Address.Target}
    (dialed : dial .welcoming settings.addr settings.connectTimeout =
      Network.welcoming target settings.connectTimeout) (upgrader : Upgrader) :
    ∃ socket, (connect settings .welcoming upgrader).upgrades = [(settings.host, socket)] ∧
      (connect settings .welcoming upgrader).result = (upgrader settings.host socket).result := by
  have accepted : (negotiate { reads := [.data [0x53]] }).outcome.toOption.any
      SslOutcome.isAllowed := by decide +kernel
  unfold connect
  rw [dialed]
  simp only [Network.welcoming, ConnectionSettings.secure, required, Bool.not_true,
    Bool.false_eq_true, if_false]
  cases ended : (negotiate { reads := [.data [0x53]] }).outcome with
  | error e =>
      rw [ended] at accepted
      cases accepted
  | ok outcome =>
      cases outcome with
      | allowed stream => exact ⟨_, rfl, rfl⟩
      | rejected =>
          rw [ended] at accepted
          cases accepted

end BackendLink
