import BackendLink.Negotiation
import BackendLink.Proofs.Transport.Delivery

/-!
# Negotiation on every stream

`Negotiation.Course` lists the courses that a negotiation can take, with all its calls. Each ends in
one of three ways, and the calls tell which: the backend accepted, the backend declined, or a call
failed and was the last (`negotiate_safe`).
-/

namespace BackendLink
open Wire Transport

/-! ## What the calls tell -/

/-- The whole request was taken and flushed. -/
def RequestSent (trace : List Call) : Prop :=
  trace.flatMap Call.written = sslRequest ∧ Call.flush (.ok ()) ∈ trace

/-- The reply began with the letter `S`. -/
def Accepted (trace : List Call) : Prop :=
  RequestSent trace ∧ ∃ rest, Call.read 4096 (.ok (0x53 :: rest)) ∈ trace

/-- The reply was empty or began with another byte. -/
def Declined (trace : List Call) : Prop :=
  RequestSent trace ∧ ∃ reply, Call.read 4096 (.ok reply) ∈ trace ∧ reply.head? ≠ some 0x53

/-! ## The courses -/

inductive Negotiation.Course (stream : Transport) :
    List Call → Except ConnectError SslOutcome → Prop
  | unsent {trace : List Call} {e : FrameError} (sending : Sending sslRequest trace (.error e)) :
      Course stream trace (.error (.ofFrame e))
  | unanswered {trace : List Call} {size : Nat} {e : IoError}
      (sending : Sending sslRequest trace (.ok size)) :
      Course stream (trace ++ [.read 4096 (.error e)]) (.error (.connection e))
  | allowed {trace : List Call} {size : Nat} {reply : List UInt8}
      (sending : Sending sslRequest trace (.ok size)) (accepts : reply.head? = some 0x53) :
      Course stream (trace ++ [.read 4096 (.ok reply)]) (.ok (.allowed stream))
  | rejected {trace : List Call} {size : Nat} {reply : List UInt8} {answer : Except IoError Unit}
      (sending : Sending sslRequest trace (.ok size)) (declines : reply.head? ≠ some 0x53) :
      Course stream (trace ++ [.read 4096 (.ok reply), .shutdown answer]) (.ok .rejected)

theorem negotiate_course (t : Transport) :
    ∃ trace, Negotiation.Course (negotiate t).stream trace (negotiate t).outcome ∧
      t.Run trace (negotiate t).stream := by
  obtain ⟨trace, sending, run⟩ := send_sending sslRequest t
  unfold negotiate
  dsimp only
  split
  · rename_i e after sent
    rw [sent] at sending run
    exact ⟨trace, .unsent sending, run⟩
  · rename_i size after sent
    rw [sent] at sending run
    have replied := run.append (step_read replyLimit after).run
    split
    · rename_i e last answer
      rw [answer] at replied
      exact ⟨_, .unanswered sending, replied⟩
    · rename_i reply last answer
      rw [answer] at replied
      split
      · rename_i accepts
        exact ⟨_, .allowed sending accepts, replied⟩
      · rename_i declines
        have closed := replied.append (step_shutdown last).run
        rw [List.append_assoc] at closed
        split
        · rename_i gone answer
          rw [answer] at closed
          exact ⟨_, .rejected sending declines, closed⟩
        · rename_i e gone answer
          rw [answer] at closed
          exact ⟨_, .rejected sending declines, closed⟩

/-! ## Behind the send

Reads and shutdowns are no calls of a send, so those of a course stand behind the request. -/

section
variable {call : Call} {sent : List Call}

theorem mem_sent (sends : ∀ call ∈ sent, call.sends) (other : ¬ call.sends) :
    call ∈ sent ↔ False :=
  iff_false_intro fun member => other (sends call member)

theorem mem_behind (sends : ∀ call ∈ sent, call.sends) (other : ¬ call.sends)
    (later : List Call) : call ∈ sent ++ later ↔ call ∈ later := by
  rw [List.mem_append, mem_sent sends other, false_or]

end

theorem Sending.requestSent {sent later : List Call} {size : Nat}
    (sending : Sending sslRequest sent (.ok size)) (silent : later.flatMap Call.written = []) :
    RequestSent (sent ++ later) := by
  obtain ⟨-, writes, rfl, -, written⟩ := sending.complete
  constructor
  · rw [List.flatMap_append, List.flatMap_append, written, silent]
    rfl
  · simp

/-! ## What a course has done -/

namespace Negotiation.Course

variable {stream : Transport} {trace : List Call} {outcome : Except ConnectError SslOutcome}

theorem written_prefix (course : Course stream trace outcome) :
    trace.flatMap Call.written <+: sslRequest := by
  cases course with
  | unsent sending => exact sending.written_prefix
  | unanswered sending => simpa [Call.written] using sending.written_prefix
  | allowed sending => simpa [Call.written] using sending.written_prefix
  | rejected sending => simpa [Call.written] using sending.written_prefix

theorem allowed_iff (course : Course stream trace outcome) (s : Transport) :
    outcome = .ok (.allowed s) ↔ s = stream ∧ Accepted trace := by
  cases course with
  | unsent sending => simp [Accepted, mem_sent sending.sends, Call.sends]
  | unanswered sending => simp [Accepted, mem_behind sending.sends, Call.sends]
  | @allowed sent size reply sending accepts =>
      obtain ⟨rest, rfl⟩ := List.head?_eq_some_iff.mp accepts
      have accepted : Accepted (sent ++ [.read 4096 (.ok (0x53 :: rest))]) :=
        ⟨sending.requestSent rfl, rest, by simp⟩
      simp [accepted, eq_comm]
  | @rejected sent size reply answer sending declines =>
      have other : ∀ rest, (0x53 : UInt8) :: rest ≠ reply := by
        rintro rest rfl
        exact declines rfl
      simp [Accepted, mem_behind sending.sends, Call.sends, other]

theorem rejected_iff (course : Course stream trace outcome) :
    outcome = .ok .rejected ↔ Declined trace := by
  cases course with
  | unsent sending => simp [Declined, mem_sent sending.sends, Call.sends]
  | unanswered sending => simp [Declined, mem_behind sending.sends, Call.sends]
  | allowed sending accepts => simp [Declined, mem_behind sending.sends, Call.sends, accepts]
  | @rejected sent size reply answer sending declines =>
      have declined : Declined (sent ++ [.read 4096 (.ok reply), .shutdown answer]) :=
        ⟨sending.requestSent rfl, reply, by simp, declines⟩
      simp [declined]

theorem passed (course : Course stream trace outcome) :
    ∀ call ∈ trace.dropLast, call.failure? = none := by
  cases course with
  | unsent sending => exact sending.passed
  | unanswered sending => simpa using sending.passed_ok
  | allowed sending accepts => simpa using sending.passed_ok
  | rejected sending declines =>
      simpa [or_imp, forall_and, Call.failure?] using sending.passed_ok

theorem stops (course : Course stream trace outcome) (sofar : List Call) (call : Call)
    (later : List Call) (e : IoError) (parts : trace = sofar ++ call :: later)
    (failed : call.failure? = some e) : later = [] :=
  last_of_failure? course.passed parts failed

theorem failed_iff (course : Course stream trace outcome) (err : ConnectError) :
    outcome = .error err ↔ ∃ e, err = .connection e ∧ StoppedBy trace e := by
  cases course with
  | unsent sending =>
      obtain ⟨e, rfl, stopped⟩ := (sending.failed_iff _).mp rfl
      rw [stopped.exists_iff, ConnectError.ofFrame, Except.error.injEq, eq_comm]
  | unanswered sending =>
      rw [(stoppedBy_concat.mpr ⟨rfl, sending.passed_ok⟩).exists_iff, Except.error.injEq, eq_comm]
  | allowed sending accepts => simp [stoppedBy_concat, Call.failure?]
  | rejected sending declines => simp [StoppedBy, Call.failure?]

theorem read_behind (course : Course stream trace outcome) {sofar later : List Call} {asked : Nat}
    {result : Except IoError (List UInt8)} (parts : trace = sofar ++ .read asked result :: later) :
    asked = 4096 ∧ ∃ writes, sofar = writes ++ [.flush (.ok ())] ∧
      (∀ call ∈ writes, ∃ offered answer, call = .write offered answer) ∧
      writes.flatMap Call.written = sslRequest := by
  -- Behind the send there is one read at most, so nothing but the send can precede it.
  have ofSend {sent rest : List Call} {size : Nat} (sending : Sending sslRequest sent (.ok size))
      (only : ∀ extra, rest = extra ++ .read asked result :: later → extra = [] ∧ asked = 4096)
      (parts : sent ++ rest = sofar ++ .read asked result :: later) :
      asked = 4096 ∧ ∃ writes, sofar = writes ++ [.flush (.ok ())] ∧
        (∀ call ∈ writes, ∃ offered answer, call = .write offered answer) ∧
        writes.flatMap Call.written = sslRequest := by
    obtain ⟨extra, rfl, same⟩ := split_behind sending.sends (by simp [Call.sends]) parts
    obtain ⟨rfl, rfl⟩ := only extra same
    rw [List.append_nil]
    exact ⟨rfl, sending.complete.2⟩
  cases course with
  | unsent sending =>
      subst parts
      cases sending.sends (.read asked result) (by simp)
  | unanswered sending =>
      apply ofSend sending _ parts
      intro extra same
      cases extra <;> simp_all
  | allowed sending accepts =>
      apply ofSend sending _ parts
      intro extra same
      cases extra <;> simp_all
  | rejected sending declines =>
      apply ofSend sending _ parts
      intro extra same
      rcases extra with _ | ⟨first, _ | ⟨second, extra⟩⟩ <;> simp_all

theorem sent (course : Course stream trace outcome) :
    ∃ sent later answer, trace = sent ++ later ∧ Sending sslRequest sent answer ∧
      ∀ call ∈ later, ¬ call.sends := by
  cases course with
  | unsent sending => exact ⟨_, [], _, (List.append_nil _).symm, sending, by simp⟩
  | unanswered sending => exact ⟨_, _, _, rfl, sending, by simp [Call.sends]⟩
  | allowed sending => exact ⟨_, _, _, rfl, sending, by simp [Call.sends]⟩
  | rejected sending => exact ⟨_, _, _, rfl, sending, by simp [Call.sends]⟩

theorem write_behind (course : Course stream trace outcome) {sofar later : List Call}
    {offered : List UInt8} {answer : Except IoError Nat}
    (parts : trace = sofar ++ .write offered answer :: later) :
    offered ≠ [] ∧ sofar.flatMap Call.written ++ offered = sslRequest ∧
      ∀ e, answer = .error e → e.isInterrupted →
        ∃ again rest, later = .write offered again :: rest := by
  obtain ⟨sent, last, result, rfl, sending, silent⟩ := course.sent
  obtain ⟨extra, rfl⟩ := split_before (fun member => silent _ member rfl) parts
  obtain ⟨nonempty, split, repeated⟩ := sending.write_behind rfl
  refine ⟨nonempty, split, fun e failed again => ?_⟩
  obtain ⟨next, rest, rfl⟩ := repeated e failed again
  have same : .write offered next :: rest ++ last = later := by simpa using parts
  exact ⟨next, rest ++ last, same.symm⟩

theorem flush_behind (course : Course stream trace outcome) {sofar later : List Call}
    {answer : Except IoError Unit} (parts : trace = sofar ++ .flush answer :: later) :
    (∀ call ∈ sofar, ∃ offered answer, call = .write offered answer) ∧
      sofar.flatMap Call.written = sslRequest := by
  obtain ⟨sent, last, result, rfl, sending, silent⟩ := course.sent
  obtain ⟨extra, rfl⟩ := split_before (fun member => silent _ member rfl) parts
  exact sending.flush_behind rfl

theorem shutdown_of_declined (course : Course stream trace outcome) (declined : Declined trace) :
    ∃ sofar answer, trace = sofar ++ [.shutdown answer] ∧ ∀ other, Call.shutdown other ∉ sofar := by
  have rejected := course.rejected_iff.mpr declined
  cases course with
  | unsent => cases rejected
  | unanswered => cases rejected
  | allowed => cases rejected
  | @rejected sent size reply answer sending declines =>
      refine ⟨sent ++ [.read 4096 (.ok reply)], answer, by simp, ?_⟩
      intro other
      simp [mem_behind sending.sends, Call.sends]

theorem declined_of_shutdown (course : Course stream trace outcome) {answer : Except IoError Unit}
    (closed : Call.shutdown answer ∈ trace) : Declined trace := by
  have rejected := course.rejected_iff
  cases course with
  | unsent sending => cases sending.sends _ closed
  | unanswered sending => simp [mem_behind sending.sends, Call.sends] at closed
  | allowed sending accepts => simp [mem_behind sending.sends, Call.sends] at closed
  | rejected => exact rejected.mp rfl

theorem left_of_accepted {t : Transport} (course : Course stream trace outcome)
    (run : t.Run trace stream) (accepted : Accepted trace) :
    ∃ reply, Call.read 4096 (.ok reply) ∈ trace ∧
      ReadEvent.deliver 4096 t.reads = (.ok reply, stream.reads) := by
  have allowed := (course.allowed_iff stream).mpr ⟨rfl, accepted⟩
  cases course with
  | unsent => cases allowed
  | unanswered => cases allowed
  | @allowed sent size reply sending accepts =>
      obtain ⟨mid, first, last⟩ := run.split
      refine ⟨reply, by simp, ?_⟩
      cases last with
      | cons step rest =>
          cases rest
          rw [← first.reads_of_sends sending.sends]
          exact deliver_of_read step
  | rejected => cases allowed

end Negotiation.Course

/-! ## The guarantee -/

/-- What holds of a negotiation that began on the stream `t` and made the calls of `trace`. -/
structure Negotiation.Safe (t : Transport) (trace : List Call) (n : Negotiation) : Prop where
  written : ∀ sofar, sofar <+: trace → sofar.flatMap Call.written <+: sslRequest
  offers : ∀ sofar offered answer later, trace = sofar ++ .write offered answer :: later →
    offered ≠ [] ∧ sofar.flatMap Call.written ++ offered = sslRequest
  repeats : ∀ sofar offered e later, trace = sofar ++ .write offered (.error e) :: later →
    e.isInterrupted → ∃ again rest, later = .write offered again :: rest
  stops : ∀ sofar call later e, trace = sofar ++ call :: later → call.failure? = some e →
    later = []
  flush : ∀ sofar answer later, trace = sofar ++ .flush answer :: later →
    (∀ call ∈ sofar, ∃ offered answer, call = .write offered answer) ∧
      sofar.flatMap Call.written = sslRequest
  read : ∀ sofar asked result later, trace = sofar ++ .read asked result :: later →
    asked = 4096 ∧ ∃ writes, sofar = writes ++ [.flush (.ok ())] ∧
      (∀ call ∈ writes, ∃ offered answer, call = .write offered answer) ∧
      writes.flatMap Call.written = sslRequest
  allowed : ∀ stream, n.outcome = .ok (.allowed stream) ↔ stream = n.stream ∧ Accepted trace
  handedBack : Accepted trace → (∀ answer, Call.shutdown answer ∉ trace) ∧
    ∃ reply, Call.read 4096 (.ok reply) ∈ trace ∧
      ReadEvent.deliver 4096 t.reads = (.ok reply, n.stream.reads) ∧
      t.unread = reply ++ n.stream.unread
  rejected : n.outcome = .ok .rejected ↔ Declined trace
  shutDown : Declined trace → ∃ sofar answer, trace = sofar ++ [.shutdown answer] ∧
    ∀ other, Call.shutdown other ∉ sofar
  leftOpen : ¬ Declined trace → ∀ answer, Call.shutdown answer ∉ trace
  failed : ∀ err, n.outcome = .error err ↔ ∃ e, err = .connection e ∧ StoppedBy trace e

theorem negotiate_safe (t : Transport) :
    ∃ trace, t.Run trace (negotiate t).stream ∧ Negotiation.Safe t trace (negotiate t) := by
  obtain ⟨trace, course, run⟩ := negotiate_course t
  refine ⟨trace, run, ?_⟩
  constructor
  case written =>
    rintro sofar ⟨later, rfl⟩
    have all := course.written_prefix
    rw [List.flatMap_append] at all
    exact (List.prefix_append _ _).trans all
  case offers =>
    intro sofar offered answer later parts
    obtain ⟨nonempty, split, -⟩ := course.write_behind parts
    exact ⟨nonempty, split⟩
  case repeats =>
    intro sofar offered e later parts
    obtain ⟨-, -, repeated⟩ := course.write_behind parts
    exact repeated e rfl
  case stops => exact course.stops
  case flush =>
    intro sofar answer later parts
    exact course.flush_behind parts
  case read =>
    intro sofar asked result later parts
    exact course.read_behind parts
  case allowed => exact course.allowed_iff
  case handedBack =>
    intro accepted
    have allowed := (course.allowed_iff _).mpr ⟨rfl, accepted⟩
    constructor
    · intro answer closed
      have rejected := course.rejected_iff.mpr (course.declined_of_shutdown closed)
      rw [allowed] at rejected
      cases rejected
    · obtain ⟨reply, replied, left⟩ := course.left_of_accepted run accepted
      have taken := ReadEvent.pending_deliver 4096 t.reads
      rw [left] at taken
      exact ⟨reply, replied, left, taken⟩
  case rejected => exact course.rejected_iff
  case shutDown => exact course.shutdown_of_declined
  case leftOpen =>
    intro undeclined answer closed
    exact undeclined (course.declined_of_shutdown closed)
  case failed => exact course.failed_iff

/-- An interrupted write of the request is repeated, and its error is not reported. -/
theorem negotiate_interrupted_write :
    let t : Transport := { reads := [.data [0x53]], writes := [.error (.bare .interrupted)] }
    (negotiate t).stream.calls = [.write sslRequest (.error (.bare .interrupted)),
      .write sslRequest (.ok 8), .flush (.ok ()), .read 4096 (.ok [0x53])] ∧
      (negotiate t).outcome = .ok (.allowed (negotiate t).stream) := by
  intro t
  have repeated : t.writeAll sslRequest = (t.write sslRequest).2.writeAll sslRequest := by
    rw [writeAll]
    rfl
  have taken : (t.write sslRequest).2.writeAll sslRequest =
      (.ok (), ((t.write sslRequest).2.write sslRequest).2) := by
    have nothingLeft (after : Transport) : after.writeAll [] = (.ok (), after) := by
      rw [writeAll]
      rfl
    rw [writeAll]
    exact nothingLeft _
  have sent : send sslRequest t =
      (.ok 8, ((t.write sslRequest).2.write sslRequest).2.flush.2) := by
    unfold send
    rw [repeated, taken]
    rfl
  unfold negotiate
  rw [sent]
  exact ⟨rfl, rfl⟩

end BackendLink
