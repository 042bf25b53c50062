import BackendLink.ConnectError
import BackendLink.Proofs.Transport.Receive

/-!
# The account of a receive

`Reading` lists the rows of reads that a sized read can make: each asks for exactly what is still
missing, and the row ends when nothing is, when a read delivers nothing or when one fails for good.
A receive is two such rows, and the error it may end with counts the bytes of the row that was cut
short (`receive_accounted`).
-/

namespace BackendLink
open Wire Transport

/-- The bytes that a row of calls took off the stream. -/
def taken (trace : List Call) : List UInt8 := trace.flatMap Call.delivered

/-- What a read ends a sized read with. An interrupted one is repeated. -/
def Call.stop? : Call → Option Shortfall
  | .read _ (.ok []) => some .endOfStream
  | .read _ (.error e) => if e.isInterrupted then none else some (.failed e)
  | _ => none

/-- The reads made for `missing` bytes, and what comes of them. -/
inductive Reading : Nat → List Call → SizedRead → Prop
  | done : Reading 0 [] ⟨[], none⟩
  | delivered {missing : Nat} {b : UInt8} {bytes : List UInt8} {trace : List Call}
      {rest : SizedRead} (le : bytes.length + 1 ≤ missing)
      (later : Reading (missing - (bytes.length + 1)) trace rest) :
      Reading missing (.read missing (.ok (b :: bytes)) :: trace)
        ⟨b :: bytes ++ rest.bytes, rest.shortfall⟩
  | interrupted {missing : Nat} {e : IoError} {trace : List Call} {outcome : SizedRead}
      (positive : 0 < missing) (again : e.isInterrupted) (later : Reading missing trace outcome) :
      Reading missing (.read missing (.error e) :: trace) outcome
  | ended {missing : Nat} (positive : 0 < missing) :
      Reading missing [.read missing (.ok [])] ⟨[], some .endOfStream⟩
  | failed {missing : Nat} {e : IoError} (positive : 0 < missing) (final : ¬ e.isInterrupted) :
      Reading missing [.read missing (.error e)] ⟨[], some (.failed e)⟩

theorem Transport.readExactly_reading (missing : Nat) (t : Transport) :
    ∃ trace, Reading missing trace (t.readExactly missing).1 ∧
      t.Run trace (t.readExactly missing).2 := by
  fun_induction readExactly missing t with
  | case1 t => exact ⟨[], .done, .nil t⟩
  | case2 missing t positive after call =>
      exact ⟨_, .ended (Nat.pos_of_ne_zero positive), .cons call (.nil after)⟩
  | case3 missing t positive b bytes after call rest last recursive ih =>
      obtain ⟨trace, reading, run⟩ := ih
      rw [recursive] at reading run
      exact ⟨_, .delivered (length_le_of_read call) reading, .cons call run⟩
  | case4 missing t positive e after call again ih =>
      obtain ⟨trace, reading, run⟩ := ih
      exact ⟨_, .interrupted (Nat.pos_of_ne_zero positive) again reading, .cons call run⟩
  | case5 missing t positive e after call final =>
      exact ⟨_, .failed (Nat.pos_of_ne_zero positive) final, .cons call (.nil after)⟩

/-! ## What the reads have in common -/

/-- Every call is a read for what is missing of `size` bytes, and something is. -/
def AsksMissing (size : Nat) (trace : List Call) : Prop :=
  ∀ sofar call later, trace = sofar ++ call :: later →
    (taken sofar).length < size ∧ ∃ answer, call = .read (size - (taken sofar).length) answer

/-- No call is made behind one that stops the reading. -/
def EndsAtStop (trace : List Call) : Prop :=
  ∀ sofar call later, trace = sofar ++ call :: later → call.stop?.isSome → later = []

theorem taken_cons (call : Call) (trace : List Call) :
    taken (call :: trace) = call.delivered ++ taken trace := rfl

theorem taken_append (first later : List Call) :
    taken (first ++ later) = taken first ++ taken later := List.flatMap_append

theorem asksMissing_nil (size : Nat) : AsksMissing size [] := by
  intro sofar call later parts
  simp at parts

theorem AsksMissing.cons {size : Nat} {answer : Except IoError (List UInt8)} {trace : List Call}
    (positive : 0 < size)
    (rest : AsksMissing (size - (Call.read size answer).delivered.length) trace) :
    AsksMissing size (.read size answer :: trace) := by
  intro sofar call later parts
  rcases List.cons_eq_append_iff.mp parts with ⟨rfl, same⟩ | ⟨sofar, rfl, same⟩
  · obtain ⟨rfl, -⟩ := List.cons_eq_cons.mp same
    exact ⟨positive, answer, rfl⟩
  · obtain ⟨more, other, asked⟩ := rest sofar call later same
    rw [taken_cons, List.length_append, ← Nat.sub_sub]
    exact ⟨by omega, other, asked⟩

theorem endsAtStop_nil : EndsAtStop [] := by
  intro sofar call later parts
  simp at parts

theorem endsAtStop_single (call : Call) : EndsAtStop [call] := by
  intro sofar other later parts stops
  rcases List.cons_eq_append_iff.mp parts with ⟨-, same⟩ | ⟨sofar, -, same⟩
  · exact (List.cons_eq_cons.mp same).2
  · simp at same

theorem EndsAtStop.cons {call : Call} {trace : List Call} (passes : call.stop? = none)
    (rest : EndsAtStop trace) : EndsAtStop (call :: trace) := by
  intro sofar other later parts stops
  rcases List.cons_eq_append_iff.mp parts with ⟨rfl, same⟩ | ⟨sofar, rfl, same⟩
  · obtain ⟨rfl, -⟩ := List.cons_eq_cons.mp same
    simp [passes] at stops
  · exact rest sofar other later same stops

theorem EndsAtStop.append {first later : List Call} (passes : ∀ call ∈ first, call.stop? = none)
    (rest : EndsAtStop later) : EndsAtStop (first ++ later) := by
  induction first with
  | nil => exact rest
  | cons call first ih =>
      obtain ⟨here, others⟩ := List.forall_mem_cons.mp passes
      exact .cons here (ih others)

namespace Reading

variable {missing : Nat} {trace : List Call} {outcome : SizedRead} {stop : Shortfall}

theorem taken_eq (reading : Reading missing trace outcome) : taken trace = outcome.bytes := by
  induction reading with
  | done => rfl
  | @delivered missing b bytes trace rest le later ih => exact congrArg ((b :: bytes) ++ ·) ih
  | interrupted positive again later ih => exact ih
  | ended => rfl
  | failed => rfl

theorem asksMissing (reading : Reading missing trace outcome) : AsksMissing missing trace := by
  induction reading with
  | done => exact asksMissing_nil 0
  | delivered le later ih => exact .cons (Nat.lt_of_lt_of_le (Nat.succ_pos _) le) ih
  | interrupted positive again later ih => exact .cons positive ih
  | ended positive => exact .cons positive (asksMissing_nil _)
  | failed positive final => exact .cons positive (asksMissing_nil _)

theorem endsAtStop (reading : Reading missing trace outcome) : EndsAtStop trace := by
  induction reading with
  | done => exact endsAtStop_nil
  | delivered le later ih => exact .cons rfl ih
  | interrupted positive again later ih => exact .cons (by simp [Call.stop?, again]) ih
  | ended positive => exact endsAtStop_single _
  | failed positive final => exact endsAtStop_single _

theorem complete (reading : Reading missing trace outcome) (whole : outcome.shortfall = none) :
    outcome.bytes.length = missing ∧ ∀ call ∈ trace, call.stop? = none := by
  induction reading with
  | done => simp
  | @delivered missing b bytes trace rest le later ih =>
      obtain ⟨length, passes⟩ := ih whole
      refine ⟨?_, List.forall_mem_cons.mpr ⟨rfl, passes⟩⟩
      simp only [List.length_append, List.length_cons, length]
      omega
  | interrupted positive again later ih =>
      obtain ⟨length, passes⟩ := ih whole
      exact ⟨length, List.forall_mem_cons.mpr ⟨by simp [Call.stop?, again], passes⟩⟩
  | ended => cases whole
  | failed => cases whole

theorem short (reading : Reading missing trace outcome) (cut : outcome.shortfall = some stop) :
    outcome.bytes.length < missing ∧ trace.getLast?.bind Call.stop? = some stop := by
  induction reading with
  | done => cases cut
  | @delivered missing b bytes trace rest le later ih =>
      obtain ⟨length, last⟩ := ih cut
      refine ⟨?_, ?_⟩
      · simp only [List.length_append, List.length_cons]
        omega
      · cases trace with
        | nil => cases last
        | cons call trace => exact last
  | @interrupted missing e trace outcome positive again later ih =>
      obtain ⟨length, last⟩ := ih cut
      refine ⟨length, ?_⟩
      cases trace with
      | nil => cases last
      | cons call trace => exact last
  | ended positive => exact ⟨positive, cut⟩
  | failed positive final => exact ⟨positive, by simpa [Call.stop?, final] using cut⟩

end Reading

/-! ## Receives -/

/-- The payload bytes that a header declares. -/
def Wire.Kind.payloadSize (kind : Kind) (header : List UInt8) : Nat :=
  max (kind.lengthField header) 4 - 4

/-- What the two rows of reads of a receive come to. -/
inductive Outcome (kind : Kind) : (header payload : List Call) → Except FrameError Message → Prop
  | headerShort {header : List Call} {stop : Shortfall}
      (cut : (taken header).length < kind.headerSize)
      (last : header.getLast?.bind Call.stop? = some stop) :
      Outcome kind header [] (.error (stop.error (taken header).length kind.headerSize))
  | tooLarge {header : List Call} (whole : (taken header).length = kind.headerSize)
      (above : 2 ^ 30 < kind.lengthField (taken header)) :
      Outcome kind header [] (.error (.tooLarge (kind.lengthField (taken header)) (2 ^ 30)))
  | payloadShort {header payload : List Call} {stop : Shortfall}
      (whole : (taken header).length = kind.headerSize)
      (within : kind.lengthField (taken header) ≤ 2 ^ 30)
      (cut : (taken payload).length < kind.payloadSize (taken header))
      (last : payload.getLast?.bind Call.stop? = some stop) :
      Outcome kind header payload
        (.error (stop.error (taken payload).length (kind.payloadSize (taken header))))
  | message {header payload : List Call} {m : Message}
      (whole : (taken header).length = kind.headerSize)
      (within : kind.lengthField (taken header) ≤ 2 ^ 30)
      (filled : (taken payload).length = kind.payloadSize (taken header))
      (same : m.kind = kind) (bytes : m.bytes = taken header ++ taken payload) :
      Outcome kind header payload (.ok m)

/-- The calls of a receive are reads for the header and then for the payload, and what they took is
all that is gone from the stream. -/
structure Receiving (kind : Kind) (t : Transport) (header payload : List Call)
    (result : Except FrameError Message) (after : Transport) : Prop where
  run : t.Run (header ++ payload) after
  unread : t.unread = taken (header ++ payload) ++ after.unread
  header_asks : AsksMissing kind.headerSize header
  payload_asks : AsksMissing (kind.payloadSize (taken header)) payload
  ends : EndsAtStop (header ++ payload)
  outcome : Outcome kind header payload result

/-- Nothing is asked for behind a header that settles what the receive comes to. -/
theorem Receiving.header {kind : Kind} {t after : Transport} {header : List Call}
    {result : Except FrameError Message} (run : t.Run header after)
    (unread : t.unread = taken header ++ after.unread) (asked : AsksMissing kind.headerSize header)
    (ends : EndsAtStop header) (outcome : Outcome kind header [] result) :
    Receiving kind t header [] result after where
  run := by simpa using run
  unread := by simpa using unread
  header_asks := asked
  payload_asks := asksMissing_nil _
  ends := by simpa using ends
  outcome := outcome

theorem receiveKind_receiving (kind : Kind) (t : Transport) :
    ∃ header payload,
      Receiving kind t header payload (receiveKind kind t).1 (receiveKind kind t).2 := by
  obtain ⟨header, first, run⟩ := t.readExactly_reading kind.headerSize
  have left := t.unread_readExactly kind.headerSize
  have asked := first.asksMissing
  have ends := first.endsAtStop
  have bytes := first.taken_eq
  unfold receiveKind
  split
  · rename_i read stop mid outcome
    rw [outcome] at first run left bytes
    obtain ⟨cut, last⟩ := first.short rfl
    rw [← bytes] at left cut
    refine ⟨header, [], .header run left asked ends ?_⟩
    simpa only [bytes] using Outcome.headerShort cut last
  · rename_i read mid outcome
    rw [outcome] at first run left bytes
    obtain ⟨whole, passes⟩ := first.complete rfl
    have declared : (kind.declaredLength read).toNat = kind.lengthField (taken header) := by
      rw [bytes, Kind.toNat_declaredLength (Nat.le_of_eq whole.symm)]
    rw [← bytes] at left whole
    have size : payloadLength (kind.declaredLength read) = kind.payloadSize (taken header) := by
      rw [payloadLength, declared, lengthSize, Kind.payloadSize]
      omega
    simp only [declared, size]
    split
    · rename_i above
      exact ⟨header, [], .header run left asked ends (.tooLarge whole above)⟩
    · rename_i within
      obtain ⟨payload, second, run'⟩ := mid.readExactly_reading (kind.payloadSize (taken header))
      have left' := mid.unread_readExactly (kind.payloadSize (taken header))
      have bytes' := second.taken_eq
      have both : t.unread = taken (header ++ payload) ++
          (mid.readExactly (kind.payloadSize (taken header))).2.unread := by
        rw [left, left', taken_append, bytes', List.append_assoc]
      split
      · rename_i more stop last outcome'
        rw [outcome'] at second run' both bytes'
        obtain ⟨cut, final⟩ := second.short rfl
        rw [← bytes'] at cut
        refine ⟨header, payload, run.append run', both, asked, second.asksMissing,
          .append passes second.endsAtStop, ?_⟩
        simpa only [bytes'] using
          Outcome.payloadShort whole (Nat.not_lt.mp within) cut final
      · rename_i more last outcome'
        rw [outcome'] at second run' both bytes'
        obtain ⟨filled, -⟩ := second.complete rfl
        refine ⟨header, payload, run.append run', both, asked, second.asksMissing,
          .append passes second.endsAtStop, ?_⟩
        rw [← bytes'] at filled
        exact .message whole (Nat.not_lt.mp within) filled rfl (by rw [bytes, bytes'])

/-- The count in an error is that of the row of reads that was cut short, and a conversion keeps the
error as it is. -/
def Counts (kind : Kind) (header payload : List Call) (e : FrameError) : Prop :=
  ConnectError.ofFrame e = .frame e ∧
  match e.partialRead? with
  | none => e = .tooLarge (kind.lengthField (taken header)) (2 ^ 30) ∧
      (taken (header ++ payload)).length = kind.headerSize
  | some count => ∃ expected, count < expected ∧
      (e = .incomplete count expected ∨ ∃ io, e = .readFailed count expected io) ∧
      (expected = kind.headerSize ∧ (taken (header ++ payload)).length = count ∨
        expected = kind.payloadSize (taken header) ∧
          (taken (header ++ payload)).length = kind.headerSize + count)

/-- A receive from `t` that made the reads it had to make and no others, and whose result tells how
many bytes they took. -/
def Accounted (kind : Kind) (t : Transport) (received : Except FrameError Message × Transport) :
    Prop :=
  ∃ header payload, Receiving kind t header payload received.1 received.2 ∧
    (kind.lengthField (taken header) ≤ 4 ∨ 2 ^ 30 < kind.lengthField (taken header) →
      payload = []) ∧
    match received.1 with
    | .ok m => (taken (header ++ payload)).length = m.size
    | .error e => Counts kind header payload e

theorem Outcome.payload_eq_nil {kind : Kind} {header payload : List Call}
    {result : Except FrameError Message} (outcome : Outcome kind header payload result)
    (asked : AsksMissing (kind.payloadSize (taken header)) payload)
    (none : kind.lengthField (taken header) ≤ 4 ∨ 2 ^ 30 < kind.lengthField (taken header)) :
    payload = [] := by
  cases payload with
  | nil => rfl
  | cons call later =>
      have wanted : 0 < kind.payloadSize (taken header) := (asked [] call later rfl).1
      rw [Kind.payloadSize] at wanted
      cases outcome <;> omega

theorem Outcome.counts {kind : Kind} {header payload : List Call} {e : FrameError}
    (outcome : Outcome kind header payload (.error e)) : Counts kind header payload e := by
  cases outcome with
  | @headerShort stop cut last =>
      cases stop with
      | endOfStream => exact ⟨rfl, _, cut, .inl rfl, .inl ⟨rfl, by simp⟩⟩
      | failed io => exact ⟨rfl, _, cut, .inr ⟨io, rfl⟩, .inl ⟨rfl, by simp⟩⟩
  | tooLarge whole above => exact ⟨rfl, rfl, by simpa using whole⟩
  | @payloadShort _ stop whole within cut last =>
      have size : (taken (header ++ payload)).length = kind.headerSize + (taken payload).length := by
        rw [taken_append, List.length_append, whole]
      cases stop with
      | endOfStream => exact ⟨rfl, _, cut, .inl rfl, .inr ⟨rfl, size⟩⟩
      | failed io => exact ⟨rfl, _, cut, .inr ⟨io, rfl⟩, .inr ⟨rfl, size⟩⟩

theorem receiveKind_accounted (kind : Kind) (t : Transport) :
    Accounted kind t (receiveKind kind t) := by
  obtain ⟨header, payload, receiving⟩ := receiveKind_receiving kind t
  have account := receiving.outcome
  refine ⟨header, payload, receiving, account.payload_eq_nil receiving.payload_asks, ?_⟩
  cases result : (receiveKind kind t).1 with
  | error e => exact (result ▸ account).counts
  | ok m =>
      rw [result] at account
      cases account with
      | message whole within filled same bytes =>
          show (taken (header ++ payload)).length = m.bytes.length
          rw [bytes, taken_append]

theorem receive_accounted (t : Transport) :
    Accounted .startup t (receiveStartup t) ∧ Accounted .regular t (receive t) :=
  ⟨receiveKind_accounted .startup t, receiveKind_accounted .regular t⟩

end BackendLink
