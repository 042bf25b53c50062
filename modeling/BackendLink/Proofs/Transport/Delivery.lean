import BackendLink.Proofs.Transport.Send
import Mathlib.Data.List.Infix

/-!
# What a send has done

Every place in a row of writes begins such a row again, for the bytes that are left there
(`Offering.behind`). So no byte of a message is skipped or offered twice, and a send either has put
the whole message on the stream and flushed it, or reports the call that failed, which is its last
(`send_allOrReported`).
-/

namespace BackendLink
open Transport Wire

/-! ## Places in a row of writes -/

namespace Offering

variable {bytes : List UInt8} {trace : List Call} {result : Except IoError Unit}

theorem behind {sofar later : List Call} {call : Call} (offering : Offering bytes trace result)
    (parts : trace = sofar ++ call :: later) :
    ∃ left, sofar.flatMap Call.written ++ left = bytes ∧ Offering left (call :: later) result := by
  induction sofar generalizing bytes trace with
  | nil =>
      subst parts
      exact ⟨bytes, rfl, offering⟩
  | cons first sofar ih =>
      cases offering with
      | done => cases parts
      | @taken _ size _ _ positive le rest =>
          obtain ⟨rfl, same⟩ := List.cons_eq_cons.mp parts
          obtain ⟨left, split, here⟩ := ih rest same
          refine ⟨left, ?_, here⟩
          rw [List.flatMap_cons, List.append_assoc, split]
          exact List.take_append_drop size bytes
      | interrupted nonempty again rest =>
          obtain ⟨rfl, same⟩ := List.cons_eq_cons.mp parts
          exact ih rest same
      | refused => simp at parts
      | failed => simp at parts

theorem starts (offering : Offering bytes trace result) (nonempty : bytes ≠ []) :
    ∃ answer later, trace = .write bytes answer :: later := by
  cases offering with
  | done => exact absurd rfl nonempty
  | taken => exact ⟨_, _, rfl⟩
  | interrupted => exact ⟨_, _, rfl⟩
  | refused => exact ⟨_, _, rfl⟩
  | failed => exact ⟨_, _, rfl⟩

theorem offers {offered : List UInt8} {answer : Except IoError Nat} {later : List Call}
    (offering : Offering bytes (.write offered answer :: later) result) :
    offered = bytes ∧ bytes ≠ [] := by
  cases offering with
  | taken positive le rest => exact ⟨rfl, List.ne_nil_of_length_pos (by omega)⟩
  | interrupted nonempty again rest => exact ⟨rfl, nonempty⟩
  | refused => exact ⟨rfl, List.cons_ne_nil _ _⟩
  | failed nonempty final => exact ⟨rfl, nonempty⟩

theorem offers_again {offered : List UInt8} {e : IoError} {later : List Call}
    (offering : Offering bytes (.write offered (.error e) :: later) result)
    (again : e.isInterrupted) : ∃ answer rest, later = .write offered answer :: rest := by
  cases offering with
  | interrupted nonempty again rest => exact rest.starts nonempty
  | failed nonempty final => exact absurd again final

theorem passed (offering : Offering bytes trace result) (complete : result = .ok ()) :
    ∀ call ∈ trace, call.failure? = none := by
  induction offering with
  | done => simp
  | taken positive _ _ ih =>
      exact List.forall_mem_cons.mpr ⟨Call.failure?_taken _ positive, ih complete⟩
  | interrupted _ again _ ih =>
      exact List.forall_mem_cons.mpr ⟨Call.failure?_interrupted _ again, ih complete⟩
  | refused => cases complete
  | failed => cases complete

end Offering

/-! ## The call that failed -/

/-- The last call failed with `e`, and none before it failed. -/
def StoppedBy (trace : List Call) (e : IoError) : Prop :=
  trace.getLast?.bind Call.failure? = some e ∧ ∀ call ∈ trace.dropLast, call.failure? = none

theorem StoppedBy.unique {trace : List Call} {e other : IoError} (stopped : StoppedBy trace e)
    (also : StoppedBy trace other) : e = other :=
  Option.some.inj (stopped.1.symm.trans also.1)

theorem StoppedBy.exists_iff {trace : List Call} {e : IoError} (stopped : StoppedBy trace e)
    {reports : IoError → Prop} : (∃ other, reports other ∧ StoppedBy trace other) ↔ reports e := by
  constructor
  · rintro ⟨other, reported, also⟩
    rwa [stopped.unique also]
  · intro reported
    exact ⟨e, reported, stopped⟩

theorem stoppedBy_concat {before : List Call} {call : Call} {e : IoError} :
    StoppedBy (before ++ [call]) e ↔
      call.failure? = some e ∧ ∀ earlier ∈ before, earlier.failure? = none := by
  simp [StoppedBy]

theorem Offering.stoppedBy {bytes : List UInt8} {trace : List Call} {result : Except IoError Unit}
    {e : IoError} (offering : Offering bytes trace result) (stopped : result = .error e) :
    StoppedBy trace e := by
  obtain ⟨before, call, rfl, failed, passed⟩ := offering.failure?_last stopped
  exact stoppedBy_concat.mpr ⟨failed, passed⟩

theorem last_of_failure? {trace sofar later : List Call} {call : Call} {e : IoError}
    (passed : ∀ earlier ∈ trace.dropLast, earlier.failure? = none)
    (parts : trace = sofar ++ call :: later) (failed : call.failure? = some e) : later = [] := by
  cases later using List.reverseRecOn with
  | nil => rfl
  | append_singleton later last =>
      have front : trace = (sofar ++ call :: later) ++ [last] := by simp [parts]
      rw [front, List.dropLast_concat] at passed
      have silent := passed call (by simp)
      rw [failed] at silent
      cases silent

theorem stoppedBy_of_mem {trace : List Call} {call : Call} {e : IoError}
    (passed : ∀ earlier ∈ trace.dropLast, earlier.failure? = none) (member : call ∈ trace)
    (failed : call.failure? = some e) : StoppedBy trace e := by
  obtain ⟨sofar, later, rfl⟩ := List.append_of_mem member
  obtain rfl := last_of_failure? passed rfl failed
  rw [List.dropLast_concat] at passed
  exact stoppedBy_concat.mpr ⟨failed, passed⟩

/-! ## The calls of a send -/

namespace Sending

variable {bytes : List UInt8} {trace : List Call} {result : Except FrameError Nat}

theorem write_behind {offered : List UInt8} {answer : Except IoError Nat} {sofar later : List Call}
    (sending : Sending bytes trace result)
    (parts : trace = sofar ++ .write offered answer :: later) :
    offered ≠ [] ∧ sofar.flatMap Call.written ++ offered = bytes ∧
      ∀ e, answer = .error e → e.isInterrupted →
        ∃ again rest, later = .write offered again :: rest := by
  -- The flush is no write, so the place is one in the row of writes.
  have inRow {writes rest : List Call} {ending : Except IoError Unit}
      (row : Offering bytes writes ending) (absent : Call.write offered answer ∉ rest)
      (parts : writes ++ rest = sofar ++ .write offered answer :: later) :
      offered ≠ [] ∧ sofar.flatMap Call.written ++ offered = bytes ∧
        ∀ e, answer = .error e → e.isInterrupted →
          ∃ again rest, later = .write offered again :: rest := by
    obtain ⟨extra, front⟩ := split_before absent parts
    obtain ⟨left, split, here⟩ := row.behind front
    obtain ⟨rfl, nonempty⟩ := here.offers
    refine ⟨nonempty, split, ?_⟩
    rintro e rfl interrupted
    obtain ⟨again, more, rfl⟩ := here.offers_again interrupted
    have same : .write offered again :: more ++ rest = later := by simpa [front] using parts
    exact ⟨again, more ++ rest, same ▸ rfl⟩
  cases sending with
  | stopped writes => exact inRow writes List.not_mem_nil (by simpa using parts)
  | unflushed writes => exact inRow writes (by simp) parts
  | sent writes => exact inRow writes (by simp) parts

theorem ok_iff (sending : Sending bytes trace result) (size : Nat) :
    result = .ok size ↔ size = bytes.length ∧ trace.flatMap Call.written = bytes ∧
      Call.flush (.ok ()) ∈ trace := by
  have noFlush {writes : List Call} {ending : Except IoError Unit}
      (row : Offering bytes writes ending) : Call.flush (.ok ()) ∉ writes := by
    intro member
    obtain ⟨offered, answer, write⟩ := row.isWrite _ member
    cases write
  cases sending with
  | stopped writes => simp [noFlush writes]
  | unflushed writes => simp [noFlush writes]
  | sent writes => simp [Call.written, writes.written_ok rfl, eq_comm]

theorem passed_ok {size : Nat} (sending : Sending bytes trace (.ok size)) :
    ∀ call ∈ trace, call.failure? = none := by
  cases sending with
  | sent writes => simpa [or_imp, forall_and, Call.failure?] using writes.passed rfl

theorem passed (sending : Sending bytes trace result) :
    ∀ call ∈ trace.dropLast, call.failure? = none := by
  cases sending with
  | stopped writes => exact (writes.stoppedBy rfl).2
  | unflushed writes => simpa using writes.passed rfl
  | sent writes => simpa using writes.passed rfl

theorem failed_iff (sending : Sending bytes trace result) (err : FrameError) :
    result = .error err ↔ ∃ e, err = .transport e ∧ StoppedBy trace e := by
  cases sending with
  | stopped writes =>
      rw [(writes.stoppedBy rfl).exists_iff, Except.error.injEq, eq_comm]
  | unflushed writes =>
      rw [(stoppedBy_concat.mpr ⟨rfl, writes.passed rfl⟩).exists_iff, Except.error.injEq, eq_comm]
  | sent writes => simp [stoppedBy_concat, Call.failure?]

end Sending

/-! ## The guarantee -/

/-- What holds of a send that made the calls of `trace`. -/
structure AllOrReported (bytes : List UInt8) (trace : List Call)
    (result : Except FrameError Nat) : Prop where
  calls : ∀ call ∈ trace, call.sends
  written : ∀ sofar, sofar <+: trace → sofar.flatMap Call.written <+: bytes
  offers : ∀ sofar offered answer later, trace = sofar ++ .write offered answer :: later →
    offered ≠ [] ∧ sofar.flatMap Call.written ++ offered = bytes
  silent : bytes = [] → ∀ offered answer, Call.write offered answer ∉ trace
  repeats : ∀ sofar offered e later, trace = sofar ++ .write offered (.error e) :: later →
    e.isInterrupted → ∃ again rest, later = .write offered again :: rest
  stops : ∀ sofar call later e, trace = sofar ++ call :: later → call.failure? = some e →
    later = []
  flush : ∀ sofar answer later, trace = sofar ++ .flush answer :: later →
    later = [] ∧ (∀ call ∈ sofar, ∃ offered answer, call = .write offered answer) ∧
      sofar.flatMap Call.written = bytes
  ok : ∀ size, result = .ok size ↔
    size = bytes.length ∧ trace.flatMap Call.written = bytes ∧ Call.flush (.ok ()) ∈ trace
  once : ∀ size, result = .ok size → ∃ writes, trace = writes ++ [.flush (.ok ())] ∧
    (∀ call ∈ writes, ∃ offered answer, call = .write offered answer) ∧
      writes.flatMap Call.written = bytes
  failed : ∀ err, result = .error err ↔ ∃ e, err = .transport e ∧ StoppedBy trace e

theorem send_allOrReported (bytes : List UInt8) (t : Transport) :
    ∃ trace, t.Run trace (send bytes t).2 ∧ AllOrReported bytes trace (send bytes t).1 := by
  obtain ⟨trace, sending, run⟩ := send_sending bytes t
  refine ⟨trace, run, ?_⟩
  constructor
  case calls => exact sending.sends
  case written =>
    intro sofar front
    exact (front.flatMap Call.written).trans sending.written_prefix
  case offers =>
    intro sofar offered answer later parts
    obtain ⟨nonempty, split, -⟩ := sending.write_behind parts
    exact ⟨nonempty, split⟩
  case silent =>
    rintro rfl offered answer member
    obtain ⟨sofar, later, parts⟩ := List.append_of_mem member
    obtain ⟨nonempty, split, -⟩ := sending.write_behind parts
    exact nonempty (List.append_eq_nil_iff.mp split).2
  case repeats =>
    intro sofar offered e later parts
    obtain ⟨-, -, again⟩ := sending.write_behind parts
    exact again e rfl
  case stops =>
    intro sofar call later e parts failed
    exact last_of_failure? sending.passed parts failed
  case flush =>
    intro sofar answer later parts
    obtain ⟨last, row⟩ := sending.flush_last parts
    exact ⟨last, row.isWrite, row.written_ok rfl⟩
  case ok => exact sending.ok_iff
  case once =>
    intro size complete
    rw [complete] at sending
    exact sending.complete.2
  case failed => exact sending.failed_iff

/-- An interrupted write is repeated with the same offer, and its error is not reported. -/
theorem send_interrupted_write :
    let t : Transport := { writes := [.error (.bare .interrupted)] }
    (send [88] t).2.calls = [.write [88] (.error (.bare .interrupted)), .write [88] (.ok 1),
      .flush (.ok ())] ∧ (send [88] t).1 = .ok 1 := by
  intro t
  have again : (IoError.bare .interrupted).isInterrupted := rfl
  have written : t.writeAll [88] = (.ok (), ((t.write [88]).2.write [88]).2) := by
    simp [t, write, writeAll, WriteEvent.take, again]
  unfold send
  rw [written]
  exact ⟨rfl, rfl⟩

end BackendLink
