import BackendLink.Proofs.Transport.Run
import BackendLink.Transport.Send

/-!
# The writes of a send

`Offering` lists the rows of writes that a send can make: each offers exactly what is left, and the
row ends when nothing is left, when a write takes nothing, or when one fails for good. All that the
writes put on the stream follows from it.
-/

namespace BackendLink
open Transport Wire

/-- The error with which a call ends what it is part of. An interrupted write is repeated, and a
shutdown ends nothing. -/
def Call.failure? : Call → Option IoError
  | .read _ (.error e) => some e
  | .write _ (.error e) => if e.isInterrupted then none else some e
  | .write (_ :: _) (.ok 0) => some (.bare .writeZero)
  | .flush (.error e) => some e
  | _ => none

theorem Call.failure?_taken (offered : List UInt8) {size : Nat} (positive : 0 < size) :
    (Call.write offered (.ok size)).failure? = none := by
  obtain ⟨n, rfl⟩ := Nat.exists_eq_add_one.mpr positive
  cases offered <;> rfl

theorem Call.failure?_interrupted (offered : List UInt8) {e : IoError} (again : e.isInterrupted) :
    (Call.write offered (.error e)).failure? = none := by
  simp [failure?, again]

/-- The writes that offer `bytes` until all of it is taken, and how they end. -/
inductive Offering : List UInt8 → List Call → Except IoError Unit → Prop
  | done : Offering [] [] (.ok ())
  | taken {bytes : List UInt8} {size : Nat} {trace : List Call} {result : Except IoError Unit}
      (positive : 0 < size) (le : size ≤ bytes.length)
      (rest : Offering (bytes.drop size) trace result) :
      Offering bytes (.write bytes (.ok size) :: trace) result
  | interrupted {bytes : List UInt8} {e : IoError} {trace : List Call}
      {result : Except IoError Unit} (nonempty : bytes ≠ []) (again : e.isInterrupted)
      (rest : Offering bytes trace result) :
      Offering bytes (.write bytes (.error e) :: trace) result
  | refused {b : UInt8} {bytes : List UInt8} :
      Offering (b :: bytes) [.write (b :: bytes) (.ok 0)] (.error (.bare .writeZero))
  | failed {bytes : List UInt8} {e : IoError} (nonempty : bytes ≠ [])
      (final : ¬ e.isInterrupted) :
      Offering bytes [.write bytes (.error e)] (.error e)

/-! ## The writes of `writeAll` -/

theorem WriteEvent.take_le {offered taken : Nat} {script after : List WriteEvent}
    (call : WriteEvent.take offered script = (.ok taken, after)) : taken ≤ offered := by
  induction script with
  | nil => cases call; exact Nat.le_refl _
  | cons event rest ih =>
      cases event with
      | room limit => cases call; exact Nat.min_le_right _ _
      | error e => cases call
      | notReady => exact ih call

theorem Transport.le_length_of_write {bytes : List UInt8} {t after : Transport} {taken : Nat}
    (call : t.write bytes = (.ok taken, after)) : taken ≤ bytes.length := by
  have answer := congrArg Prod.fst call
  exact WriteEvent.take_le (Prod.ext answer rfl)

theorem writeAll_offering (bytes : List UInt8) (t : Transport) :
    ∃ trace, Offering bytes trace (t.writeAll bytes).1 ∧ t.Run trace (t.writeAll bytes).2 := by
  fun_induction Transport.writeAll bytes t with
  | case1 t => exact ⟨[], .done, .nil t⟩
  | case2 bytes t nonempty e after call again ih =>
      obtain ⟨trace, offering, run⟩ := ih
      exact ⟨_, .interrupted nonempty again offering, .cons call run⟩
  | case3 bytes t nonempty e after call final =>
      exact ⟨_, .failed nonempty final, .cons call (.nil after)⟩
  | case4 bytes t nonempty after call =>
      obtain ⟨b, rest, rfl⟩ := List.exists_cons_of_ne_nil nonempty
      exact ⟨_, .refused, .cons call (.nil after)⟩
  | case5 bytes t nonempty taken after call ih =>
      obtain ⟨trace, offering, run⟩ := ih
      exact ⟨_, .taken (Nat.succ_pos _) (le_length_of_write call) offering, .cons call run⟩

/-! ## What the writes have in common -/

namespace Offering

variable {bytes : List UInt8} {trace : List Call} {result : Except IoError Unit} {e : IoError}

theorem isWrite (offering : Offering bytes trace result) :
    ∀ call ∈ trace, ∃ offered answer, call = .write offered answer := by
  induction offering with
  | done => simp
  | taken _ _ _ ih => simpa using ih
  | interrupted _ _ _ ih => simpa using ih
  | refused => simp
  | failed => simp

theorem written_prefix (offering : Offering bytes trace result) :
    trace.flatMap Call.written <+: bytes := by
  induction offering with
  | done => exact List.prefix_rfl
  | @taken bytes size trace _ _ _ _ ih =>
      have front := (List.prefix_append_right_inj (bytes.take size)).mpr ih
      rwa [List.take_append_drop] at front
  | interrupted _ _ _ ih => exact ih
  | refused => exact List.nil_prefix
  | failed => exact List.nil_prefix

theorem written_ok (offering : Offering bytes trace result) (complete : result = .ok ()) :
    trace.flatMap Call.written = bytes := by
  induction offering with
  | done => rfl
  | @taken bytes size trace _ _ _ _ ih =>
      rw [List.flatMap_cons, ih complete]
      exact List.take_append_drop size bytes
  | interrupted _ _ _ ih => exact ih complete
  | refused => cases complete
  | failed => cases complete

theorem written_lt (offering : Offering bytes trace result) (stopped : result = .error e) :
    (trace.flatMap Call.written).length < bytes.length := by
  induction offering with
  | done => cases stopped
  | @taken bytes size trace _ _ le _ ih =>
      have rest := ih stopped
      rw [List.flatMap_cons, List.length_append, Call.written, List.length_take_of_le le]
      rw [List.length_drop] at rest
      omega
  | interrupted _ _ _ ih => exact ih stopped
  | refused => exact Nat.succ_pos _
  | failed nonempty _ => exact List.length_pos_iff.mpr nonempty

theorem failure?_last (offering : Offering bytes trace result) (stopped : result = .error e) :
    ∃ before call, trace = before ++ [call] ∧ call.failure? = some e ∧
      ∀ earlier ∈ before, earlier.failure? = none := by
  induction offering with
  | done => cases stopped
  | taken positive _ _ ih =>
      obtain ⟨before, call, rfl, failed, passed⟩ := ih stopped
      exact ⟨_ :: before, call, rfl, failed,
        List.forall_mem_cons.mpr ⟨Call.failure?_taken _ positive, passed⟩⟩
  | interrupted _ again _ ih =>
      obtain ⟨before, call, rfl, failed, passed⟩ := ih stopped
      exact ⟨_ :: before, call, rfl, failed,
        List.forall_mem_cons.mpr ⟨Call.failure?_interrupted _ again, passed⟩⟩
  | refused =>
      cases stopped
      exact ⟨[], _, rfl, rfl, by simp⟩
  | failed _ final =>
      cases stopped
      exact ⟨[], _, rfl, by simp [Call.failure?, final], by simp⟩

end Offering

/-! ## Sends -/

/-- The calls of a send: the writes and, when they took everything, one flush. -/
inductive Sending (bytes : List UInt8) : List Call → Except FrameError Nat → Prop
  | stopped {trace : List Call} {e : IoError} (writes : Offering bytes trace (.error e)) :
      Sending bytes trace (.error (.transport e))
  | unflushed {trace : List Call} {e : IoError} (writes : Offering bytes trace (.ok ())) :
      Sending bytes (trace ++ [.flush (.error e)]) (.error (.transport e))
  | sent {trace : List Call} (writes : Offering bytes trace (.ok ())) :
      Sending bytes (trace ++ [.flush (.ok ())]) (.ok bytes.length)

theorem send_sending (bytes : List UInt8) (t : Transport) :
    ∃ trace, Sending bytes trace (send bytes t).1 ∧ t.Run trace (send bytes t).2 := by
  obtain ⟨trace, writes, run⟩ := writeAll_offering bytes t
  unfold send
  split
  · rename_i e after written
    rw [written] at writes run
    exact ⟨trace, .stopped writes, run⟩
  · rename_i after written
    rw [written] at writes run
    have flushed := run.append (step_flush after).run
    split
    · rename_i e last answer
      rw [answer] at flushed
      exact ⟨_, .unflushed writes, flushed⟩
    · rename_i last answer
      rw [answer] at flushed
      exact ⟨_, .sent writes, flushed⟩

def Call.sends : Call → Bool
  | .write .. | .flush _ => true
  | .read .. | .shutdown _ => false

theorem Transport.Run.reads_of_sends {t after : Transport} {trace : List Call}
    (run : t.Run trace after) (sends : ∀ call ∈ trace, call.sends) : after.reads = t.reads := by
  induction run with
  | nil => rfl
  | @cons t next after call trace step _ ih =>
      obtain ⟨first, rest⟩ := List.forall_mem_cons.mp sends
      rw [ih rest]
      cases call with
      | read asked result => cases first
      | write offered result => cases step; rfl
      | flush result => cases step; rfl
      | shutdown result => cases first

namespace Sending

variable {bytes : List UInt8} {trace : List Call} {result : Except FrameError Nat}

theorem sends (sending : Sending bytes trace result) : ∀ call ∈ trace, call.sends := by
  have ofWrites {row : List Call} {ending : Except IoError Unit}
      (writes : Offering bytes row ending) : ∀ call ∈ row, call.sends := by
    intro call member
    obtain ⟨offered, answer, rfl⟩ := writes.isWrite call member
    rfl
  cases sending with
  | stopped writes => exact ofWrites writes
  | unflushed writes => simpa [Call.sends, or_imp, forall_and] using ofWrites writes
  | sent writes => simpa [Call.sends, or_imp, forall_and] using ofWrites writes

theorem written_prefix (sending : Sending bytes trace result) :
    trace.flatMap Call.written <+: bytes := by
  cases sending with
  | stopped writes => exact writes.written_prefix
  | unflushed writes => simpa [Call.written] using writes.written_prefix
  | sent writes => simpa [Call.written] using writes.written_prefix

theorem complete {size : Nat} (sending : Sending bytes trace (.ok size)) :
    size = bytes.length ∧ ∃ writes, trace = writes ++ [.flush (.ok ())] ∧
      (∀ call ∈ writes, ∃ offered answer, call = .write offered answer) ∧
      writes.flatMap Call.written = bytes := by
  cases sending with
  | sent writes => exact ⟨rfl, _, rfl, writes.isWrite, writes.written_ok rfl⟩

/-- Whatever the flush answers, it is the last call of a send and the only one that is no write. -/
theorem flush_last {answer : Except IoError Unit} {sofar later : List Call}
    (sending : Sending bytes trace result) (parts : trace = sofar ++ .flush answer :: later) :
    later = [] ∧ Offering bytes sofar (.ok ()) := by
  have onlyFlush {writes : List Call} {last : Except IoError Unit}
      (row : Offering bytes writes (.ok ())) (trace_eq : trace = writes ++ [.flush last]) :
      later = [] ∧ Offering bytes sofar (.ok ()) := by
    obtain ⟨extra, rfl, same⟩ := split_behind row.isWrite (by simp) (trace_eq ▸ parts)
    cases extra with
    | nil =>
        rw [List.append_nil]
        exact ⟨(List.cons.inj same).2.symm, row⟩
    | cons first extra => simp at same
  cases sending with
  | stopped writes =>
      obtain ⟨offered, result, write⟩ := writes.isWrite (.flush answer) (by simp [parts])
      cases write
  | unflushed writes => exact onlyFlush writes rfl
  | sent writes => exact onlyFlush writes rfl

theorem flush_behind {answer : Except IoError Unit} {sofar later : List Call}
    (sending : Sending bytes trace result) (parts : trace = sofar ++ .flush answer :: later) :
    (∀ call ∈ sofar, ∃ offered answer, call = .write offered answer) ∧
      sofar.flatMap Call.written = bytes := by
  obtain ⟨-, row⟩ := sending.flush_last parts
  exact ⟨row.isWrite, row.written_ok rfl⟩

end Sending

/-! ## Writes that never fail -/

def WriteEvent.accepts : WriteEvent → Bool
  | .room limit => 0 < limit
  | .error _ => false
  | .notReady => true

def SignalEvent.succeeds : SignalEvent → Bool
  | .error _ => false
  | .done | .notReady => true

theorem WriteEvent.take_accepts {offered : Nat} (positive : 0 < offered)
    {script : List WriteEvent} (accepting : ∀ event ∈ script, event.accepts) :
    ∃ size after, WriteEvent.take offered script = (.ok (size + 1), after) ∧
      ∀ event ∈ after, event.accepts := by
  induction script with
  | nil =>
      obtain ⟨size, rfl⟩ := Nat.exists_eq_add_one.mpr positive
      exact ⟨size, [], rfl, accepting⟩
  | cons event rest ih =>
      obtain ⟨first, others⟩ := List.forall_mem_cons.mp accepting
      cases event with
      | notReady => exact ih others
      | error e => cases first
      | room limit =>
          have room : 0 < limit := by simpa [accepts] using first
          obtain ⟨size, taken⟩ : ∃ size, min limit offered = size + 1 :=
            Nat.exists_eq_add_one.mpr (by omega)
          exact ⟨size, rest, by rw [WriteEvent.take, taken], others⟩

theorem Transport.write_accepts {bytes : List UInt8} (nonempty : bytes ≠ [])
    {t after : Transport} {result : Except IoError Nat}
    (accepting : ∀ event ∈ t.writes, event.accepts) (call : t.write bytes = (result, after)) :
    (∃ size, result = .ok (size + 1)) ∧ ∀ event ∈ after.writes, event.accepts := by
  obtain ⟨size, writes, taken, others⟩ :=
    WriteEvent.take_accepts (List.length_pos_iff.mpr nonempty) accepting
  rw [write, taken] at call
  cases call
  exact ⟨⟨size, rfl⟩, others⟩

theorem Transport.writeAll_accepts (bytes : List UInt8) (t : Transport)
    (accepting : ∀ event ∈ t.writes, event.accepts) :
    (t.writeAll bytes).1 = .ok () ∧ ∀ event ∈ (t.writeAll bytes).2.writes, event.accepts := by
  fun_induction writeAll bytes t with
  | case1 t => exact ⟨rfl, accepting⟩
  | case2 bytes t nonempty e after call again ih =>
      obtain ⟨⟨size, taken⟩, -⟩ := write_accepts nonempty accepting call
      cases taken
  | case3 bytes t nonempty e after call final =>
      obtain ⟨⟨size, taken⟩, -⟩ := write_accepts nonempty accepting call
      cases taken
  | case4 bytes t nonempty after call =>
      obtain ⟨⟨size, taken⟩, -⟩ := write_accepts nonempty accepting call
      cases taken
  | case5 bytes t nonempty size after call ih =>
      obtain ⟨-, others⟩ := write_accepts nonempty accepting call
      exact ih others

theorem SignalEvent.answer_succeeds {script : List SignalEvent}
    (succeeding : ∀ event ∈ script, event.succeeds) :
    (SignalEvent.answer script).1 = .ok () ∧
      ∀ event ∈ (SignalEvent.answer script).2, event.succeeds := by
  induction script with
  | nil => exact ⟨rfl, succeeding⟩
  | cons event rest ih =>
      obtain ⟨first, others⟩ := List.forall_mem_cons.mp succeeding
      cases event with
      | done => exact ⟨rfl, others⟩
      | error e => cases first
      | notReady => exact ih others

theorem Transport.flushes_of_write {bytes : List UInt8} {t after : Transport}
    {result : Except IoError Nat} (call : t.write bytes = (result, after)) :
    after.flushes = t.flushes := by
  cases call
  rfl

theorem Transport.flushes_writeAll (bytes : List UInt8) (t : Transport) :
    (t.writeAll bytes).2.flushes = t.flushes := by
  fun_induction writeAll bytes t with
  | case1 t => rfl
  | case2 bytes t nonempty e after call again ih => exact ih.trans (flushes_of_write call)
  | case3 bytes t nonempty e after call final => exact flushes_of_write call
  | case4 bytes t nonempty after call => exact flushes_of_write call
  | case5 bytes t nonempty size after call ih => exact ih.trans (flushes_of_write call)

theorem send_of_writeAll {bytes : List UInt8} {t : Transport}
    (complete : (t.writeAll bytes).1 = .ok ()) :
    send bytes t =
      (match (t.writeAll bytes).2.flush.1 with
        | .error e => .error (.transport e)
        | .ok () => .ok bytes.length,
      (t.writeAll bytes).2.flush.2) := by
  unfold send
  split
  · rename_i e after written
    rw [written] at complete
    cases complete
  · rename_i after written
    simp only [written]
    split <;> rename_i answer <;> rw [answer]

theorem send_accepts (bytes : List UInt8) {t : Transport}
    (accepting : ∀ event ∈ t.writes, event.accepts) :
    (send bytes t).2.written = t.written ++ bytes ∧
      ∀ event ∈ (send bytes t).2.writes, event.accepts := by
  obtain ⟨complete, others⟩ := t.writeAll_accepts bytes accepting
  obtain ⟨trace, writes, run⟩ := writeAll_offering bytes t
  rw [send_of_writeAll complete]
  refine ⟨?_, others⟩
  rw [(run.append (step_flush _).run).written, List.flatMap_append, writes.written_ok complete]
  simp [Call.written]

theorem send_ok (bytes : List UInt8) {t : Transport}
    (accepting : ∀ event ∈ t.writes, event.accepts)
    (flushing : ∀ event ∈ t.flushes, event.succeeds) :
    (send bytes t).1 = .ok bytes.length ∧ ∀ event ∈ (send bytes t).2.flushes, event.succeeds := by
  obtain ⟨complete, -⟩ := t.writeAll_accepts bytes accepting
  rw [← t.flushes_writeAll bytes] at flushing
  obtain ⟨answer, left⟩ := SignalEvent.answer_succeeds flushing
  rw [send_of_writeAll complete]
  refine ⟨?_, left⟩
  rw [show (t.writeAll bytes).2.flush.1 = .ok () from answer]

end BackendLink
