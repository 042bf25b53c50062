import BackendLink.IoError

/-!
# Transports

A transport is a byte stream seen from one side: what its reads, writes, flushes and shutdowns are
going to answer, and the calls made on it so far. A call that is not ready waits for the next entry
of its script, so waiting shows nowhere in the calls.

Past the end of a script the stream is at its end, takes every write, and succeeds at the rest.
-/

namespace BackendLink

/-- What the next read meets. -/
inductive ReadEvent
  /-- Bytes that have arrived; an empty chunk is an end of stream seen once. -/
  | data (bytes : List UInt8)
  | eof
  | error (error : IoError)
  | notReady
  deriving DecidableEq, Repr

/-- What the next write meets. -/
inductive WriteEvent
  /-- Room for at most `limit` bytes. -/
  | room (limit : Nat)
  | error (error : IoError)
  | notReady
  deriving DecidableEq, Repr

/-- What the next flush or shutdown meets. -/
inductive SignalEvent
  | done
  | error (error : IoError)
  | notReady
  deriving DecidableEq, Repr

/-- One completed call. -/
inductive Call
  | read (asked : Nat) (result : Except IoError (List UInt8))
  | write (offered : List UInt8) (result : Except IoError Nat)
  | flush (result : Except IoError Unit)
  | shutdown (result : Except IoError Unit)

structure Transport where
  reads : List ReadEvent := []
  writes : List WriteEvent := []
  flushes : List SignalEvent := []
  shutdowns : List SignalEvent := []
  /-- The calls so far, the first one first. -/
  calls : List Call := []

namespace ReadEvent

/-- What a read for at most `asked` bytes delivers, and the script it leaves. -/
def deliver (asked : Nat) : List ReadEvent → Except IoError (List UInt8) × List ReadEvent
  | [] => (.ok [], [])
  | .notReady :: rest => deliver asked rest
  | .eof :: rest => (.ok [], rest)
  | .error e :: rest => (.error e, rest)
  | .data bytes :: rest =>
    if bytes.length ≤ asked then (.ok bytes, rest)
    else (.ok (bytes.take asked), .data (bytes.drop asked) :: rest)

/-- The data of a script in order, whatever stands between. -/
def pending (script : List ReadEvent) : List UInt8 :=
  script.flatMap fun
    | .data bytes => bytes
    | _ => []

/-- A call leaves no more of a script than there was. -/
theorem length_deliver_le (asked : Nat) (script : List ReadEvent) :
    (deliver asked script).2.length ≤ script.length := by
  induction script with
  | nil => simp [deliver]
  | cons event rest ih =>
    cases event with
    | notReady => simpa [deliver] using Nat.le_succ_of_le ih
    | eof => simp [deliver]
    | error e => simp [deliver]
    | data bytes => by_cases fits : bytes.length ≤ asked <;> simp [deliver, fits]

/-- A failed call has used up its entry. -/
theorem length_deliver_error {asked : Nat} {script after : List ReadEvent} {e : IoError}
    (failed : deliver asked script = (.error e, after)) : after.length < script.length := by
  induction script with
  | nil => simp [deliver] at failed
  | cons event rest ih =>
    cases event with
    | notReady => exact Nat.lt_succ_of_lt (ih (by simpa [deliver] using failed))
    | eof => simp [deliver] at failed
    | error _ => simp [deliver] at failed; simp [failed.2]
    | data bytes =>
      by_cases fits : bytes.length ≤ asked <;> simp [deliver, fits] at failed

/-- No call delivers more than was asked for. -/
theorem length_deliver_ok {asked : Nat} {script after : List ReadEvent} {bytes : List UInt8}
    (delivered : deliver asked script = (.ok bytes, after)) : bytes.length ≤ asked := by
  induction script with
  | nil => simp [deliver] at delivered; simp [delivered]
  | cons event rest ih =>
    cases event with
    | notReady => exact ih (by simpa [deliver] using delivered)
    | eof => simp [deliver] at delivered; simp [delivered]
    | error _ => simp [deliver] at delivered
    | data chunk =>
      by_cases fits : chunk.length ≤ asked
      · simp [deliver, fits] at delivered
        simp [← delivered.1, fits]
      · simp only [deliver, fits, if_false, Prod.mk.injEq, Except.ok.injEq] at delivered
        rw [← delivered.1, List.length_take]
        exact Nat.min_le_left _ _

end ReadEvent

/-- How many of `offered` bytes a write takes, and the script it leaves. -/
def WriteEvent.take (offered : Nat) : List WriteEvent → Except IoError Nat × List WriteEvent
  | [] => (.ok offered, [])
  | .notReady :: rest => WriteEvent.take offered rest
  | .error e :: rest => (.error e, rest)
  | .room limit :: rest => (.ok (min limit offered), rest)

/-- A call leaves no more of a script than there was. -/
theorem WriteEvent.length_take_le (offered : Nat) (script : List WriteEvent) :
    (WriteEvent.take offered script).2.length ≤ script.length := by
  induction script with
  | nil => simp [WriteEvent.take]
  | cons event rest ih =>
    cases event with
    | notReady => simpa [WriteEvent.take] using Nat.le_succ_of_le ih
    | error e => simp [WriteEvent.take]
    | room limit => simp [WriteEvent.take]

/-- A failed call has used up its entry. -/
theorem WriteEvent.length_take_error {offered : Nat} {script after : List WriteEvent} {e : IoError}
    (failed : WriteEvent.take offered script = (.error e, after)) :
    after.length < script.length := by
  induction script with
  | nil => simp [WriteEvent.take] at failed
  | cons event rest ih =>
    cases event with
    | notReady => exact Nat.lt_succ_of_lt (ih (by simpa [WriteEvent.take] using failed))
    | error _ => simp [WriteEvent.take] at failed; simp [failed.2]
    | room limit => simp [WriteEvent.take] at failed

/-- The answer to a flush or shutdown, and the script it leaves. -/
def SignalEvent.answer : List SignalEvent → Except IoError Unit × List SignalEvent
  | [] => (.ok (), [])
  | .notReady :: rest => SignalEvent.answer rest
  | .done :: rest => (.ok (), rest)
  | .error e :: rest => (.error e, rest)

namespace Transport

/-- One read for at most `asked` bytes. -/
def read (asked : Nat) (t : Transport) : Except IoError (List UInt8) × Transport :=
  let (result, reads) := ReadEvent.deliver asked t.reads
  (result, { t with reads, calls := t.calls ++ [.read asked result] })

/-- One write that offers `bytes`. -/
def write (bytes : List UInt8) (t : Transport) : Except IoError Nat × Transport :=
  let (result, writes) := WriteEvent.take bytes.length t.writes
  (result, { t with writes, calls := t.calls ++ [.write bytes result] })

def flush (t : Transport) : Except IoError Unit × Transport :=
  let (result, flushes) := SignalEvent.answer t.flushes
  (result, { t with flushes, calls := t.calls ++ [.flush result] })

def shutdown (t : Transport) : Except IoError Unit × Transport :=
  let (result, shutdowns) := SignalEvent.answer t.shutdowns
  (result, { t with shutdowns, calls := t.calls ++ [.shutdown result] })

/-- Data that has arrived and was not read yet. -/
def unread (t : Transport) : List UInt8 := ReadEvent.pending t.reads

end Transport

/-- The bytes that a call put on the stream. -/
def Call.written : Call → List UInt8
  | .write offered (.ok taken) => offered.take taken
  | _ => []

/-- The bytes that a call took off the stream. -/
def Call.delivered : Call → List UInt8
  | .read _ (.ok bytes) => bytes
  | _ => []

/-- All that was put on the stream, in order. -/
def Transport.written (t : Transport) : List UInt8 := t.calls.flatMap Call.written

end BackendLink
