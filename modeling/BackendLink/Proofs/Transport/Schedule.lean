import BackendLink.Transport.Receive
import Mathlib.Data.List.TakeWhile

/-!
# What a read script delivers to sized reads

A sized read repeats interrupted calls and waits out those that are not ready, so all it can tell of
a script is `arriving`, the bytes in front of the first event that stops it, and `ending`, what that
event is. One call takes bytes off the front of `arriving`, passes an interruption, or meets the
ending (`deliver_spec`).
-/

namespace BackendLink.ReadEvent

/-- Events that a sized read goes on past. An empty chunk is an end of stream. -/
def goesOn : ReadEvent → Bool
  | data bytes => !bytes.isEmpty
  | eof => false
  | error e => e.isInterrupted
  | notReady => true

def arriving (script : List ReadEvent) : List UInt8 := pending (script.takeWhile goesOn)

def ending (script : List ReadEvent) : Shortfall :=
  match script.find? fun event => !event.goesOn with
  | some (error e) => .failed e
  | _ => .endOfStream

@[simp] theorem pending_nil : pending [] = [] := rfl

@[simp] theorem pending_data (bytes : List UInt8) (rest : List ReadEvent) :
    pending (.data bytes :: rest) = bytes ++ pending rest := rfl

@[simp] theorem pending_eof (rest : List ReadEvent) : pending (.eof :: rest) = pending rest := rfl

@[simp] theorem pending_error (e : IoError) (rest : List ReadEvent) :
    pending (.error e :: rest) = pending rest := rfl

@[simp] theorem pending_notReady (rest : List ReadEvent) :
    pending (.notReady :: rest) = pending rest := rfl

theorem arriving_cons {event : ReadEvent} (passes : event.goesOn) (rest : List ReadEvent) :
    arriving (event :: rest) = pending [event] ++ arriving rest := by
  simp only [arriving, List.takeWhile_cons, passes, if_true]
  cases event <;> simp

theorem ending_cons {event : ReadEvent} (passes : event.goesOn) (rest : List ReadEvent) :
    ending (event :: rest) = ending rest := by
  simp [ending, passes]

theorem arriving_stop {event : ReadEvent} (stops : ¬ event.goesOn) (rest : List ReadEvent) :
    arriving (event :: rest) = [] := by
  simp [arriving, stops]

theorem arriving_eq_pending {script : List ReadEvent} (passes : ∀ event ∈ script, event.goesOn) :
    arriving script = pending script := by
  rw [arriving, List.takeWhile_eq_self_iff.mpr passes]

/-! ## One call -/

theorem deliver_fits {asked : Nat} {bytes : List UInt8} (fits : bytes.length ≤ asked)
    (rest : List ReadEvent) : deliver asked (.data bytes :: rest) = (.ok bytes, rest) := by
  simp [deliver, fits]

theorem deliver_splits {asked : Nat} {bytes : List UInt8} (splits : ¬ bytes.length ≤ asked)
    (rest : List ReadEvent) :
    deliver asked (.data bytes :: rest) =
      (.ok (bytes.take asked), .data (bytes.drop asked) :: rest) := by
  simp [deliver, splits]

theorem deliver_spec {asked : Nat} (positive : 0 < asked) (script : List ReadEvent) :
    match deliver asked script with
    | (.ok [], _) => arriving script = [] ∧ ending script = .endOfStream
    | (.ok bytes, after) => arriving script = bytes ++ arriving after ∧ ending script = ending after
    | (.error e, after) =>
        if e.isInterrupted then arriving script = arriving after ∧ ending script = ending after
        else arriving script = [] ∧ ending script = .failed e := by
  induction script with
  | nil => exact ⟨rfl, rfl⟩
  | cons event rest ih =>
      cases event with
      | notReady => exact ih
      | eof => exact ⟨rfl, rfl⟩
      | error e =>
          by_cases passes : goesOn (.error e)
          · simpa [deliver, show e.isInterrupted from passes] using
              ⟨arriving_cons passes rest, ending_cons passes rest⟩
          · have final : ¬ e.isInterrupted := passes
            have same : ending (.error e :: rest) = .failed e := by simp [ending, passes]
            simpa [deliver, final] using ⟨arriving_stop passes rest, same⟩
      | data chunk =>
          cases chunk with
          | nil => exact ⟨rfl, rfl⟩
          | cons b bytes =>
              have passes : goesOn (.data (b :: bytes)) := rfl
              by_cases fits : (b :: bytes).length ≤ asked
              · rw [deliver_fits fits]
                exact ⟨by simpa using arriving_cons passes rest, ending_cons passes rest⟩
              · -- The part of the chunk that is left is not empty, so it stops no later call.
                have left : goesOn (.data ((b :: bytes).drop asked)) := by
                  simp only [goesOn, Bool.not_eq_true', List.isEmpty_eq_false_iff, ne_eq,
                    List.drop_eq_nil_iff]
                  exact fits
                obtain ⟨n, rfl⟩ := Nat.exists_eq_add_one.mpr positive
                rw [deliver_splits fits, List.take_succ_cons]
                constructor
                · rw [arriving_cons passes, arriving_cons left]
                  simp [← List.append_assoc]
                · rw [ending_cons passes, ending_cons left]

theorem pending_deliver (asked : Nat) (script : List ReadEvent) :
    pending script =
      ((deliver asked script).1.toOption.getD []) ++ pending (deliver asked script).2 := by
  induction script with
  | nil => rfl
  | cons event rest ih =>
      cases event with
      | notReady => exact ih
      | eof => rfl
      | error e => rfl
      | data chunk =>
          by_cases fits : chunk.length ≤ asked
          · rw [deliver_fits fits]
            rfl
          · rw [deliver_splits fits]
            simp [Except.toOption, ← List.append_assoc]

end BackendLink.ReadEvent

namespace BackendLink.Transport
open ReadEvent

abbrev arriving (t : Transport) : List UInt8 := ReadEvent.arriving t.reads

abbrev ending (t : Transport) : Shortfall := ReadEvent.ending t.reads

theorem read_spec {asked : Nat} (positive : 0 < asked) (t : Transport) :
    match t.read asked with
    | (.ok [], _) => t.arriving = [] ∧ t.ending = .endOfStream
    | (.ok bytes, after) => t.arriving = bytes ++ after.arriving ∧ t.ending = after.ending
    | (.error e, after) =>
        if e.isInterrupted then t.arriving = after.arriving ∧ t.ending = after.ending
        else t.arriving = [] ∧ t.ending = .failed e := by
  have spec := deliver_spec positive t.reads
  unfold read
  generalize deliver asked t.reads = outcome at spec ⊢
  rcases outcome with ⟨e | _ | ⟨b, bytes⟩, after⟩ <;> exact spec

variable {asked : Nat} {t after : Transport} {e : IoError}

theorem read_nothing (positive : 0 < asked) (call : t.read asked = (.ok [], after)) :
    t.arriving = [] ∧ t.ending = .endOfStream := by
  simpa only [call] using read_spec positive t

theorem read_bytes {b : UInt8} {bytes : List UInt8} (positive : 0 < asked)
    (call : t.read asked = (.ok (b :: bytes), after)) :
    t.arriving = b :: bytes ++ after.arriving ∧ t.ending = after.ending := by
  simpa only [call] using read_spec positive t

theorem read_interrupted (positive : 0 < asked) (call : t.read asked = (.error e, after))
    (interrupted : e.isInterrupted) :
    t.arriving = after.arriving ∧ t.ending = after.ending := by
  simpa only [call, interrupted, if_true] using read_spec positive t

theorem read_failed (positive : 0 < asked) (call : t.read asked = (.error e, after))
    (final : ¬ e.isInterrupted) : t.arriving = [] ∧ t.ending = .failed e := by
  simpa only [call, final, Bool.false_eq_true, if_false] using read_spec positive t

theorem deliver_of_read {result : Except IoError (List UInt8)}
    (call : t.read asked = (result, after)) : deliver asked t.reads = (result, after.reads) := by
  cases call
  rfl

theorem length_le_of_read {bytes : List UInt8}
    (call : t.read asked = (.ok bytes, after)) : bytes.length ≤ asked :=
  length_deliver_ok (deliver_of_read call)

theorem unread_read (asked : Nat) (t : Transport) :
    t.unread = ((t.read asked).1.toOption.getD []) ++ (t.read asked).2.unread :=
  pending_deliver asked t.reads

end BackendLink.Transport
