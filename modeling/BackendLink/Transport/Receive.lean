import BackendLink.Transport
import BackendLink.Wire.Message

/-!
# Receiving messages

A message is read in two sized reads, the header and then the payload that the header declares, so
nothing behind the message is taken off the stream. A sized read asks for exactly what is missing,
until it has everything, the stream ends or a read fails; a read cut short by a signal is repeated.
-/

namespace BackendLink
open Wire

/-- Why a sized read ended early. -/
inductive Shortfall
  | endOfStream
  | failed (error : IoError)
  deriving DecidableEq, Repr

/-- The outcome of a sized read: what arrived, and what ended it early, if anything did. -/
structure SizedRead where
  bytes : List UInt8
  shortfall : Option Shortfall
  deriving DecidableEq, Repr

namespace Transport

theorem reads_read_le (asked : Nat) (t : Transport) :
    (t.read asked).2.reads.length ≤ t.reads.length :=
  ReadEvent.length_deliver_le asked t.reads

theorem reads_read_lt_of_error {asked : Nat} {t after : Transport} {e : IoError}
    (failed : t.read asked = (.error e, after)) : after.reads.length < t.reads.length := by
  have result := congrArg Prod.fst failed
  have left := congrArg (fun outcome => outcome.2.reads) failed
  simp only [read] at result left
  rw [← left]
  exact ReadEvent.length_deliver_error (Prod.ext result rfl)

/-- Reads until `missing` bytes have arrived. -/
def readExactly (missing : Nat) (t : Transport) : SizedRead × Transport :=
  if missing = 0 then (⟨[], none⟩, t)
  else match _ : t.read missing with
    | (.ok [], after) => (⟨[], some .endOfStream⟩, after)
    | (.ok (b :: bytes), after) =>
      let (rest, last) := readExactly (missing - (bytes.length + 1)) after
      (⟨b :: bytes ++ rest.bytes, rest.shortfall⟩, last)
    | (.error e, after) =>
      if e.isInterrupted then readExactly missing after
      else (⟨[], some (.failed e)⟩, after)
termination_by missing + t.reads.length
decreasing_by
  · rename_i outcome
    have shorter := reads_read_le missing t
    rw [outcome] at shorter
    simp only at shorter
    omega
  · rename_i outcome _
    have shorter := reads_read_lt_of_error outcome
    omega

end Transport

/-- The error of a sized read that ended early. -/
def Shortfall.error (read expected : Nat) : Shortfall → FrameError
  | .endOfStream => .incomplete read expected
  | .failed e => .readFailed read expected e

theorem Transport.length_readExactly (missing : Nat) (t : Transport)
    (complete : (t.readExactly missing).1.shortfall = none) :
    (t.readExactly missing).1.bytes.length = missing := by
  fun_induction Transport.readExactly missing t with
  | case1 => rfl
  | case2 => simp at complete
  | case3 missing t positive b bytes after outcome rest last recursive ih =>
    have bound : (b :: bytes).length ≤ missing := by
      have delivered := congrArg Prod.fst outcome
      simp only [read] at delivered
      exact ReadEvent.length_deliver_ok (Prod.ext delivered rfl)
    have length := ih (by rw [recursive]; exact complete)
    rw [recursive] at length
    simp only [List.length_cons, List.length_append, List.cons_append] at length bound ⊢
    omega
  | case4 missing t positive e after outcome interrupted ih => exact ih complete
  | case5 => simp at complete

/-- Reads one message of the given kind. -/
def receiveKind (kind : Kind) (t : Transport) : Except FrameError Message × Transport :=
  match outcome : t.readExactly kind.headerSize with
  | (⟨header, some stop⟩, after) => (.error (stop.error header.length kind.headerSize), after)
  | (⟨header, none⟩, after) =>
    let declared := kind.declaredLength header
    if sizeLimit < declared.toNat then (.error (.tooLarge declared.toNat sizeLimit), after)
    else match after.readExactly (payloadLength declared) with
      | (⟨payload, some stop⟩, last) =>
        (.error (stop.error payload.length (payloadLength declared)), last)
      | (⟨payload, none⟩, last) =>
        (.ok ⟨kind, header ++ payload, by
          have complete := t.length_readExactly kind.headerSize (by rw [outcome])
          rw [outcome] at complete
          simp only at complete
          simp [complete]⟩, last)

/-- Reads the first message of a connection. -/
def receiveStartup (t : Transport) : Except FrameError Message × Transport :=
  receiveKind .startup t

/-- Reads any later message. -/
def receive (t : Transport) : Except FrameError Message × Transport :=
  receiveKind .regular t

end BackendLink
