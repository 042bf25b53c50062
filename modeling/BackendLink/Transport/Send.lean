import BackendLink.Transport
import BackendLink.Wire.FrameError

/-!
# Sending messages

The bytes of a message are offered until the stream has taken all of them, then the stream is
flushed once. A write cut short by a signal is repeated; any other failed call ends the send, and a
write that takes nothing of a non-empty offer counts as a failure.
-/

namespace BackendLink
open Wire

namespace Transport

theorem writes_write_le (bytes : List UInt8) (t : Transport) :
    (t.write bytes).2.writes.length ≤ t.writes.length :=
  WriteEvent.length_take_le bytes.length t.writes

theorem writes_write_lt_of_error {bytes : List UInt8} {t after : Transport} {e : IoError}
    (failed : t.write bytes = (.error e, after)) : after.writes.length < t.writes.length := by
  have result := congrArg Prod.fst failed
  have left := congrArg (fun outcome => outcome.2.writes) failed
  simp only [write] at result left
  rw [← left]
  exact WriteEvent.length_take_error (Prod.ext result rfl)

/-- Offers what is left of `bytes` until all of it is taken. -/
def writeAll (bytes : List UInt8) (t : Transport) : Except IoError Unit × Transport :=
  if bytes = [] then (.ok (), t)
  else match _ : t.write bytes with
    | (.error e, after) => if e.isInterrupted then writeAll bytes after else (.error e, after)
    | (.ok 0, after) => (.error (.bare .writeZero), after)
    | (.ok (taken + 1), after) => writeAll (bytes.drop (taken + 1)) after
termination_by bytes.length + t.writes.length
decreasing_by
  · rename_i outcome _
    have shorter := writes_write_lt_of_error outcome
    omega
  · rename_i nonempty outcome
    have positive := List.length_pos_iff.mpr nonempty
    have shorter := writes_write_le bytes t
    rw [outcome] at shorter
    simp only [List.length_drop] at shorter ⊢
    omega

end Transport

/-- Writes a message and flushes the stream; the answer is the number of bytes sent. -/
def send (bytes : List UInt8) (t : Transport) : Except FrameError Nat × Transport :=
  match t.writeAll bytes with
  | (.error e, after) => (.error (.transport e), after)
  | (.ok (), after) =>
    match after.flush with
    | (.error e, last) => (.error (.transport e), last)
    | (.ok (), last) => (.ok bytes.length, last)

end BackendLink
