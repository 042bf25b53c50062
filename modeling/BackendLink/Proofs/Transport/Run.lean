import BackendLink.Proofs.Transport.Schedule

/-!
# Runs of a stream

A run is a row of completed calls, each with the answer that its script gives. What was put on the
stream is read off the calls (`Run.written`).
-/

namespace BackendLink.Transport

/-- One call, answered by its script, takes the stream from `t` to `after`. -/
def Step (t : Transport) : Call → Transport → Prop
  | .read asked result, after => t.read asked = (result, after)
  | .write offered result, after => t.write offered = (result, after)
  | .flush result, after => t.flush = (result, after)
  | .shutdown result, after => t.shutdown = (result, after)

inductive Run : Transport → List Call → Transport → Prop
  | nil (t : Transport) : Run t [] t
  | cons {t next after : Transport} {call : Call} {trace : List Call}
      (first : t.Step call next) (rest : Run next trace after) : Run t (call :: trace) after

theorem step_read (asked : Nat) (t : Transport) :
    t.Step (.read asked (t.read asked).1) (t.read asked).2 := rfl

theorem step_flush (t : Transport) : t.Step (.flush t.flush.1) t.flush.2 := rfl

theorem step_shutdown (t : Transport) : t.Step (.shutdown t.shutdown.1) t.shutdown.2 := rfl

theorem Step.calls {t after : Transport} {call : Call} (step : t.Step call after) :
    after.calls = t.calls ++ [call] := by
  cases call <;> cases step <;> rfl

theorem Step.run {t after : Transport} {call : Call} (step : t.Step call after) :
    t.Run [call] after := .cons step (.nil after)

namespace Run

variable {t mid after : Transport} {trace later : List Call}

theorem append (first : t.Run trace mid) (rest : mid.Run later after) :
    t.Run (trace ++ later) after := by
  induction first with
  | nil => exact rest
  | cons step _ ih => exact .cons step (ih rest)

theorem split (run : t.Run (trace ++ later) after) :
    ∃ mid, t.Run trace mid ∧ mid.Run later after := by
  induction trace generalizing t with
  | nil => exact ⟨t, .nil t, run⟩
  | cons call trace ih =>
      cases run with
      | cons step rest =>
          obtain ⟨mid, first, last⟩ := ih rest
          exact ⟨mid, .cons step first, last⟩

theorem calls (run : t.Run trace after) : after.calls = t.calls ++ trace := by
  induction run with
  | nil => simp
  | cons step _ ih => rw [ih, step.calls, List.append_assoc, List.singleton_append]

theorem written (run : t.Run trace after) :
    after.written = t.written ++ trace.flatMap Call.written := by
  rw [Transport.written, Transport.written, run.calls, List.flatMap_append]

end Run

/-! ## Cutting a row at a call -/

/-- A call unlike all of the front stands behind it. -/
theorem split_behind {like : Call → Prop} {call : Call} {front rest sofar later : List Call}
    (alike : ∀ call ∈ front, like call) (other : ¬ like call)
    (parts : front ++ rest = sofar ++ call :: later) :
    ∃ extra, sofar = front ++ extra ∧ rest = extra ++ call :: later := by
  rcases List.append_eq_append_iff.mp parts with found | ⟨cut, rfl, same⟩
  · exact found
  · cases cut with
    | nil => exact ⟨[], by simp, by simpa using same.symm⟩
    | cons first cut =>
        obtain ⟨rfl, -⟩ := List.cons_eq_cons.mp same
        exact absurd (alike call (by simp)) other

theorem split_before {call : Call} {front rest sofar later : List Call} (absent : call ∉ rest)
    (parts : front ++ rest = sofar ++ call :: later) : ∃ extra, front = sofar ++ call :: extra := by
  rcases List.append_eq_append_iff.mp parts with ⟨extra, -, rfl⟩ | ⟨extra, rfl, same⟩
  · exact absurd (by simp) absent
  · cases extra with
    | nil =>
        have first : call ∈ rest := by simp [← show _ = rest from same]
        exact absurd first absent
    | cons first extra =>
        obtain ⟨rfl, -⟩ := List.cons_eq_cons.mp same
        exact ⟨extra, rfl⟩

end BackendLink.Transport
