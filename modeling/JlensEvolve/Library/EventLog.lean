import Mathlib.Data.List.Induction
import JlensEvolve.Library.Transition

/-!
State that is kept beside the log of the events that led to it. Each event is
allowed in the state the events before it replay to; what allowed events keep,
every such log keeps.
-/

namespace JlensEvolve.Library

variable {β ε : Type} {allowed : β → ε → Prop} {apply : β → ε → β} {start view : β}
  {log events : List ε} {event : ε}

/-- The log replays to the view, and every event of it was allowed where it stands. -/
structure Sourced (allowed : β → ε → Prop) (apply : β → ε → β) (start : β) (log : List ε)
    (view : β) : Prop where
  legal : Guarded allowed apply start log
  replayed : run apply start log = view

theorem sourced_nil : Sourced allowed apply start [] start := ⟨trivial, rfl⟩

theorem Sourced.append (h : Sourced allowed apply start log view)
    (hevents : Guarded allowed apply view events) :
    Sourced allowed apply start (log ++ events) (run apply view events) := by
  constructor
  · rw [guarded_append, h.replayed]
    exact ⟨h.legal, hevents⟩
  · rw [run_append, h.replayed]

theorem Sourced.concat (h : Sourced allowed apply start log view) (hevent : allowed view event) :
    Sourced allowed apply start (log ++ [event]) (apply view event) :=
  h.append ⟨hevent, trivial⟩

theorem Sourced.of_append {more : List ε} (h : Sourced allowed apply start (log ++ more) view) :
    Sourced allowed apply start log (run apply start log) :=
  ⟨(guarded_append.mp h.legal).1, rfl⟩

/-- An event anywhere in the log was allowed by what the events before it replay to. -/
theorem Sourced.allowed_at {after : List ε}
    (h : Sourced allowed apply start (log ++ event :: after) view) :
    allowed (run apply start log) event :=
  (guarded_append.mp h.legal).2.1

/-- What holds of the empty log and survives every allowed event holds of every log. -/
theorem Sourced.induct {I : List ε → β → Prop} (hstart : I [] start)
    (hstep : ∀ log view event, I log view → allowed view event → I (log ++ [event]) (apply view event))
    (h : Sourced allowed apply start log view) : I log view := by
  induction log using List.reverseRecOn generalizing view with
  | nil => exact h.replayed ▸ hstart
  | append_singleton log event ih =>
    have hview := h.replayed
    rw [run_append] at hview
    exact hview ▸ hstep _ _ _ (ih h.of_append) h.allowed_at

end JlensEvolve.Library
