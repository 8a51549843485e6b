import Mathlib.Data.List.Basic
import Mathlib.Tactic.Common

/-!
Runs of a deterministic system over a list of inputs, and the two ways an
invariant reaches the end of a run: every input keeps it, or every input keeps
it exactly when a guard holds in the state the input is applied to.
-/

namespace JlensEvolve.Library

variable {σ ι : Type}

/-- The state after all inputs. -/
def run (step : σ → ι → σ) (s : σ) (inputs : List ι) : σ := inputs.foldl step s

@[simp] theorem run_nil (step : σ → ι → σ) (s : σ) : run step s [] = s := rfl

@[simp] theorem run_cons (step : σ → ι → σ) (s : σ) (i : ι) (inputs : List ι) :
    run step s (i :: inputs) = run step (step s i) inputs := rfl

theorem run_append (step : σ → ι → σ) (s : σ) (first second : List ι) :
    run step s (first ++ second) = run step (run step s first) second :=
  List.foldl_append

/-- Every state of the run, the first one included, has the property. -/
def Along (P : σ → Prop) (step : σ → ι → σ) : σ → List ι → Prop
  | s, [] => P s
  | s, i :: inputs => P s ∧ Along P step (step s i) inputs

/-- Every input meets the guard in the state it is applied to. -/
def Guarded (guard : σ → ι → Prop) (step : σ → ι → σ) : σ → List ι → Prop
  | _, [] => True
  | s, i :: inputs => guard s i ∧ Guarded guard step (step s i) inputs

theorem run_invariant_of_mem {I : σ → Prop} {step : σ → ι → σ} {inputs : List ι}
    (hstep : ∀ s, ∀ i ∈ inputs, I s → I (step s i)) (s : σ) (hs : I s) :
    I (run step s inputs) := by
  induction inputs generalizing s with
  | nil => exact hs
  | cons i inputs ih =>
    apply ih (fun s j hj => hstep s j (List.mem_cons_of_mem _ hj))
    exact hstep s i List.mem_cons_self hs

theorem run_invariant {I : σ → Prop} {step : σ → ι → σ}
    (hstep : ∀ s i, I s → I (step s i)) (s : σ) (inputs : List ι) (hs : I s) :
    I (run step s inputs) :=
  run_invariant_of_mem (fun s i _ => hstep s i) s hs

theorem Along.mono {P Q : σ → Prop} {step : σ → ι → σ} (h : ∀ s, P s → Q s) {s : σ}
    {inputs : List ι} (hP : Along P step s inputs) : Along Q step s inputs := by
  induction inputs generalizing s with
  | nil => exact h s hP
  | cons i inputs ih => exact ⟨h s hP.1, ih hP.2⟩

theorem Along.start {P : σ → Prop} {step : σ → ι → σ} {s : σ} {inputs : List ι}
    (h : Along P step s inputs) : P s := by
  cases inputs with
  | nil => exact h
  | cons i inputs => exact h.1

theorem along_iff_prefixes (P : σ → Prop) (step : σ → ι → σ) (s : σ) (inputs : List ι) :
    Along P step s inputs ↔ ∀ first, first <+: inputs → P (run step s first) := by
  induction inputs generalizing s with
  | nil => simp [Along]
  | cons i inputs ih =>
    simp only [Along, ih]
    constructor
    · rintro ⟨hs, hrest⟩ first hfirst
      cases first with
      | nil => exact hs
      | cons j first =>
        obtain ⟨rfl, htail⟩ := List.cons_prefix_cons.mp hfirst
        exact hrest first htail
    · intro h
      refine ⟨h [] (List.nil_prefix), ?_⟩
      intro first hfirst
      exact h (i :: first) (List.cons_prefix_cons.mpr ⟨rfl, hfirst⟩)

theorem along_invariant {I : σ → Prop} {step : σ → ι → σ}
    (hstep : ∀ s i, I s → I (step s i)) (s : σ) (inputs : List ι) (hs : I s) :
    Along I step s inputs := by
  rw [along_iff_prefixes]
  intro first _
  exact run_invariant hstep s first hs

/-- An invariant that survives every input under its guard gives its property
all along a run whose inputs meet the guard. -/
theorem along_of_guarded {P I : σ → Prop} {guard : σ → ι → Prop} {step : σ → ι → σ}
    (hgives : ∀ s, I s → P s) (hkeeps : ∀ s i, I s → guard s i → I (step s i))
    (s : σ) (inputs : List ι) (hs : I s) (h : Guarded guard step s inputs) :
    Along P step s inputs := by
  induction inputs generalizing s with
  | nil => exact hgives s hs
  | cons i inputs ih => exact ⟨hgives s hs, ih (step s i) (hkeeps s i hs h.1) h.2⟩

/-- Let an invariant give a property, let it survive every allowed input that
meets the guard, and let the property fail right after an allowed input that
does not. Then the property holds all along a run of allowed inputs exactly when
every input meets its guard. -/
theorem along_iff_guarded_of_allowed {P I : σ → Prop} {guard : σ → ι → Prop} {allowed : ι → Prop}
    {step : σ → ι → σ} (hgives : ∀ s, I s → P s)
    (hkeeps : ∀ s i, allowed i → I s → guard s i → I (step s i))
    (hneeds : ∀ s i, allowed i → I s → P (step s i) → guard s i)
    (s : σ) (inputs : List ι) (hallowed : ∀ i ∈ inputs, allowed i) (hs : I s) :
    Along P step s inputs ↔ Guarded guard step s inputs := by
  induction inputs generalizing s with
  | nil => simp [Along, Guarded, hgives s hs]
  | cons i inputs ih =>
    obtain ⟨hi, hinputs⟩ := List.forall_mem_cons.mp hallowed
    simp only [Along, Guarded]
    constructor
    · rintro ⟨-, hrest⟩
      have hnext : P (step s i) := hrest.start
      have hguard := hneeds s i hi hs hnext
      exact ⟨hguard, (ih (step s i) hinputs (hkeeps s i hi hs hguard)).mp hrest⟩
    · rintro ⟨hguard, hrest⟩
      exact ⟨hgives s hs, (ih (step s i) hinputs (hkeeps s i hi hs hguard)).mpr hrest⟩

theorem along_iff_guarded {P I : σ → Prop} {guard : σ → ι → Prop} {step : σ → ι → σ}
    (hgives : ∀ s, I s → P s) (hkeeps : ∀ s i, I s → guard s i → I (step s i))
    (hneeds : ∀ s i, I s → P (step s i) → guard s i)
    (s : σ) (inputs : List ι) (hs : I s) :
    Along P step s inputs ↔ Guarded guard step s inputs := by
  have hallowed : ∀ i ∈ inputs, (fun _ : ι => True) i := fun _ _ => trivial
  exact along_iff_guarded_of_allowed hgives (fun s i _ => hkeeps s i) (fun s i _ => hneeds s i)
    s inputs hallowed hs

/-- Where a step holds a property exactly when it held before and the guard is
met, the end of a run has it exactly when every input meets the guard. -/
theorem run_iff_guarded {P I : σ → Prop} {guard : σ → ι → Prop} {step : σ → ι → σ}
    (hkeeps : ∀ s i, I s → I (step s i)) (hstep : ∀ s i, I s → (P (step s i) ↔ P s ∧ guard s i))
    (s : σ) (inputs : List ι) (hs : I s) :
    P (run step s inputs) ↔ P s ∧ Guarded guard step s inputs := by
  induction inputs generalizing s with
  | nil => simp [Guarded]
  | cons i inputs ih =>
    rw [run_cons, ih (step s i) (hkeeps s i hs), hstep s i hs, and_assoc]
    rfl

theorem guarded_append {guard : σ → ι → Prop} {step : σ → ι → σ} {s : σ}
    {first second : List ι} :
    Guarded guard step s (first ++ second) ↔
      Guarded guard step s first ∧ Guarded guard step (run step s first) second := by
  induction first generalizing s with
  | nil => simp [Guarded]
  | cons i rest ih => simp [Guarded, ih, and_assoc]

theorem guarded_append_singleton {guard : σ → ι → Prop} {step : σ → ι → σ} {s : σ}
    {inputs : List ι} {i : ι} :
    Guarded guard step s (inputs ++ [i]) ↔
      Guarded guard step s inputs ∧ guard (run step s inputs) i := by
  simp [guarded_append, Guarded]

theorem guarded_of_invariant {I : σ → Prop} {guard : σ → ι → Prop} {step : σ → ι → σ}
    {inputs : List ι} (hstep : ∀ s, ∀ i ∈ inputs, I s → I (step s i))
    (hguard : ∀ s, ∀ i ∈ inputs, I s → guard s i) (s : σ) (hs : I s) :
    Guarded guard step s inputs := by
  induction inputs generalizing s with
  | nil => trivial
  | cons i inputs ih =>
    refine ⟨hguard s i List.mem_cons_self hs, ?_⟩
    apply ih
    · exact fun s j hj => hstep s j (List.mem_cons_of_mem _ hj)
    · exact fun s j hj => hguard s j (List.mem_cons_of_mem _ hj)
    · exact hstep s i List.mem_cons_self hs

end JlensEvolve.Library
