import Mathlib.Logic.Function.Basic
import JlensEvolve.Library.Transition

/-!
Processes that share data under one lease. A process is in a stage of its
program; in some of its stages it holds the lease. Where it takes the lease only
while nobody has it and leaves the data alone while it does not hold it, a fact
about the data that a holder relies on survives every step of the others.
-/

namespace JlensEvolve.Library

inductive LeaseMove where
  | keep
  | take
  | drop
deriving DecidableEq, Repr

/-- What one step of one process leaves. -/
structure LeasedTurn (σ τ : Type) where
  data : σ
  stage : τ
  lease : LeaseMove

/-- The shared data, the process whose lease stands, and all processes. -/
structure LeasedSystem (σ τ : Type) where
  data : σ
  lease : Option ℕ
  stage : ℕ → τ

inductive LeasedEvent (ι : Type) where
  | act (process : ℕ) (input : ι)
  /-- The lease of a process that no longer runs under it is removed. -/
  | clearLease

section Steps

variable {σ τ ι : Type} (holds : τ → Bool) (turn : σ → Bool → τ → ι → LeasedTurn σ τ)

def LeasedSystem.turnOf (system : LeasedSystem σ τ) (process : ℕ) (input : ι) : LeasedTurn σ τ :=
  turn system.data system.lease.isNone (system.stage process) input

def LeasedSystem.step (system : LeasedSystem σ τ) : LeasedEvent ι → LeasedSystem σ τ
  | .act process input =>
    { data := (system.turnOf turn process input).data
      lease := match (system.turnOf turn process input).lease with
        | .keep => system.lease
        | .take => some process
        | .drop => none
      stage := Function.update system.stage process (system.turnOf turn process input).stage }
  | .clearLease =>
    match system.lease with
    | none => system
    | some process =>
      if holds (system.stage process) then system else { system with lease := none }

structure RespectsLease : Prop where
  takes_free : ∀ data free stage input, (turn data free stage input).lease = .take → free = true
  holds_after : ∀ data free stage input, holds (turn data free stage input).stage = true →
    (turn data free stage input).lease = .take ∨
      holds stage = true ∧ (turn data free stage input).lease = .keep
  quiet : ∀ data free stage input, holds stage = false →
    (turn data free stage input).data = data ∧ (turn data free stage input).lease ≠ .drop

/-- Whoever holds the lease is the one whose lease stands. -/
def Exclusive (system : LeasedSystem σ τ) : Prop :=
  ∀ process, holds (system.stage process) = true → system.lease = some process

variable {holds turn}

theorem Exclusive.free_of_ne {system : LeasedSystem σ τ} (h : Exclusive holds system)
    {process other : ℕ} (hother : holds (system.stage other) = true) (hne : other ≠ process) :
    holds (system.stage process) = false := by
  cases hprocess : holds (system.stage process) with
  | false => rfl
  | true =>
    have hlease := h process hprocess
    rw [h other hother] at hlease
    exact absurd (Option.some.inj hlease) hne

theorem stage_step_self (system : LeasedSystem σ τ) (process : ℕ) (input : ι) :
    (system.step holds turn (.act process input)).stage process =
      (system.turnOf turn process input).stage :=
  Function.update_self _ _ _

theorem stage_step_of_ne (system : LeasedSystem σ τ) {process other : ℕ} (input : ι)
    (hne : other ≠ process) :
    (system.step holds turn (.act process input)).stage other = system.stage other :=
  Function.update_of_ne hne _ _

theorem clearLease_eq (system : LeasedSystem σ τ) :
    (system.step holds turn .clearLease).data = system.data ∧
      (system.step holds turn .clearLease).stage = system.stage := by
  simp only [LeasedSystem.step]
  split
  · exact ⟨rfl, rfl⟩
  · split
    · exact ⟨rfl, rfl⟩
    · exact ⟨rfl, rfl⟩

theorem Exclusive.step (hrespects : RespectsLease holds turn) {system : LeasedSystem σ τ}
    (h : Exclusive holds system) (event : LeasedEvent ι) :
    Exclusive holds (system.step holds turn event) := by
  intro other hholds
  cases event with
  | clearLease =>
    have hother : holds (system.stage other) = true := by
      rw [(clearLease_eq system).2] at hholds
      exact hholds
    have hlease := h other hother
    simp only [LeasedSystem.step, hlease, hother, if_true]
  | act process input =>
    by_cases hsame : other = process
    · subst hsame
      rw [stage_step_self] at hholds
      rcases hrespects.holds_after _ _ _ _ hholds with htake | ⟨hbefore, hkeep⟩
      · have hmove : (system.turnOf turn other input).lease = .take := htake
        simp only [LeasedSystem.step, hmove]
      · have hmove : (system.turnOf turn other input).lease = .keep := hkeep
        simp only [LeasedSystem.step, hmove]
        exact h other hbefore
    · rw [stage_step_of_ne _ _ hsame] at hholds
      have hlease := h other hholds
      have hquiet := (hrespects.quiet system.data system.lease.isNone _ input
        (h.free_of_ne hholds hsame)).2
      have htakes := hrespects.takes_free system.data system.lease.isNone (system.stage process)
        input
      simp only [LeasedSystem.step, LeasedSystem.turnOf]
      cases hmove : (turn system.data system.lease.isNone (system.stage process) input).lease with
      | keep => exact hlease
      | take =>
        rw [hlease] at htakes hmove
        exact absurd (htakes hmove) (by simp)
      | drop => exact absurd hmove hquiet

/-- The data meets its invariant, every process can rely on what its stage says
of the data, and the lease is exclusive. -/
structure LeaseSound (holds : τ → Bool) (I : σ → Prop) (F : σ → τ → Prop)
    (system : LeasedSystem σ τ) : Prop where
  data : I system.data
  stages : ∀ process, F system.data (system.stage process)
  exclusive : Exclusive holds system

/-- A step of a process keeps the invariant of the data and gives what its next
stage says; what a stage without the lease says holds of any data. -/
theorem LeaseSound.step {I : σ → Prop} {F : σ → τ → Prop} (hrespects : RespectsLease holds turn)
    (hturn : ∀ data free stage input, I data → F data stage →
      I (turn data free stage input).data ∧
        F (turn data free stage input).data (turn data free stage input).stage)
    (hfree : ∀ data other stage, holds stage = false → F data stage → F other stage)
    {system : LeasedSystem σ τ} (h : LeaseSound holds I F system) (event : LeasedEvent ι) :
    LeaseSound holds I F (system.step holds turn event) := by
  cases event with
  | clearLease =>
    obtain ⟨hdata, hstage⟩ : (system.step holds turn .clearLease).data = system.data ∧
        (system.step holds turn .clearLease).stage = system.stage := clearLease_eq system
    refine ⟨?_, ?_, h.exclusive.step hrespects _⟩
    · rw [hdata]
      exact h.data
    · rw [hdata, hstage]
      exact h.stages
  | act process input =>
    have hown := hturn system.data system.lease.isNone (system.stage process) input h.data
      (h.stages process)
    refine ⟨hown.1, ?_, h.exclusive.step hrespects _⟩
    intro other
    by_cases hsame : other = process
    · rw [hsame, stage_step_self]
      exact hown.2
    · rw [stage_step_of_ne _ _ hsame]
      cases hother : holds (system.stage other) with
      | false => exact hfree _ _ _ hother (h.stages other)
      | true =>
        have hquiet := (hrespects.quiet system.data system.lease.isNone _ input
          (h.exclusive.free_of_ne hother hsame)).1
        have hdata : (system.step holds turn (.act process input)).data = system.data := hquiet
        rw [hdata]
        exact h.stages other

theorem LeaseSound.run {I : σ → Prop} {F : σ → τ → Prop} (hrespects : RespectsLease holds turn)
    (hturn : ∀ data free stage input, I data → F data stage →
      I (turn data free stage input).data ∧
        F (turn data free stage input).data (turn data free stage input).stage)
    (hfree : ∀ data other stage, holds stage = false → F data stage → F other stage)
    {system : LeasedSystem σ τ} (h : LeaseSound holds I F system)
    (events : List (LeasedEvent ι)) :
    LeaseSound holds I F (Library.run (LeasedSystem.step holds turn) system events) :=
  run_invariant (fun _ event hsound => hsound.step hrespects hturn hfree event) system events h

end Steps

end JlensEvolve.Library
