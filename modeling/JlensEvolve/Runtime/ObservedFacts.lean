import JlensEvolve.Library.Transition
import JlensEvolve.Runtime.StatusResumed

/-!
Which facts reach the observer hub. A resumed call skips a stage whose receipt
it finds, so a fact that was appended but not observed then is never observed.
-/

namespace JlensEvolve.Runtime

open Library Contracts

theorem afterCalls_eq_run (plan : ExecutionPlan) (calls : List Call) :
    afterCalls plan calls = run (afterCall plan) World.empty calls := rfl

/-- Every fact receipt in the log went through the hub. -/
def FactsObserved (world : World) : Prop :=
  ∀ receipt ∈ world.receipts, receipt.kind ∈ factKinds → .observed receipt ∈ world.history

/-- Whenever the call has a fact's line in the log, the store has not raised,
the process goes on, and the hub takes the receipt. -/
def Attends (plan : ExecutionPlan) (world : World) (call : Call) : Prop :=
  ∀ tick receipt,
    .appended tick receipt ∈ (afterCall plan world call).history.drop world.history.length →
      receipt.kind ∈ factKinds → Attended call.environment tick receipt

/-- The receipts that were observed are in the log. -/
structure Watched (world : World) : Prop where
  sound : Sound world
  logged : ∀ receipt, .observed receipt ∈ world.history → receipt ∈ world.receipts

theorem watched_empty : Watched World.empty := ⟨sound_empty, nofun⟩

theorem mem_receipts_iff {world : World} (h : Sound world) (receipt : Receipt) :
    receipt ∈ world.receipts ↔ ∃ tick, .appended tick receipt ∈ world.history := by
  rw [← h.logged, List.mem_filterMap]
  constructor
  · rintro ⟨happening, hmem, hreceipt⟩
    cases happening with
    | appended tick other =>
      cases hreceipt
      exact ⟨tick, hmem⟩
    | _ => cases hreceipt
  · rintro ⟨tick, hmem⟩
    exact ⟨_, hmem, rfl⟩

theorem numbers_nodup (n : Nat) : (numbers n).Nodup := by
  apply List.nodup_range.map
  intro first second heq
  simpa using heq

theorem Sound.nodup {world : World} (h : Sound world) : world.receipts.Nodup := by
  apply List.Nodup.of_map (fun receipt => receipt.sequence)
  rw [h.sequences]
  exact numbers_nodup _

section Step

variable {plan : ExecutionPlan} {world : World} {call : Call}

theorem Watched.afterCall (h : Watched world) : Watched (afterCall plan world call) := by
  have hkept : Kept world call.environment (Runtime.afterCall plan world call) :=
    afterCall_kept h.sound
  refine ⟨hkept.sound, ?_⟩
  intro receipt hobserved
  obtain ⟨added, hhistory, htold⟩ := hkept.told
  rw [mem_receipts_iff hkept.sound, hhistory]
  rw [hhistory] at hobserved
  rcases List.mem_append.mp hobserved with hobserved | hobserved
  · obtain ⟨tick, htick⟩ := (mem_receipts_iff h.sound receipt).mp (h.logged receipt hobserved)
    exact ⟨tick, List.mem_append_left _ htick⟩
  · obtain ⟨tick, htick⟩ := htold.own receipt hobserved
    exact ⟨tick, List.mem_append_right _ htick⟩

/-- After a call every fact is observed exactly when the facts found were and
the call attends to those it appends. -/
theorem factsObserved_afterCall (h : Watched world) :
    FactsObserved (afterCall plan world call) ↔ FactsObserved world ∧ Attends plan world call := by
  have hkept : Kept world call.environment (afterCall plan world call) := afterCall_kept h.sound
  obtain ⟨added, hhistory, htold⟩ := hkept.told
  have hreceipts : (afterCall plan world call).receipts =
      world.receipts ++ added.filterMap Happening.receipt? := by
    rw [← hkept.sound.logged, hhistory, List.filterMap_append, h.sound.logged]
  have hdisjoint := List.disjoint_of_nodup_append (hreceipts ▸ hkept.sound.nodup)
  have hadded {tick : Nat} {receipt : Receipt} (hmem : .appended tick receipt ∈ added) :
      receipt ∈ added.filterMap Happening.receipt? := List.mem_filterMap.mpr ⟨_, hmem, rfl⟩
  have hattends : Attends plan world call ↔ ∀ tick receipt, .appended tick receipt ∈ added →
      receipt.kind ∈ factKinds → Attended call.environment tick receipt := by
    simp only [Attends, hhistory, List.drop_left]
  rw [hattends]
  constructor
  · intro hobserved
    constructor
    · intro receipt hmem hfact
      have hseen := hobserved receipt (hreceipts ▸ List.mem_append_left _ hmem) hfact
      rw [hhistory] at hseen
      rcases List.mem_append.mp hseen with hseen | hseen
      · exact hseen
      · obtain ⟨tick, htick⟩ := htold.own receipt hseen
        exact absurd (hadded htick) (hdisjoint hmem)
    · intro tick receipt hmem hfact
      have hseen := hobserved receipt (hreceipts ▸ List.mem_append_right _ (hadded hmem)) hfact
      rw [hhistory] at hseen
      rcases List.mem_append.mp hseen with hseen | hseen
      · exact absurd (hadded hmem) (hdisjoint (h.logged receipt hseen))
      · exact (htold.facts tick receipt hmem hfact).mpr hseen
  · rintro ⟨hbefore, hcall⟩ receipt hmem hfact
    rw [hhistory]
    rw [hreceipts] at hmem
    rcases List.mem_append.mp hmem with hmem | hmem
    · exact List.mem_append_left _ (hbefore receipt hmem hfact)
    · obtain ⟨happening, hin, hreceipt⟩ := List.mem_filterMap.mp hmem
      cases happening with
      | appended tick other =>
        cases hreceipt
        exact List.mem_append_right _ ((htold.facts tick _ hin hfact).mp (hcall tick _ hin hfact))
      | _ => cases hreceipt

end Step

/-- In every run of calls on a plan, every fact receipt in the log went
through the hub exactly when no call stopped, and neither the store nor the hub
raised, between the writing of a fact's line and the end of its observation. -/
theorem factsObserved_iff_attends (plan : ExecutionPlan) (calls : List Call) :
    FactsObserved (afterCalls plan calls) ↔
      Guarded (Attends plan) (afterCall plan) World.empty calls := by
  have hstep : ∀ world call, Watched world →
      (FactsObserved (afterCall plan world call) ↔
        FactsObserved world ∧ Attends plan world call) :=
    fun world call h => factsObserved_afterCall h
  have hkeeps : ∀ world call, Watched world → Watched (afterCall plan world call) :=
    fun world call h => h.afterCall
  have hempty : FactsObserved World.empty := nofun
  rw [afterCalls_eq_run, run_iff_guarded hkeeps hstep World.empty calls watched_empty]
  exact and_iff_right hempty

/-- The process stops after the line of the native fact, the next call ends the
plan as completed, and the hub never sees the fact. -/
theorem nativeFact_unobserved :
    terminalStatus? (afterCalls samplePlan
        [failingCall.stopping atNativeFact, failingCall.uninterrupted]).receipts =
        some "completed" ∧
      ¬ FactsObserved (afterCalls samplePlan
        [failingCall.stopping atNativeFact, failingCall.uninterrupted]) := by
  constructor
  · exact (failingRun.statuses failingCall_steady failingCall_admitted).1.trans
      failingRun_completes
  · rw [afterCalls_pair]
    intro hobserved
    have hwatched : Watched (afterCalls samplePlan [failingCall.stopping atNativeFact]) := by
      rw [afterCalls_singleton]
      exact watched_empty.afterCall
    have hfirst := ((factsObserved_afterCall hwatched).mp hobserved).1
    obtain ⟨hholds, hseen⟩ := failingRun.left failingCall_steady failingCall_admitted
    have hlast : (entry samplePlan sampleCostLog "native_evaluation"
        (evaluatorErrorPayload samplePlan sampleModel "down")) ∈
          (afterCalls samplePlan [failingCall.stopping atNativeFact]).receipts.map blank := by
      rw [hholds.receipts]
      exact List.mem_append_right _ (List.mem_singleton_self _)
    obtain ⟨receipt, hmem, hblank⟩ := List.mem_map.mp hlast
    have hkind : receipt.kind = "native_evaluation" := congrArg Receipt.kind hblank
    have hnumber : receipt.sequence = 5 := congrArg Receipt.sequence hblank
    have hle : receipt.sequence ≤ 4 :=
      hseen receipt (hfirst receipt hmem (by rw [hkind]; decide))
    omega

end JlensEvolve.Runtime
