import Mathlib.Tactic.Linarith
import Mathlib.Tactic.NormNum
import JlensEvolve.Kernel.Campaign
import JlensEvolve.Library.Transition

/-!
Runs of a campaign controller. Every operation either changes nothing or makes
one of six changes and saves; the budget is conserved by all of them, and the
ceiling by all but a result that charges more than fits beside what the other
outstanding plans still hold.
-/

namespace JlensEvolve.Kernel

open Library Contracts

/-- The campaign after `commit`; the file stays as it was where there is no
manager or no safe path. -/
def Campaign.committed (campaign : Campaign) (controller : CampaignController) : Campaign :=
  { controller := controller
    checkpoint :=
      if controller.checkpoints && safeCheckpointId controller.campaignId then
        some (checkpointDocument (.obj controller.payload))
      else campaign.checkpoint }

theorem finalState_commit (campaign : Campaign) (controller : CampaignController) :
    finalState ((Campaign.commit controller).run campaign) = campaign.committed controller := by
  simp only [Campaign.commit, Campaign.save, Campaign.saveCheckpoint, Campaign.committed,
    EStateM.run_bind, EStateM.run_modify, EStateM.run_get]
  cases controller.checkpoints <;> cases hsafe : safeCheckpointId controller.campaignId <;>
    simp [EStateM.run_modify]

/-- The work item a new plan gets. -/
def pendingItem (plan : ExecutionPlan) (reservedModelCalls : Int) : WorkItemSnapshot :=
  { planId := plan.planId, planSha256 := plan.contentSha256, arm := plan.arm, status := .pending
    reservedCostCny := plan.limits.maxCostCny, reservedModelCalls := reservedModelCalls
    actualCostCny := none, actualModelCalls := none }

/-- The changes of the object, each with the checks it passed. -/
inductive Changes (controller : CampaignController) : Operation → CampaignController → Prop where
  | start (hstatus : controller.status = .created ∨ controller.status = .paused) :
      Changes controller .start { controller with status := .running, reason := none }
  | pause (reason : String) (hrunning : controller.status = .running) :
      Changes controller (.pause reason)
        { controller with status := .paused, reason := some reason }
  | submit (plan : ExecutionPlan) (reservedModelCalls : Int) (remote : Option Bool)
      (budget : BudgetSnapshot) (hrunning : controller.status = .running)
      (hcampaign : plan.campaignId = controller.campaignId)
      (habsent : controller.workItems.get? plan.planId = none)
      (hallowed : controller.authorization.refusal? plan.task.cohort 0 0
        (remote.getD (plan.model.provider ∉ localProviders)) controller.now = none)
      (hbudget : controller.budget.reserve plan.limits.maxCostCny reservedModelCalls = .ok budget) :
      Changes controller (.submit plan reservedModelCalls remote)
        { controller with
          budget := budget
          workItems := controller.workItems.set plan.planId
            (pendingItem plan reservedModelCalls) }
  | recordResult (planId : String) (actualCostCny : ℚ) (actualModelCalls : Int)
      (succeeded : Bool) (item : WorkItemSnapshot) (budget : BudgetSnapshot)
      (hrunning : controller.status = .running)
      (hitem : controller.workItems.get? planId = some item) (hpending : item.status = .pending)
      (hbudget : controller.budget.record item.reservedCostCny item.reservedModelCalls
        actualCostCny actualModelCalls = .ok budget) :
      Changes controller (.recordResult planId actualCostCny actualModelCalls succeeded)
        { controller with
          budget := budget
          workItems := controller.workItems.set planId
            (item.settle actualCostCny actualModelCalls succeeded) }
  | finalize (status : CampaignStatus) (reason : Option String)
      (hopen : controller.status ∉ terminalStatuses) (hterminal : status ∈ terminalStatuses)
      (hfinished : ¬(status = .completed ∧
        controller.workItems.values.any (fun item => item.status ≠ .completed) = true)) :
      Changes controller (.finalize status reason)
        { controller with status := status, reason := reason }
  | markPartial (reason : String) (hopen : controller.status ∉ terminalStatuses) :
      Changes controller (.markPartial reason)
        { controller with status := .partialResult, reason := some reason }

theorem requireRunning_ok_iff (controller : CampaignController) :
    controller.requireRunning = .ok () ↔ controller.status = .running := by
  unfold CampaignController.requireRunning terminalStatuses
  cases controller.status <;> simp [violates]

/-- What a call did: it raised or found nothing to do, or it made a change. -/
def Outcome {α : Type} (campaign : Campaign) (operation : Operation) (program : CampaignM α) :
    Prop :=
  finalState (program.run campaign) = campaign ∨
    ∃ controller, Changes campaign.controller operation controller ∧
      finalState (program.run campaign) = campaign.committed controller

theorem outcome_start (campaign : Campaign) : Outcome campaign .start Campaign.start := by
  simp only [Outcome, Campaign.start, EStateM.run_bind, EStateM.run_get]
  split
  · exact Or.inl rfl
  · rename_i hstatus
    refine Or.inr ⟨_, .start ?_, finalState_commit _ _⟩
    simpa [or_iff_not_imp_left] using hstatus

theorem outcome_pause (campaign : Campaign) (reason : String) :
    Outcome campaign (.pause reason) (Campaign.pause reason) := by
  simp only [Outcome, Campaign.pause, EStateM.run_bind, EStateM.run_get]
  cases hrunning : campaign.controller.requireRunning with
  | error e => exact Or.inl rfl
  | ok _ =>
    exact Or.inr ⟨_, .pause reason ((requireRunning_ok_iff _).mp hrunning),
      finalState_commit _ _⟩

theorem finalState_commit_return {α : Type} (campaign : Campaign)
    (controller : CampaignController) (value : α) :
    finalState ((do Campaign.commit controller; return value : CampaignM α).run campaign) =
      campaign.committed controller := by
  rw [← finalState_commit campaign controller, EStateM.run_bind]
  cases (Campaign.commit controller).run campaign <;> rfl

theorem outcome_submit (campaign : Campaign) (plan : ExecutionPlan) (reservedModelCalls : Int)
    (remote : Option Bool) :
    Outcome campaign (.submit plan reservedModelCalls remote)
      (Campaign.submit plan reservedModelCalls remote) := by
  simp only [Outcome, Campaign.submit, EStateM.run_bind, EStateM.run_get]
  cases hrunning : campaign.controller.requireRunning with
  | error e => exact Or.inl rfl
  | ok _ =>
    simp only [run_check_ok]
    split
    · exact Or.inl rfl
    · rename_i hcampaign
      cases habsent : campaign.controller.workItems.get? plan.planId with
      | some existing =>
        simp only []
        split
        · exact Or.inl rfl
        · exact Or.inl rfl
      | none =>
        simp only []
        cases hallowed : campaign.controller.authorization.refusal? plan.task.cohort 0 0
            (remote.getD (plan.model.provider ∉ localProviders)) campaign.controller.now with
        | some message => exact Or.inl rfl
        | none =>
          cases hbudget : campaign.controller.budget.reserve plan.limits.maxCostCny
              reservedModelCalls with
          | error e => exact Or.inl rfl
          | ok budget =>
            exact Or.inr ⟨_, .submit plan reservedModelCalls remote budget
              ((requireRunning_ok_iff _).mp hrunning) (not_not.mp hcampaign) habsent
              hallowed hbudget, finalState_commit_return _ _ true⟩

theorem outcome_recordResult (campaign : Campaign) (planId : String) (actualCostCny : ℚ)
    (actualModelCalls : Int) (succeeded : Bool) :
    Outcome campaign (.recordResult planId actualCostCny actualModelCalls succeeded)
      (Campaign.recordResult planId actualCostCny actualModelCalls succeeded) := by
  simp only [Outcome, Campaign.recordResult, EStateM.run_bind, EStateM.run_get]
  cases hrunning : campaign.controller.requireRunning with
  | error e => exact Or.inl rfl
  | ok _ =>
    simp only [run_check_ok]
    cases hitem : campaign.controller.workItems.get? planId with
    | none => exact Or.inl rfl
    | some item =>
      simp only []
      by_cases hpending : item.status = .pending
      · rw [if_neg (not_not.mpr hpending)]
        cases hbudget : campaign.controller.budget.record item.reservedCostCny
            item.reservedModelCalls actualCostCny actualModelCalls with
        | error e => exact Or.inl rfl
        | ok budget =>
          exact Or.inr ⟨_, .recordResult planId actualCostCny actualModelCalls succeeded item
            budget ((requireRunning_ok_iff _).mp hrunning) hitem hpending hbudget,
            finalState_commit _ _⟩
      · rw [if_pos hpending]
        split
        · exact Or.inl rfl
        · exact Or.inl rfl

theorem finalize_cases (campaign : Campaign) (status : CampaignStatus) (reason : Option String) :
    finalState ((Campaign.finalize status reason).run campaign) = campaign ∨
      (campaign.controller.status ∉ terminalStatuses ∧ status ∈ terminalStatuses ∧
        ¬(status = .completed ∧ campaign.controller.workItems.values.any
          (fun item => item.status ≠ .completed) = true) ∧
        finalState ((Campaign.finalize status reason).run campaign) =
          campaign.committed { campaign.controller with status := status, reason := reason }) := by
  simp only [Campaign.finalize, EStateM.run_bind, EStateM.run_get]
  split
  · exact Or.inl rfl
  · rename_i hopen
    split
    · exact Or.inl rfl
    · rename_i hterminal
      split
      · exact Or.inl rfl
      · rename_i hfinished
        exact Or.inr ⟨hopen, not_not.mp hterminal, hfinished, finalState_commit _ _⟩

theorem step_cases (campaign : Campaign) (operation : Operation) :
    campaign.step operation = campaign ∨
      ∃ controller, Changes campaign.controller operation controller ∧
        campaign.step operation = campaign.committed controller := by
  cases operation with
  | start => exact outcome_start campaign
  | pause reason => exact outcome_pause campaign reason
  | submit plan reservedModelCalls remote =>
    have hdiscard : campaign.step (.submit plan reservedModelCalls remote) =
        finalState ((Campaign.submit plan reservedModelCalls remote).run campaign) := by
      simp only [Campaign.step, Operation.program, EStateM.run_bind]
      cases (Campaign.submit plan reservedModelCalls remote).run campaign <;> rfl
    rw [hdiscard]
    exact outcome_submit campaign plan reservedModelCalls remote
  | recordResult planId actualCostCny actualModelCalls succeeded =>
    exact outcome_recordResult campaign planId actualCostCny actualModelCalls succeeded
  | finalize status reason =>
    rcases finalize_cases campaign status reason with hsame | ⟨hopen, hterminal, hfinished, hstep⟩
    · exact Or.inl hsame
    · exact Or.inr ⟨_, .finalize status reason hopen hterminal hfinished, hstep⟩
  | markPartial reason =>
    rcases finalize_cases campaign .partialResult (some reason) with hsame | ⟨hopen, -, -, hstep⟩
    · exact Or.inl hsame
    · exact Or.inr ⟨_, .markPartial reason hopen, hstep⟩

theorem step_recordResult {campaign : Campaign} {planId : String} {actualCostCny : ℚ}
    {actualModelCalls : Int} {succeeded : Bool} {item : WorkItemSnapshot} {budget : BudgetSnapshot}
    (hrunning : campaign.controller.status = .running)
    (hitem : campaign.controller.workItems.get? planId = some item)
    (hpending : item.status = .pending)
    (hbudget : campaign.controller.budget.record item.reservedCostCny item.reservedModelCalls
      actualCostCny actualModelCalls = .ok budget) :
    campaign.step (.recordResult planId actualCostCny actualModelCalls succeeded) =
      campaign.committed { campaign.controller with
        budget := budget
        workItems := campaign.controller.workItems.set planId
          (item.settle actualCostCny actualModelCalls succeeded) } := by
  rw [← requireRunning_ok_iff] at hrunning
  simp only [Campaign.step, Operation.program, Campaign.recordResult, EStateM.run_bind,
    EStateM.run_get, hrunning, run_check_ok, hitem]
  rw [if_neg (not_not.mpr hpending), EStateM.run_bind, hbudget]
  exact finalState_commit _ _

theorem reserve_eq_ok {budget after : BudgetSnapshot} {costCny : ℚ} {modelCalls : Int}
    (h : budget.reserve costCny modelCalls = .ok after) :
    0 ≤ costCny ∧ 0 ≤ modelCalls ∧
      budget.spentCostCny + budget.reservedCostCny + costCny ≤ budget.maxCostCny ∧
      budget.spentModelCalls + budget.reservedModelCalls + modelCalls ≤ budget.maxModelCalls ∧
      after = { budget with
        reservedCostCny := budget.reservedCostCny + costCny
        reservedModelCalls := budget.reservedModelCalls + modelCalls } := by
  unfold BudgetSnapshot.reserve at h
  split at h
  · cases h
  · rename_i hsigns
    split at h
    · cases h
    · rename_i hcost
      split at h
      · cases h
      · rename_i hcalls
        cases h
        simp only [not_or, not_lt] at hsigns hcost hcalls
        exact ⟨hsigns.1, hsigns.2, hcost, hcalls, rfl⟩

theorem record_eq_ok_iff (budget after : BudgetSnapshot) (reservedCostCny : ℚ)
    (reservedModelCalls : Int) (actualCostCny : ℚ) (actualModelCalls : Int) :
    budget.record reservedCostCny reservedModelCalls actualCostCny actualModelCalls = .ok after ↔
      (0 ≤ reservedCostCny ∧ 0 ≤ reservedModelCalls ∧ 0 ≤ actualCostCny ∧ 0 ≤ actualModelCalls) ∧
        (reservedCostCny ≤ budget.reservedCostCny ∧
          reservedModelCalls ≤ budget.reservedModelCalls) ∧
        budget.spentCostCny + actualCostCny ≤ budget.maxCostCny ∧
        budget.spentModelCalls + actualModelCalls ≤ budget.maxModelCalls ∧
        after = { budget with
          reservedCostCny := budget.reservedCostCny - reservedCostCny
          reservedModelCalls := budget.reservedModelCalls - reservedModelCalls
          spentCostCny := budget.spentCostCny + actualCostCny
          spentModelCalls := budget.spentModelCalls + actualModelCalls } := by
  unfold BudgetSnapshot.record
  split
  · rename_i hnegative
    simp only [reduceCtorEq, false_iff]
    rintro ⟨⟨h1, h2, h3, h4⟩, -⟩
    rcases hnegative with h | h | h | h
    · exact absurd h1 (not_le.mpr h)
    · exact absurd h2 (not_le.mpr h)
    · exact absurd h3 (not_le.mpr h)
    · exact absurd h4 (not_le.mpr h)
  · rename_i hsigns
    simp only [not_or, not_lt] at hsigns
    split
    · rename_i hmore
      simp only [reduceCtorEq, false_iff]
      rintro ⟨-, ⟨h1, h2⟩, -⟩
      rcases hmore with h | h
      · exact absurd h1 (not_le.mpr h)
      · exact absurd h2 (not_le.mpr h)
    · rename_i hwithin
      simp only [not_or, not_lt] at hwithin
      split
      · rename_i hcost
        simp [not_le.mpr hcost]
      · rename_i hcost
        split
        · rename_i hcalls
          simp [not_le.mpr hcalls]
        · rename_i hcalls
          simp only [not_lt] at hcost hcalls
          simp [hsigns, hwithin, hcost, hcalls, eq_comm]

/-- What a work item still holds of the budget, and what it has used. -/
def WorkItemSnapshot.heldCost (item : WorkItemSnapshot) : ℚ :=
  if item.status = .pending then item.reservedCostCny else 0

def WorkItemSnapshot.heldCalls (item : WorkItemSnapshot) : Int :=
  if item.status = .pending then item.reservedModelCalls else 0

def WorkItemSnapshot.usedCost (item : WorkItemSnapshot) : ℚ :=
  if item.status = .pending then 0 else item.actualCostCny.getD 0

def WorkItemSnapshot.usedCalls (item : WorkItemSnapshot) : Int :=
  if item.status = .pending then 0 else item.actualModelCalls.getD 0

/-- Reserved is what the pending items hold and spent is what the completed and
failed ones have used. -/
structure CampaignController.Conserved (controller : CampaignController) : Prop where
  reservedCost : controller.budget.reservedCostCny =
    controller.workItems.total WorkItemSnapshot.heldCost
  reservedCalls : controller.budget.reservedModelCalls =
    controller.workItems.total WorkItemSnapshot.heldCalls
  spentCost : controller.budget.spentCostCny =
    controller.workItems.total WorkItemSnapshot.usedCost
  spentCalls : controller.budget.spentModelCalls =
    controller.workItems.total WorkItemSnapshot.usedCalls

/-- What every work item satisfies under its key. -/
structure WellKept (planId : String) (item : WorkItemSnapshot) : Prop where
  keyed : item.planId = planId
  reservedCost : 0 ≤ item.reservedCostCny
  reservedCalls : 0 ≤ item.reservedModelCalls

def CampaignController.WellFormed (controller : CampaignController) : Prop :=
  ∀ planId item, controller.workItems.get? planId = some item → WellKept planId item

theorem settledStatus_ne_pending (succeeded : Bool) : settledStatus succeeded ≠ .pending := by
  cases succeeded <;> simp [settledStatus]

theorem total_submit {M : Type} [AddCommMonoid M] (controller : CampaignController)
    (measure : WorkItemSnapshot → M) {plan : ExecutionPlan} {reservedModelCalls : Int}
    (habsent : controller.workItems.get? plan.planId = none) :
    (controller.workItems.set plan.planId (pendingItem plan reservedModelCalls)).total measure =
      controller.workItems.total measure + measure (pendingItem plan reservedModelCalls) :=
  controller.workItems.total_set_absent measure _ habsent

theorem total_settle {M : Type} [AddCommGroup M] (controller : CampaignController)
    (measure : WorkItemSnapshot → M) {planId : String} {item settled : WorkItemSnapshot}
    (hitem : controller.workItems.get? planId = some item) :
    (controller.workItems.set planId settled).total measure =
      controller.workItems.total measure + measure settled - measure item :=
  eq_sub_of_add_eq (controller.workItems.total_set_present measure settled hitem)

section Change

variable {controller after : CampaignController} {operation : Operation}

theorem conserved_of_changes (h : Changes controller operation after)
    (hconserved : controller.Conserved) : after.Conserved := by
  obtain ⟨hreservedCost, hreservedCalls, hspentCost, hspentCalls⟩ := hconserved
  cases h with
  | start => exact ⟨hreservedCost, hreservedCalls, hspentCost, hspentCalls⟩
  | pause => exact ⟨hreservedCost, hreservedCalls, hspentCost, hspentCalls⟩
  | finalize => exact ⟨hreservedCost, hreservedCalls, hspentCost, hspentCalls⟩
  | markPartial => exact ⟨hreservedCost, hreservedCalls, hspentCost, hspentCalls⟩
  | submit plan reservedModelCalls remote budget _ _ habsent _ hbudget =>
    obtain ⟨-, -, -, -, rfl⟩ := reserve_eq_ok hbudget
    constructor
    · simp only [total_submit controller _ habsent, hreservedCost]
      simp [WorkItemSnapshot.heldCost, pendingItem]
    · simp only [total_submit controller _ habsent, hreservedCalls]
      simp [WorkItemSnapshot.heldCalls, pendingItem]
    · simp only [total_submit controller _ habsent, hspentCost]
      simp [WorkItemSnapshot.usedCost, pendingItem]
    · simp only [total_submit controller _ habsent, hspentCalls]
      simp [WorkItemSnapshot.usedCalls, pendingItem]
  | recordResult planId actualCostCny actualModelCalls succeeded item budget _ hitem hpending
      hbudget =>
      obtain ⟨-, -, -, -, rfl⟩ := (record_eq_ok_iff _ _ _ _ _ _).mp hbudget
      have hsettled := settledStatus_ne_pending succeeded
      constructor
      · simp only [total_settle controller _ hitem, hreservedCost]
        simp [WorkItemSnapshot.heldCost, WorkItemSnapshot.settle, hpending, hsettled]
      · simp only [total_settle controller _ hitem, hreservedCalls]
        simp [WorkItemSnapshot.heldCalls, WorkItemSnapshot.settle, hpending, hsettled]
      · simp only [total_settle controller _ hitem, hspentCost]
        simp [WorkItemSnapshot.usedCost, WorkItemSnapshot.settle, hpending, hsettled]
      · simp only [total_settle controller _ hitem, hspentCalls]
        simp [WorkItemSnapshot.usedCalls, WorkItemSnapshot.settle, hpending, hsettled]

theorem wellFormed_of_changes (h : Changes controller operation after)
    (hformed : controller.WellFormed) : after.WellFormed := by
  cases h with
  | start => exact hformed
  | pause => exact hformed
  | finalize => exact hformed
  | markPartial => exact hformed
  | submit plan reservedModelCalls remote budget _ _ _ _ hbudget =>
    obtain ⟨hcost, hcalls, -, -, -⟩ := reserve_eq_ok hbudget
    intro planId item hitem
    simp only [Dict.get?_set] at hitem
    split at hitem
    · rename_i hplan
      cases hitem
      exact ⟨hplan.symm, hcost, hcalls⟩
    · exact hformed planId item hitem
  | recordResult planId actualCostCny actualModelCalls succeeded item budget _ hfound _ _ =>
    have hkept := hformed planId item hfound
    intro otherId other hother
    simp only [Dict.get?_set] at hother
    split at hother
    · rename_i hsame
      cases hother
      exact ⟨hkept.keyed.trans hsame.symm, hkept.reservedCost, hkept.reservedCalls⟩
    · exact hformed otherId other hother

theorem identity_of_changes (h : Changes controller operation after) :
    after.campaignId = controller.campaignId ∧
      after.authorization = controller.authorization ∧ after.now = controller.now ∧
      after.checkpoints = controller.checkpoints ∧
      after.budget.maxCostCny = controller.budget.maxCostCny ∧
      after.budget.maxModelCalls = controller.budget.maxModelCalls := by
  cases h with
  | start => exact ⟨rfl, rfl, rfl, rfl, rfl, rfl⟩
  | pause => exact ⟨rfl, rfl, rfl, rfl, rfl, rfl⟩
  | finalize => exact ⟨rfl, rfl, rfl, rfl, rfl, rfl⟩
  | markPartial => exact ⟨rfl, rfl, rfl, rfl, rfl, rfl⟩
  | submit plan reservedModelCalls remote budget _ _ _ _ hbudget =>
    obtain ⟨-, -, -, -, rfl⟩ := reserve_eq_ok hbudget
    exact ⟨rfl, rfl, rfl, rfl, rfl, rfl⟩
  | recordResult planId actualCostCny actualModelCalls succeeded item budget _ _ _ hbudget =>
    obtain ⟨-, -, -, -, rfl⟩ := (record_eq_ok_iff _ _ _ _ _ _).mp hbudget
    exact ⟨rfl, rfl, rfl, rfl, rfl, rfl⟩

theorem status_of_changes (h : Changes controller operation after)
    (hterminal : controller.status ∈ terminalStatuses) : after.status = controller.status := by
  have hopen : controller.status ≠ .created ∧ controller.status ≠ .running ∧
      controller.status ≠ .paused := by
    refine ⟨?_, ?_, ?_⟩ <;> intro hstatus <;> rw [hstatus] at hterminal <;>
      simp [terminalStatuses] at hterminal
  cases h with
  | start hstatus => exact absurd hstatus (by simp [hopen.1, hopen.2.2])
  | pause _ hrunning => exact absurd hrunning hopen.2.1
  | submit => rfl
  | recordResult => rfl
  | finalize _ _ hnot => exact absurd hterminal hnot
  | markPartial _ hnot => exact absurd hterminal hnot

end Change

/-- Spent and outstanding reserved amounts together fit the authorization. -/
def Campaign.WithinCeiling (campaign : Campaign) : Prop :=
  campaign.controller.budget.spentCostCny + campaign.controller.budget.reservedCostCny ≤
      campaign.controller.authorization.maxCostCny ∧
    campaign.controller.budget.spentModelCalls + campaign.controller.budget.reservedModelCalls ≤
      campaign.controller.authorization.maxModelCalls

/-- A result that the budget admits, as it fits beside what is spent, but that
does not fit beside what the other pending plans hold. -/
def CampaignController.Overcharges (controller : CampaignController) : Operation → Prop
  | .recordResult planId actualCostCny actualModelCalls _ =>
    controller.status = .running ∧ ∃ item, controller.workItems.get? planId = some item ∧
      item.status = .pending ∧ 0 ≤ actualCostCny ∧ 0 ≤ actualModelCalls ∧
      controller.budget.spentCostCny + actualCostCny ≤ controller.authorization.maxCostCny ∧
      controller.budget.spentModelCalls + actualModelCalls ≤
        controller.authorization.maxModelCalls ∧
      (controller.authorization.maxCostCny < controller.budget.spentCostCny + actualCostCny +
          (controller.budget.reservedCostCny - item.reservedCostCny) ∨
        controller.authorization.maxModelCalls < controller.budget.spentModelCalls +
          actualModelCalls + (controller.budget.reservedModelCalls - item.reservedModelCalls))
  | _ => False

/-- What a run keeps while no result overcharges. -/
structure Campaign.Authorized (campaign : Campaign) : Prop where
  conserved : campaign.controller.Conserved
  wellFormed : campaign.controller.WellFormed
  maxCost : campaign.controller.budget.maxCostCny = campaign.controller.authorization.maxCostCny
  maxCalls :
    campaign.controller.budget.maxModelCalls = campaign.controller.authorization.maxModelCalls
  within : campaign.WithinCeiling

theorem held_le_reserved {controller : CampaignController} (hconserved : controller.Conserved)
    (hformed : controller.WellFormed) {planId : String} {item : WorkItemSnapshot}
    (hitem : controller.workItems.get? planId = some item) (hpending : item.status = .pending) :
    item.reservedCostCny ≤ controller.budget.reservedCostCny ∧
      item.reservedModelCalls ≤ controller.budget.reservedModelCalls := by
  have hcost : item.heldCost ≤ controller.workItems.total WorkItemSnapshot.heldCost := by
    apply controller.workItems.le_total _ _ hitem
    intro otherId other hother
    have hkept := (hformed otherId other hother).reservedCost
    unfold WorkItemSnapshot.heldCost
    split
    · exact hkept
    · exact le_rfl
  have hcalls : item.heldCalls ≤ controller.workItems.total WorkItemSnapshot.heldCalls := by
    apply controller.workItems.le_total _ _ hitem
    intro otherId other hother
    have hkept := (hformed otherId other hother).reservedCalls
    unfold WorkItemSnapshot.heldCalls
    split
    · exact hkept
    · exact le_rfl
  rw [← hconserved.reservedCost, WorkItemSnapshot.heldCost, if_pos hpending] at hcost
  rw [← hconserved.reservedCalls, WorkItemSnapshot.heldCalls, if_pos hpending] at hcalls
  exact ⟨hcost, hcalls⟩

theorem authorized_step {campaign : Campaign} {operation : Operation}
    (h : campaign.Authorized) (hfits : ¬campaign.controller.Overcharges operation) :
    (campaign.step operation).Authorized := by
  rcases step_cases campaign operation with hsame | ⟨after, hchanges, hstep⟩
  · rw [hsame]
    exact h
  · rw [hstep]
    obtain ⟨-, hauthorization, -, -, hmaxCost, hmaxCalls⟩ := identity_of_changes hchanges
    refine ⟨conserved_of_changes hchanges h.conserved, wellFormed_of_changes hchanges h.wellFormed,
      ?_, ?_, ?_⟩
    · change after.budget.maxCostCny = after.authorization.maxCostCny
      rw [hmaxCost, hauthorization, h.maxCost]
    · change after.budget.maxModelCalls = after.authorization.maxModelCalls
      rw [hmaxCalls, hauthorization, h.maxCalls]
    · obtain ⟨hwithinCost, hwithinCalls⟩ := h.within
      cases hchanges with
      | start => exact ⟨hwithinCost, hwithinCalls⟩
      | pause => exact ⟨hwithinCost, hwithinCalls⟩
      | finalize => exact ⟨hwithinCost, hwithinCalls⟩
      | markPartial => exact ⟨hwithinCost, hwithinCalls⟩
      | submit plan reservedModelCalls remote budget _ _ _ _ hbudget =>
        obtain ⟨-, -, hcost, hcalls, rfl⟩ := reserve_eq_ok hbudget
        rw [h.maxCost] at hcost
        rw [h.maxCalls] at hcalls
        simp only [Campaign.WithinCeiling, Campaign.committed]
        constructor
        · linarith
        · omega
      | recordResult planId actualCostCny actualModelCalls succeeded item budget hrunning hitem
          hpending hbudget =>
          obtain ⟨⟨-, -, hcostSign, hcallsSign⟩, -, hcost, hcalls, rfl⟩ :=
            (record_eq_ok_iff _ _ _ _ _ _).mp hbudget
          rw [h.maxCost] at hcost
          rw [h.maxCalls] at hcalls
          have hbeside : ¬(campaign.controller.authorization.maxCostCny <
                campaign.controller.budget.spentCostCny + actualCostCny +
                  (campaign.controller.budget.reservedCostCny - item.reservedCostCny) ∨
              campaign.controller.authorization.maxModelCalls <
                campaign.controller.budget.spentModelCalls + actualModelCalls +
                  (campaign.controller.budget.reservedModelCalls - item.reservedModelCalls)) :=
            fun hover => hfits ⟨hrunning, item, hitem, hpending, hcostSign, hcallsSign, hcost,
              hcalls, hover⟩
          rw [not_or, not_lt, not_lt] at hbeside
          simp only [Campaign.WithinCeiling, Campaign.committed]
          constructor
          · linarith [hbeside.1]
          · omega

theorem overcharges_breaks {campaign : Campaign} {operation : Operation} (h : campaign.Authorized)
    (hover : campaign.controller.Overcharges operation) :
    ¬(campaign.step operation).WithinCeiling := by
  cases operation with
  | recordResult planId actualCostCny actualModelCalls succeeded =>
    obtain ⟨hrunning, item, hitem, hpending, hcostSign, hcallsSign, hcost, hcalls, hbeside⟩ :=
      hover
    have hkept := h.wellFormed planId item hitem
    have hbudget : campaign.controller.budget.record item.reservedCostCny
        item.reservedModelCalls actualCostCny actualModelCalls = .ok _ :=
      (record_eq_ok_iff _ _ _ _ _ _).mpr ⟨⟨hkept.reservedCost, hkept.reservedCalls, hcostSign,
        hcallsSign⟩, held_le_reserved h.conserved h.wellFormed hitem hpending,
        h.maxCost ▸ hcost, h.maxCalls ▸ hcalls, rfl⟩
    rw [step_recordResult hrunning hitem hpending hbudget]
    rintro ⟨hwithinCost, hwithinCalls⟩
    simp only [Campaign.committed] at hwithinCost hwithinCalls
    rcases hbeside with hover | hover
    · linarith
    · omega
  | start => exact absurd hover id
  | pause reason => exact absurd hover id
  | submit plan reservedModelCalls remote => exact absurd hover id
  | finalize status reason => exact absurd hover id
  | markPartial reason => exact absurd hover id

section Created

variable {campaignId : String} {authorization : Authorization} {now : Int} {checkpoints : Bool}
  {checkpoint : Option Json} {campaign : Campaign}

theorem constructController_eq_ok {controller constructed : CampaignController}
    (h : constructController controller = .ok constructed) : constructed = controller := by
  unfold constructController at h
  split at h
  · cases h
  · split at h
    · cases h
    · cases h
      rfl

theorem create_eq_ok
    (h : Campaign.create campaignId authorization now checkpoints checkpoint = .ok campaign) :
    ∃ controller : CampaignController, controller.campaignId = campaignId ∧
      controller.authorization = authorization ∧ controller.checkpoints = checkpoints ∧
      controller.status = .created ∧
      controller.budget = ⟨authorization.maxCostCny, authorization.maxModelCalls, 0, 0, 0, 0⟩ ∧
      controller.workItems = Dict.empty ∧
      (checkpoints = true → safeCheckpointId campaignId = true) ∧
      campaign = (Campaign.mk controller checkpoint).committed controller := by
  simp only [Campaign.create, except_bind_ok_iff] at h
  obtain ⟨controller, hcontroller, h⟩ := h
  obtain rfl := constructController_eq_ok hcontroller
  refine ⟨{ campaignId, authorization, now, checkpoints, status := .created, reason := none
            budget := ⟨authorization.maxCostCny, authorization.maxModelCalls, 0, 0, 0, 0⟩
            workItems := Dict.empty }, rfl, rfl, rfl, rfl, rfl, rfl, ?_⟩
  simp only [Campaign.save, Campaign.saveCheckpoint, EStateM.run_bind, EStateM.run_get] at h
  cases checkpoints with
  | false =>
    cases h
    exact ⟨by simp, rfl⟩
  | true =>
    cases hsafe : safeCheckpointId campaignId with
    | false =>
      simp [hsafe] at h
    | true =>
      simp only [hsafe, if_true, EStateM.run_modify, Except.ok.injEq] at h
      refine ⟨fun _ => rfl, ?_⟩
      rw [← h]
      simp [Campaign.committed, hsafe]

theorem authorized_create
    (h : Campaign.create campaignId authorization now checkpoints checkpoint = .ok campaign) :
    campaign.Authorized := by
  obtain ⟨controller, -, rfl, -, -, hbudget, hitems, -, rfl⟩ := create_eq_ok h
  constructor
  · constructor <;> simp [Campaign.committed, hbudget, hitems]
  · intro planId item hitem
    simp only [Campaign.committed, hitems, Dict.get?_empty] at hitem
    cases hitem
  · simp [Campaign.committed, hbudget]
  · simp [Campaign.committed, hbudget]
  · simp [Campaign.WithinCeiling, Campaign.committed, hbudget,
      controller.authorization.maxCostCny_nonneg, controller.authorization.maxModelCalls_nonneg]

/-- The ceiling holds all along a run exactly when no result of the run
overcharges in the state it is applied to. -/
theorem withinCeiling_along_iff
    (h : Campaign.create campaignId authorization now checkpoints checkpoint = .ok campaign)
    (operations : List Operation) :
    Along Campaign.WithinCeiling Campaign.step campaign operations ↔
      Guarded (fun campaign operation => ¬campaign.controller.Overcharges operation)
        Campaign.step campaign operations := by
  apply along_iff_guarded (I := Campaign.Authorized) _ _ _ _ operations (authorized_create h)
  · intro campaign hauthorized
    exact hauthorized.within
  · intro campaign operation hauthorized hfits
    exact authorized_step hauthorized hfits
  · intro campaign operation hauthorized hwithin hover
    exact overcharges_breaks hauthorized hover hwithin

end Created

namespace TwoPlans

def sha256 : String := "aaaaaaaaaaaaaaaaaaaaaaaaaaaaaaaaaaaaaaaaaaaaaaaaaaaaaaaaaaaaaaaa"

theorem sha256_isSha256 : isSha256 sha256 = true := by decide

def task : TaskRevision :=
  { taskId := "task", revisionId := "revision-1", project := "project", cohort := .feedback
    sourceSha256 := sha256, evaluatorId := "evaluator", sourceUri := none
    texts := by decide, source_isSha256 := sha256_isSha256, cohort_notBurned := by decide }

def planOf (planId : String) (hid : isText planId = true) : ExecutionPlan :=
  { planId := planId, campaignId := "campaign", strategyId := "strategy", task := task
    candidateRevisionId := "revision-1", arm := "taught"
    model := ⟨"local", "model", "1", by decide⟩, contextPolicyId := "context"
    toolPolicyId := "tools", observerPolicyIds := ["observer"], nativeEvaluatorId := "evaluator"
    limits := ⟨1000, 60, 5, by decide, by decide, by decide⟩, holdoutScope := "feedback-only"
    metadata := []
    texts := by
      simp only [List.forall_mem_cons, hid, true_and]
      decide
    observerPolicyIds_ne := by decide
    feedbackOnly := by simp [task] }

def first : ExecutionPlan := planOf "plan-1" (by decide)

def second : ExecutionPlan := planOf "plan-2" (by decide)

theorem maxCostCny_nonneg : (0 : ℚ) ≤ 10 := by
  norm_num

theorem maxModelCalls_nonneg : (0 : Int) ≤ 10 := by
  omega

def authorization : Authorization :=
  { authorizationId := "authorization", campaignId := "campaign", allowedCohorts := [.feedback]
    maxCostCny := 10, maxModelCalls := 10, expiresAt := 1000, remoteCallsAllowed := false
    texts := by decide, allowedCohorts_ne := by decide, allowedCohorts_open := by decide
    maxCostCny_nonneg := maxCostCny_nonneg, maxModelCalls_nonneg := maxModelCalls_nonneg }

def campaign : Campaign :=
  ⟨{ campaignId := "campaign", authorization := authorization, now := 0, checkpoints := false
     status := .created, reason := none, budget := ⟨10, 10, 0, 0, 0, 0⟩
     workItems := Dict.empty }, none⟩

theorem create_ok : Campaign.create "campaign" authorization 0 false none = .ok campaign := rfl

def submits : List Operation := [.start, .submit first 1 none, .submit second 1 none]

theorem running : (run Campaign.step campaign submits).controller.status = .running := by
  decide +kernel

theorem budget :
    (run Campaign.step campaign submits).controller.budget = ⟨10, 10, 10, 2, 0, 0⟩ := by
  decide +kernel

theorem authorized : (run Campaign.step campaign submits).Authorized := by
  have hcreated := authorized_create create_ok
  refine authorized_step (authorized_step (authorized_step hcreated ?_) ?_) ?_ <;> exact id

theorem item_first :
    ∃ item, (run Campaign.step campaign submits).controller.workItems.get? "plan-1" = some item ∧
      item.status = .pending ∧ item.reservedCostCny = 5 ∧ item.reservedModelCalls = 1 := by
  have hfacts : ((run Campaign.step campaign submits).controller.workItems.get? "plan-1").map
      (fun item => (item.status, item.reservedCostCny, item.reservedModelCalls)) =
        some (.pending, 5, 1) := by
    decide +kernel
  obtain ⟨item, hitem, hsame⟩ := Option.map_eq_some_iff.mp hfacts
  simp only [Prod.mk.injEq] at hsame
  exact ⟨item, hitem, hsame⟩

theorem reserved_fits : ¬(run Campaign.step campaign submits).controller.Overcharges
    (.recordResult "plan-1" 5 1 true) := by
  rintro ⟨-, item, hitem, -, -, -, -, -, hover⟩
  obtain ⟨first, hfirst, -, hcost, hcalls⟩ := item_first
  obtain rfl := Option.some.inj (hitem.symm.trans hfirst)
  rw [← authorized.maxCost, ← authorized.maxCalls, budget, hcost, hcalls] at hover
  norm_num at hover

/-- A result of exactly what the plan reserved keeps the ceiling. -/
theorem withinCeiling_as_reserved :
    Along Campaign.WithinCeiling Campaign.step campaign
      (submits ++ [.recordResult "plan-1" 5 1 true]) :=
  (withinCeiling_along_iff create_ok _).mpr ⟨id, id, id, reserved_fits, trivial⟩

/-- Two plans reserve the whole budget, and the first one reports eight of ten:
eight are spent while five are still reserved. -/
theorem ceiling_exceeded :
    Campaign.create "campaign" authorization 0 false none = .ok campaign ∧
      ¬((run Campaign.step campaign submits).step
        (.recordResult "plan-1" 8 1 true)).WithinCeiling := by
  refine ⟨create_ok, overcharges_breaks authorized ?_⟩
  obtain ⟨item, hitem, hpending, hcost, hcalls⟩ := item_first
  refine ⟨running, item, hitem, hpending, by decide, by decide, ?_⟩
  rw [← authorized.maxCost, ← authorized.maxCalls, budget, hcost, hcalls]
  norm_num

end TwoPlans

end JlensEvolve.Kernel
