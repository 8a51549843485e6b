import JlensEvolve.Kernel.CampaignRuns

/-!
Campaigns that are dropped and rebuilt from their checkpoint. A checkpoint is
decoded to the very object that was saved, so a reload only replaces the
authorization and the clock, and what holds along the operations of one object
holds across any number of reloads.
-/

namespace JlensEvolve.Kernel

open Library Contracts

theorem CampaignStatus.ofText?_text (status : CampaignStatus) :
    CampaignStatus.ofText? status.text = some status := by
  cases status <;> rfl

theorem WorkStatus.ofText?_text (status : WorkStatus) :
    WorkStatus.ofText? status.text = some status := by
  cases status <;> rfl

theorem BudgetSnapshot.ofJson?_toJson (budget : BudgetSnapshot) :
    BudgetSnapshot.ofJson? budget.toJson = some budget := by
  simp [BudgetSnapshot.ofJson?, BudgetSnapshot.toJson, knownKeys, amountAt, callsAt, jsonAmount?]

theorem WorkItemSnapshot.ofJson?_toJson (item : WorkItemSnapshot) :
    WorkItemSnapshot.ofJson? item.toJson = some item := by
  obtain ⟨planId, planSha256, arm, status, reservedCost, reservedCalls, actualCost, actualCalls⟩ :=
    item
  cases actualCost <;> cases actualCalls <;>
    simp [WorkItemSnapshot.ofJson?, WorkItemSnapshot.toJson, knownKeys, textAt, amountAt, callsAt,
      actualAt, jsonAmount?, jsonCalls?, WorkStatus.ofText?_text]

theorem workItemsById_values {controller : CampaignController} (hformed : controller.WellFormed) :
    workItemsById controller.workItems.values = controller.workItems := by
  apply controller.workItems.foldl_set_values WorkItemSnapshot.planId
  intro entry hentry
  exact (hformed entry.1 entry.2 ((Dict.get?_eq_some_iff _ _ _).mpr hentry)).keyed

theorem mapM_ofJson?_toJson (items : List WorkItemSnapshot) :
    items.mapM (WorkItemSnapshot.ofJson? ∘ WorkItemSnapshot.toJson) = some items := by
  induction items with
  | nil => rfl
  | cons item rest ih =>
    simp [List.mapM_cons, WorkItemSnapshot.ofJson?_toJson, ih]

/-- The saved object under another authorization and clock. -/
def CampaignController.under (controller : CampaignController) (authorization : Authorization)
    (now : Int) : CampaignController :=
  { controller with authorization := authorization, now := now }

theorem restored?_payload {controller : CampaignController} (hformed : controller.WellFormed)
    (hcheckpoints : controller.checkpoints = true) (authorization : Authorization) (now : Int) :
    restored? controller.campaignId authorization now controller.payload =
      some (controller.under authorization now) := by
  have hitems := workItemsById_values hformed
  obtain ⟨campaignId, saved, clock, checkpoints, status, reason, budget, workItems⟩ := controller
  obtain rfl : checkpoints = true := hcheckpoints
  simp only at hitems
  cases reason <;>
    simp [restored?, CampaignController.payload, workItemsOf?, reasonOf?, textAt,
      payloadGet_cons, optionText, BudgetSnapshot.ofJson?_toJson, mapM_ofJson?_toJson,
      CampaignStatus.ofText?_text, hitems, CampaignController.under]

theorem loadCheckpoint_document {campaignId : String} (hsafe : safeCheckpointId campaignId = true)
    (fields : List (String × Json)) :
    loadCheckpoint campaignId (some (checkpointDocument (.obj fields))) = .ok fields := by
  simp [loadCheckpoint, checkpointDocument, hsafe]

/-- The budget is conserved, and the file holds the object. -/
structure Campaign.Kept (campaign : Campaign) : Prop where
  conserved : campaign.controller.Conserved
  wellFormed : campaign.controller.WellFormed
  saved : campaign.controller.checkpoints = true →
    safeCheckpointId campaign.controller.campaignId = true ∧
      campaign.checkpoint = some (checkpointDocument (.obj campaign.controller.payload))

theorem committed_saved (campaign : Campaign) {controller : CampaignController}
    (hsafe : controller.checkpoints = true → safeCheckpointId controller.campaignId = true)
    (hcheckpoints : controller.checkpoints = true) :
    safeCheckpointId (campaign.committed controller).controller.campaignId = true ∧
      (campaign.committed controller).checkpoint =
        some (checkpointDocument (.obj (campaign.committed controller).controller.payload)) := by
  simp [Campaign.committed, hcheckpoints, hsafe hcheckpoints]

theorem kept_create {campaignId : String} {authorization : Authorization} {now : Int}
    {checkpoints : Bool} {checkpoint : Option Json} {campaign : Campaign}
    (h : Campaign.create campaignId authorization now checkpoints checkpoint = .ok campaign) :
    campaign.Kept := by
  have hauthorized := authorized_create h
  refine ⟨hauthorized.conserved, hauthorized.wellFormed, ?_⟩
  obtain ⟨controller, rfl, -, rfl, -, -, -, hsafe, rfl⟩ := create_eq_ok h
  intro hcheckpoints
  exact committed_saved _ hsafe hcheckpoints

theorem kept_step {campaign : Campaign} (h : campaign.Kept) (operation : Operation) :
    (campaign.step operation).Kept := by
  rcases step_cases campaign operation with hsame | ⟨after, hchanges, hstep⟩
  · rw [hsame]
    exact h
  · rw [hstep]
    refine ⟨conserved_of_changes hchanges h.conserved, wellFormed_of_changes hchanges h.wellFormed,
      fun hcheckpoints => committed_saved _ ?_ hcheckpoints⟩
    obtain ⟨hid, -, -, hmanager, -, -⟩ := identity_of_changes hchanges
    rw [hid, hmanager]
    exact fun hbefore => (h.saved hbefore).1

theorem reload_cases {campaign : Campaign} (h : campaign.Kept) (authorization : Authorization)
    (now : Int) :
    campaign.stepEvent (.reload authorization now) = campaign ∨
      authorization.authorizationId = campaign.controller.authorization.authorizationId ∧
        campaign.stepEvent (.reload authorization now) =
          { campaign with controller := campaign.controller.under authorization now } := by
  simp only [Campaign.stepEvent, CampaignEvent.program, Campaign.reload, EStateM.run_bind,
    EStateM.run_get]
  split
  · rename_i hcheckpoints
    obtain ⟨hsafe, hfile⟩ := h.saved hcheckpoints
    rw [EStateM.run_bind, hfile]
    cases hload : fromCheckpoint campaign.controller.campaignId authorization now
        (some (checkpointDocument (.obj campaign.controller.payload))) with
    | error e => exact Or.inl rfl
    | ok restored =>
      simp only [fromCheckpoint, loadCheckpoint_document hsafe, except_bind_ok_iff,
        Except.ok.injEq, exists_eq_left',
        restored?_payload h.wellFormed hcheckpoints authorization now] at hload
      split at hload
      · cases hload
      · split at hload
        · cases hload
        · rename_i hsame
          obtain rfl := constructController_eq_ok hload
          refine Or.inr ⟨?_, ?_⟩
          · simpa [CampaignController.payload, payloadGet_cons, eq_comm] using hsame
          · rw [← hfile]
            rfl
  · exact Or.inl rfl

theorem kept_event (campaign : Campaign) (event : CampaignEvent) (h : campaign.Kept) :
    (campaign.stepEvent event).Kept := by
  cases event with
  | operation op => exact kept_step h op
  | reload authorization now =>
    rcases reload_cases h authorization now with hsame | ⟨hid, hreload⟩
    · rw [hsame]
      exact h
    · rw [hreload]
      refine ⟨⟨h.conserved.reservedCost, h.conserved.reservedCalls, h.conserved.spentCost,
        h.conserved.spentCalls⟩, h.wellFormed, ?_⟩
      intro hcheckpoints
      obtain ⟨hsafe, hfile⟩ := h.saved hcheckpoints
      refine ⟨hsafe, ?_⟩
      rw [hfile]
      simp [CampaignController.payload, CampaignController.under, hid]

theorem status_event (campaign : Campaign) (event : CampaignEvent) (h : campaign.Kept)
    (hterminal : campaign.controller.status ∈ terminalStatuses) :
    (campaign.stepEvent event).controller.status = campaign.controller.status := by
  cases event with
  | operation op =>
    rcases step_cases campaign op with hsame | ⟨after, hchanges, hstep⟩
    · exact congrArg (fun reached => reached.controller.status) hsame
    · rw [show campaign.stepEvent (.operation op) = campaign.committed after from hstep]
      exact status_of_changes hchanges hterminal
  | reload authorization now =>
    rcases reload_cases h authorization now with hsame | ⟨-, hreload⟩
    · rw [hsame]
    · rw [hreload]
      rfl

/-- The object holds the facts of a submit or of a result. -/
def CampaignController.Recorded (controller : CampaignController) : Operation → Prop
  | .submit plan _ _ => ∃ item, controller.workItems.get? plan.planId = some item ∧
      item.planSha256 = plan.contentSha256
  | .recordResult planId actualCostCny actualModelCalls succeeded =>
    ∃ item, controller.workItems.get? planId = some item ∧
      item.status = settledStatus succeeded ∧ item.actualCostCny = some actualCostCny ∧
      item.actualModelCalls = some actualModelCalls
  | _ => False

def Operation.Replayable : Operation → Prop
  | .submit _ _ _ => True
  | .recordResult _ _ _ _ => True
  | _ => False

theorem controller_of_commit {campaign after : Campaign} {controller : CampaignController}
    {u : Unit} (h : (Campaign.commit controller).run campaign = .ok u after) :
    after.controller = controller := by
  have hfinal := finalState_commit campaign controller
  rw [h] at hfinal
  rw [show after = campaign.committed controller from hfinal]
  rfl

theorem recorded_of_submit {campaign after : Campaign} {plan : ExecutionPlan}
    {reservedModelCalls : Int} {remote : Option Bool} {submitted : Bool}
    (h : (Campaign.submit plan reservedModelCalls remote).run campaign = .ok submitted after) :
    after.controller.Recorded (.submit plan reservedModelCalls remote) := by
  simp only [Campaign.submit, run_bind_ok_iff, EStateM.run_get, EStateM.Result.ok.injEq,
    run_check_ok_iff] at h
  obtain ⟨_, _, ⟨rfl, rfl⟩, _, _, ⟨-, rfl⟩, h⟩ := h
  split at h
  · cases h
  · split at h
    · rename_i existing hexisting
      split at h
      · cases h
      · rename_i hsame
        cases h
        exact ⟨existing, hexisting, not_not.mp hsame⟩
    · split at h
      · cases h
      · simp only [run_bind_ok_iff] at h
        obtain ⟨_, _, _, _, _, hcommit, hreturn⟩ := h
        cases hreturn
        rw [CampaignController.Recorded, controller_of_commit hcommit]
        exact ⟨_, Dict.get?_set_self _ _ _, rfl⟩

theorem recorded_of_recordResult {campaign after : Campaign} {planId : String} {actualCostCny : ℚ}
    {actualModelCalls : Int} {succeeded : Bool} {u : Unit}
    (h : (Campaign.recordResult planId actualCostCny actualModelCalls succeeded).run campaign =
      .ok u after) :
    after.controller.Recorded (.recordResult planId actualCostCny actualModelCalls succeeded) := by
  simp only [Campaign.recordResult, run_bind_ok_iff, EStateM.run_get, EStateM.Result.ok.injEq,
    run_check_ok_iff] at h
  obtain ⟨_, _, ⟨rfl, rfl⟩, _, _, ⟨-, rfl⟩, h⟩ := h
  split at h
  · cases h
  · rename_i item hitem
    split at h
    · split at h
      · rename_i hfacts
        cases h
        exact ⟨item, hitem, hfacts.2.2, hfacts.1, hfacts.2.1⟩
      · cases h
    · simp only [run_bind_ok_iff] at h
      obtain ⟨_, _, _, hcommit⟩ := h
      rw [CampaignController.Recorded, controller_of_commit hcommit]
      exact ⟨_, Dict.get?_set_self _ _ _, rfl, rfl, rfl⟩

theorem recorded_of_changes {controller after : CampaignController}
    {operation recorded : Operation} (h : Changes controller operation after)
    (hrecorded : controller.Recorded recorded) : after.Recorded recorded := by
  cases recorded with
  | submit plan reservedModelCalls remote =>
    obtain ⟨item, hitem, hsame⟩ := hrecorded
    cases h with
    | start => exact ⟨item, hitem, hsame⟩
    | pause => exact ⟨item, hitem, hsame⟩
    | finalize => exact ⟨item, hitem, hsame⟩
    | markPartial => exact ⟨item, hitem, hsame⟩
    | submit other _ _ _ _ _ habsent =>
      have hother : plan.planId ≠ other.planId := by
        intro hid
        rw [hid, habsent] at hitem
        cases hitem
      exact ⟨item, (Dict.get?_set_of_ne _ _ hother).trans hitem, hsame⟩
    | recordResult planId actualCostCny actualModelCalls succeeded old _ _ hold _ _ =>
      by_cases hid : plan.planId = planId
      · subst hid
        obtain rfl := Option.some.inj (hold.symm.trans hitem)
        exact ⟨_, Dict.get?_set_self _ _ _, hsame⟩
      · exact ⟨item, (Dict.get?_set_of_ne _ _ hid).trans hitem, hsame⟩
  | recordResult planId actualCostCny actualModelCalls succeeded =>
    obtain ⟨item, hitem, hstatus, hfacts⟩ := hrecorded
    cases h with
    | start => exact ⟨item, hitem, hstatus, hfacts⟩
    | pause => exact ⟨item, hitem, hstatus, hfacts⟩
    | finalize => exact ⟨item, hitem, hstatus, hfacts⟩
    | markPartial => exact ⟨item, hitem, hstatus, hfacts⟩
    | submit other _ _ _ _ _ habsent =>
      have hother : planId ≠ other.planId := by
        intro hid
        rw [hid, habsent] at hitem
        cases hitem
      exact ⟨item, (Dict.get?_set_of_ne _ _ hother).trans hitem, hstatus, hfacts⟩
    | recordResult otherId _ _ _ other _ _ hother hpending _ =>
      have hne : planId ≠ otherId := by
        rintro rfl
        obtain rfl := Option.some.inj (hother.symm.trans hitem)
        exact settledStatus_ne_pending succeeded (hstatus.symm.trans hpending)
      exact ⟨item, (Dict.get?_set_of_ne _ _ hne).trans hitem, hstatus, hfacts⟩
  | start => exact absurd hrecorded id
  | pause reason => exact absurd hrecorded id
  | finalize status reason => exact absurd hrecorded id
  | markPartial reason => exact absurd hrecorded id

theorem recorded_under {controller : CampaignController} {recorded : Operation}
    (authorization : Authorization) (now : Int) (h : controller.Recorded recorded) :
    (controller.under authorization now).Recorded recorded := by
  cases recorded with
  | submit plan reservedModelCalls remote => exact h
  | recordResult planId actualCostCny actualModelCalls succeeded => exact h
  | start => exact absurd h id
  | pause reason => exact absurd h id
  | finalize status reason => exact absurd h id
  | markPartial reason => exact absurd h id

theorem recorded_event (campaign : Campaign) (event : CampaignEvent) (hkept : campaign.Kept)
    {recorded : Operation} (h : campaign.controller.Recorded recorded) :
    (campaign.stepEvent event).controller.Recorded recorded := by
  cases event with
  | operation op =>
    rcases step_cases campaign op with hsame | ⟨after, hchanges, hstep⟩
    · rw [show campaign.stepEvent (.operation op) = campaign from hsame]
      exact h
    · rw [show campaign.stepEvent (.operation op) = campaign.committed after from hstep]
      exact recorded_of_changes hchanges h
  | reload authorization now =>
    rcases reload_cases hkept authorization now with hsame | ⟨-, hreload⟩
    · rw [hsame]
      exact h
    · rw [hreload]
      exact recorded_under authorization now h

theorem step_recorded {campaign : Campaign} {operation : Operation}
    (h : campaign.controller.Recorded operation) : campaign.step operation = campaign := by
  rcases step_cases campaign operation with hsame | ⟨after, hchanges, -⟩
  · exact hsame
  · cases hchanges with
    | start => exact absurd h id
    | pause => exact absurd h id
    | finalize => exact absurd h id
    | markPartial => exact absurd h id
    | submit plan _ _ _ _ _ habsent =>
      obtain ⟨item, hitem, -⟩ := h
      rw [habsent] at hitem
      cases hitem
    | recordResult planId _ _ succeeded item _ _ hitem hpending _ =>
      obtain ⟨recorded, hrecorded, hstatus, -⟩ := h
      obtain rfl := Option.some.inj (hitem.symm.trans hrecorded)
      exact absurd (hstatus.symm.trans hpending) (settledStatus_ne_pending succeeded)

theorem recorded_of_returned {campaign : Campaign} {operation : Operation}
    (hreplayable : operation.Replayable)
    (h : returned? (operation.program.run campaign) = some ()) :
    (campaign.step operation).controller.Recorded operation := by
  cases hrun : operation.program.run campaign with
  | error e after =>
    rw [hrun] at h
    cases h
  | ok u after =>
    rw [Campaign.step, hrun]
    cases operation with
    | submit plan reservedModelCalls remote =>
      simp only [Operation.program, run_bind_ok_iff] at hrun
      obtain ⟨submitted, _, hsubmit, hreturn⟩ := hrun
      cases hreturn
      exact recorded_of_submit hsubmit
    | recordResult planId actualCostCny actualModelCalls succeeded =>
      exact recorded_of_recordResult hrun
    | start => exact absurd hreplayable id
    | pause reason => exact absurd hreplayable id
    | finalize status reason => exact absurd hreplayable id
    | markPartial reason => exact absurd hreplayable id

section Runs

variable {campaign : Campaign}

theorem kept_run (h : campaign.Kept) (events : List CampaignEvent) :
    (run Campaign.stepEvent campaign events).Kept :=
  run_invariant kept_event campaign events h

theorem status_run (h : campaign.Kept) (events : List CampaignEvent)
    (hterminal : campaign.controller.status ∈ terminalStatuses) :
    (run Campaign.stepEvent campaign events).controller.status = campaign.controller.status := by
  induction events generalizing campaign with
  | nil => rfl
  | cons event events ih =>
    have hstatus := status_event campaign event h hterminal
    rw [run_cons, ih (kept_event campaign event h) (hstatus ▸ hterminal), hstatus]

theorem recorded_run (h : campaign.Kept) (events : List CampaignEvent) {recorded : Operation}
    (hrecorded : campaign.controller.Recorded recorded) :
    (run Campaign.stepEvent campaign events).controller.Recorded recorded := by
  induction events generalizing campaign with
  | nil => exact hrecorded
  | cons event events ih =>
    exact ih (kept_event campaign event h) (recorded_event campaign event h hrecorded)

/-- In every state that operations and reloads reach from a created campaign
the budget is conserved; a terminal status is never left; and a submit or a
result that returned can be replayed at any later point without effect. -/
theorem campaign_conserved {campaignId : String} {authorization : Authorization} {now : Int}
    {checkpoints : Bool} {checkpoint : Option Json}
    (h : Campaign.create campaignId authorization now checkpoints checkpoint = .ok campaign)
    (events : List CampaignEvent) :
    (run Campaign.stepEvent campaign events).controller.Conserved ∧
      (∀ before after, events = before ++ after →
        (run Campaign.stepEvent campaign before).controller.status ∈ terminalStatuses →
        (run Campaign.stepEvent campaign events).controller.status =
          (run Campaign.stepEvent campaign before).controller.status) ∧
      ∀ before operation after, events = before ++ .operation operation :: after →
        operation.Replayable →
        returned? (operation.program.run (run Campaign.stepEvent campaign before)) = some () →
        (run Campaign.stepEvent campaign events).step operation =
          run Campaign.stepEvent campaign events := by
  have hcreated := kept_create h
  refine ⟨(kept_run hcreated events).conserved, ?_, ?_⟩
  · rintro before after rfl hterminal
    rw [run_append]
    exact status_run (kept_run hcreated before) after hterminal
  · rintro before operation after rfl hreplayable hreturned
    apply step_recorded
    rw [run_append, run_cons]
    have hbefore := kept_run hcreated before
    exact recorded_run (kept_event _ (.operation operation) hbefore) after
      (recorded_of_returned hreplayable hreturned)

end Runs

namespace TwoPlans

/-- The campaign of `campaign`, saved to a checkpoint file. -/
def saved : Campaign :=
  let controller := { campaign.controller with checkpoints := true }
  (Campaign.mk controller none).committed controller

theorem create_saved : Campaign.create "campaign" authorization 0 true none = .ok saved := rfl

def reloaded : List CampaignEvent :=
  [.operation .start, .operation (.submit first 1 none), .reload authorization 5,
    .operation (.recordResult "plan-1" 4 1 true), .operation (.submit second 1 none)]

theorem submit_returned :
    returned? ((Operation.submit first 1 none).program.run
      (run Campaign.stepEvent saved [.operation .start])) = some () := by
  decide +kernel

/-- A plan is submitted, the campaign is reloaded, and the plan's result and a
second plan follow: the budget is conserved and the first submit can be repeated. -/
theorem conserved_reloaded :
    (run Campaign.stepEvent saved reloaded).controller.Conserved ∧
      (run Campaign.stepEvent saved reloaded).step (.submit first 1 none) =
        run Campaign.stepEvent saved reloaded := by
  obtain ⟨hconserved, -, hreplay⟩ := campaign_conserved create_saved reloaded
  exact ⟨hconserved, hreplay [.operation .start] _ _ rfl trivial submit_returned⟩

end TwoPlans

end JlensEvolve.Kernel
