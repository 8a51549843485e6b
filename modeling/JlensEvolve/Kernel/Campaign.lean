import JlensEvolve.ExecutionContracts
import JlensEvolve.Kernel.CostLedger

/-!
`BudgetManager`, `CheckpointManager` and `CampaignController`. The state of the
programs below is the controller object together with the checkpoint file of
its campaign, as the value the file's text decodes to. A controller changes its
fields and then saves; a refused operation changes neither.
-/

namespace JlensEvolve.Kernel

open Library Contracts

/-- `BudgetManager.reserve`. The fields of a manager are those of its
snapshot. -/
def BudgetSnapshot.reserve (budget : BudgetSnapshot) (costCny : ℚ) (modelCalls : Int) :
    Except LedgerError BudgetSnapshot :=
  if costCny < 0 ∨ modelCalls < 0 then
    .error (.contractViolation "budget reservations cannot be negative")
  else if budget.maxCostCny < budget.spentCostCny + budget.reservedCostCny + costCny then
    .error (.budgetExceeded "campaign cost budget exhausted")
  else if budget.maxModelCalls <
      budget.spentModelCalls + budget.reservedModelCalls + modelCalls then
    .error (.budgetExceeded "campaign model call budget exhausted")
  else
    .ok { budget with
      reservedCostCny := budget.reservedCostCny + costCny
      reservedModelCalls := budget.reservedModelCalls + modelCalls }

/-- `BudgetManager.record`, which looks at what is spent and not at what else
is reserved. -/
def BudgetSnapshot.record (budget : BudgetSnapshot) (reservedCostCny : ℚ)
    (reservedModelCalls : Int) (actualCostCny : ℚ) (actualModelCalls : Int) :
    Except LedgerError BudgetSnapshot :=
  if reservedCostCny < 0 ∨ reservedModelCalls < 0 ∨ actualCostCny < 0 ∨ actualModelCalls < 0 then
    .error (.contractViolation "budget charges cannot be negative")
  else if budget.reservedCostCny < reservedCostCny ∨
      budget.reservedModelCalls < reservedModelCalls then
    .error (.contractViolation "result exceeds its outstanding reservation")
  else if budget.maxCostCny < budget.spentCostCny + actualCostCny then
    .error (.budgetExceeded "actual campaign cost exceeds authorization")
  else if budget.maxModelCalls < budget.spentModelCalls + actualModelCalls then
    .error (.budgetExceeded "actual campaign model calls exceed authorization")
  else
    .ok { budget with
      reservedCostCny := budget.reservedCostCny - reservedCostCny
      reservedModelCalls := budget.reservedModelCalls - reservedModelCalls
      spentCostCny := budget.spentCostCny + actualCostCny
      spentModelCalls := budget.spentModelCalls + actualModelCalls }

inductive CampaignStatus where
  | created
  | running
  | paused
  | completed
  | failed
  | blocked
  | cancelled
  | partialResult
deriving DecidableEq, Repr

def CampaignStatus.text : CampaignStatus → String
  | .created => "created"
  | .running => "running"
  | .paused => "paused"
  | .completed => "completed"
  | .failed => "failed"
  | .blocked => "blocked"
  | .cancelled => "cancelled"
  | .partialResult => "partial"

def CampaignStatus.all : List CampaignStatus :=
  [.created, .running, .paused, .completed, .failed, .blocked, .cancelled, .partialResult]

/-- `CampaignStatus(text)`. -/
def CampaignStatus.ofText? (text : String) : Option CampaignStatus :=
  CampaignStatus.all.find? (fun status => status.text = text)

def terminalStatuses : List CampaignStatus :=
  [.completed, .failed, .blocked, .cancelled, .partialResult]

inductive WorkStatus where
  | pending
  | completed
  | failed
deriving DecidableEq, Repr

def WorkStatus.text : WorkStatus → String
  | .pending => "pending"
  | .completed => "completed"
  | .failed => "failed"

def WorkStatus.ofText? (text : String) : Option WorkStatus :=
  [WorkStatus.pending, .completed, .failed].find? (fun status => status.text = text)

structure WorkItemSnapshot where
  planId : String
  planSha256 : String
  arm : String
  status : WorkStatus
  reservedCostCny : ℚ
  reservedModelCalls : Int
  actualCostCny : Option ℚ
  actualModelCalls : Option Int
deriving DecidableEq

structure CampaignController where
  campaignId : String
  authorization : Authorization
  now : Int
  /-- A checkpoint manager was given. -/
  checkpoints : Bool
  status : CampaignStatus
  reason : Option String
  budget : BudgetSnapshot
  workItems : Dict String WorkItemSnapshot

structure Campaign where
  controller : CampaignController
  checkpoint : Option Json

abbrev CampaignM := EStateM LedgerError Campaign

def violates {α : Type} (message : String) : Except LedgerError α :=
  .error (.contractViolation message)

/-- `CampaignController.__init__`. -/
def constructController (controller : CampaignController) : Except LedgerError CampaignController :=
  if controller.authorization.campaignId ≠ controller.campaignId then
    violates "authorization campaign does not match controller"
  else
    match controller.authorization.refusal?
      (controller.authorization.allowedCohorts.head controller.authorization.allowedCohorts_ne)
      0 0 false controller.now with
    | some message => violates message
    | none => .ok controller

def WorkItemSnapshot.toJson (item : WorkItemSnapshot) : Json :=
  .obj [("plan_id", .str item.planId), ("plan_sha256", .str item.planSha256),
    ("arm", .str item.arm), ("status", .str item.status.text),
    ("reserved_cost_cny", .float item.reservedCostCny),
    ("reserved_model_calls", .int item.reservedModelCalls),
    ("actual_cost_cny", (item.actualCostCny.map Json.float).getD .null),
    ("actual_model_calls", (item.actualModelCalls.map Json.int).getD .null)]

def BudgetSnapshot.toJson (budget : BudgetSnapshot) : Json :=
  .obj [("max_cost_cny", .float budget.maxCostCny),
    ("max_model_calls", .int budget.maxModelCalls),
    ("reserved_cost_cny", .float budget.reservedCostCny),
    ("reserved_model_calls", .int budget.reservedModelCalls),
    ("spent_cost_cny", .float budget.spentCostCny),
    ("spent_model_calls", .int budget.spentModelCalls)]

/-- `asdict(snapshot)`. -/
def CampaignController.payload (controller : CampaignController) : List (String × Json) :=
  [("campaign_id", .str controller.campaignId),
    ("authorization_id", .str controller.authorization.authorizationId),
    ("status", .str controller.status.text), ("reason", optionText controller.reason),
    ("budget", controller.budget.toJson),
    ("work_items", .arr (controller.workItems.values.map WorkItemSnapshot.toJson))]

/-- The document `CheckpointManager.save` writes. -/
def checkpointDocument (payload : Json) : Json :=
  .obj [("schema_version", .int 1), ("payload", payload),
    ("payload_sha256", .str payload.contentSha256)]

/-- The check of `path_for`. -/
def safeCheckpointId (campaignId : String) : Bool :=
  campaignId ≠ "" && '/' ∉ campaignId.toList && '\\' ∉ campaignId.toList

def Campaign.saveCheckpoint (campaignId : String) (payload : Json) : CampaignM Unit := do
  if safeCheckpointId campaignId then
    modify fun campaign => { campaign with checkpoint := some (checkpointDocument payload) }
  else throw (.contractViolation "campaign_id is not safe for a checkpoint path")

def Campaign.save : CampaignM Unit := do
  let controller := (← get).controller
  if controller.checkpoints then Campaign.saveCheckpoint controller.campaignId (.obj controller.payload)

/-- `CheckpointManager.load`. -/
def loadCheckpoint (campaignId : String) (checkpoint : Option Json) :
    Except LedgerError (List (String × Json)) :=
  if safeCheckpointId campaignId = false then
    violates "campaign_id is not safe for a checkpoint path"
  else
    match checkpoint with
    | none => violates s!"checkpoint does not exist for {campaignId}"
    | some document =>
      let payload := (document.get? "payload").getD .null
      if ¬ ((document.get? "schema_version").any (Json.pyEq (.int 1)) = true) then
        violates "unsupported checkpoint schema"
      else if document.get? "payload_sha256" ≠ some (.str payload.contentSha256) then
        violates "checkpoint hash mismatch"
      else
        match payload with
        | .obj fields => .ok fields
        | _ => violates "checkpoint payload must be an object"

/-- The keyword arguments of a call are among the parameters. -/
def knownKeys (parameters : List String) (fields : List (String × Json)) : Bool :=
  fields.all (fun field => field.1 ∈ parameters)

def textAt (fields : List (String × Json)) (key : String) : Option String :=
  match Json.field? fields key with
  | some (.str value) => some value
  | _ => none

def amountAt (fields : List (String × Json)) (key : String) (absent : Option ℚ) : Option ℚ :=
  match Json.field? fields key with
  | some value => jsonAmount? value
  | none => absent

def callsAt (fields : List (String × Json)) (key : String) (absent : Option Int) : Option Int :=
  match Json.field? fields key with
  | some (.int value) => some value
  | some _ => none
  | none => absent

/-- `BudgetManager(**payload)`. -/
def BudgetSnapshot.ofJson? : Json → Option BudgetSnapshot
  | .obj fields => do
      guard (knownKeys ["max_cost_cny", "max_model_calls", "reserved_cost_cny",
        "reserved_model_calls", "spent_cost_cny", "spent_model_calls"] fields = true)
      return {
        maxCostCny := ← amountAt fields "max_cost_cny" none
        maxModelCalls := ← callsAt fields "max_model_calls" none
        reservedCostCny := ← amountAt fields "reserved_cost_cny" (some 0)
        reservedModelCalls := ← callsAt fields "reserved_model_calls" (some 0)
        spentCostCny := ← amountAt fields "spent_cost_cny" (some 0)
        spentModelCalls := ← callsAt fields "spent_model_calls" (some 0) }
  | _ => none

/-- An absent or null actual is `None`. -/
def actualAt {α : Type} (fields : List (String × Json)) (key : String) (read : Json → Option α) :
    Option (Option α) :=
  match Json.field? fields key with
  | none | some .null => some none
  | some value => (read value).map some

def jsonCalls? : Json → Option Int
  | .int value => some value
  | _ => none

/-- `WorkItemSnapshot(**item)`. -/
def WorkItemSnapshot.ofJson? : Json → Option WorkItemSnapshot
  | .obj fields => do
      guard (knownKeys ["plan_id", "plan_sha256", "arm", "status", "reserved_cost_cny",
        "reserved_model_calls", "actual_cost_cny", "actual_model_calls"] fields = true)
      return {
        planId := ← textAt fields "plan_id"
        planSha256 := ← textAt fields "plan_sha256"
        arm := ← textAt fields "arm"
        status := ← (textAt fields "status").bind WorkStatus.ofText?
        reservedCostCny := ← amountAt fields "reserved_cost_cny" none
        reservedModelCalls := ← callsAt fields "reserved_model_calls" none
        actualCostCny := ← actualAt fields "actual_cost_cny" jsonAmount?
        actualModelCalls := ← actualAt fields "actual_model_calls" jsonCalls? }
  | _ => none

def workItemsById (items : List WorkItemSnapshot) : Dict String WorkItemSnapshot :=
  items.foldl (fun byId item => byId.set item.planId item) Dict.empty

def workItemsOf? (fields : List (String × Json)) : Option (List WorkItemSnapshot) :=
  match Json.field? fields "work_items" with
  | none => some []
  | some (.arr items) => items.mapM WorkItemSnapshot.ofJson?
  | some _ => none

/-- `payload.get("reason")`. -/
def reasonOf? (fields : List (String × Json)) : Option (Option String) :=
  match payloadGet fields "reason" with
  | .null => some none
  | .str value => some (some value)
  | _ => none

/-- What `from_checkpoint` reads from a payload of the right campaign and
authorization; a missing key or a value of another type raises. -/
def restored? (campaignId : String) (authorization : Authorization) (now : Int)
    (fields : List (String × Json)) : Option CampaignController := do
  let budget ← (Json.field? fields "budget").bind BudgetSnapshot.ofJson?
  let items ← workItemsOf? fields
  let status ← (textAt fields "status").bind CampaignStatus.ofText?
  let reason ← reasonOf? fields
  return { campaignId, authorization, now, checkpoints := true, status, reason, budget
           workItems := workItemsById items }

def fromCheckpoint (campaignId : String) (authorization : Authorization) (now : Int)
    (checkpoint : Option Json) : Except LedgerError CampaignController := do
  let fields ← loadCheckpoint campaignId checkpoint
  if payloadGet fields "campaign_id" ≠ .str campaignId then
    violates "checkpoint campaign identity mismatch"
  else if payloadGet fields "authorization_id" ≠ .str authorization.authorizationId then
    violates "checkpoint authorization identity mismatch"
  else
    match restored? campaignId authorization now fields with
    | none => violates "checkpoint payload is malformed"
    | some controller => constructController controller

/-- Every operation that changes the object saves it right after. -/
def Campaign.commit (controller : CampaignController) : CampaignM Unit := do
  modify fun campaign => { campaign with controller := controller }
  Campaign.save

/-- `CampaignController.create`, over whatever checkpoint file there is. -/
def Campaign.create (campaignId : String) (authorization : Authorization) (now : Int) (checkpoints : Bool)
    (checkpoint : Option Json) : Except LedgerError Campaign := do
  let controller ← constructController
    { campaignId, authorization, now, checkpoints, status := .created, reason := none
      budget := ⟨authorization.maxCostCny, authorization.maxModelCalls, 0, 0, 0, 0⟩
      workItems := Dict.empty }
  match Campaign.save.run ⟨controller, checkpoint⟩ with
  | .ok _ campaign => .ok campaign
  | .error e _ => .error e

def CampaignController.requireRunning (controller : CampaignController) :
    Except LedgerError Unit :=
  if controller.status ∈ terminalStatuses then violates "campaign is terminal"
  else if controller.status ≠ .running then violates "campaign must be running"
  else .ok ()

def Campaign.start : CampaignM Unit := do
  let controller := (← get).controller
  if controller.status ∉ [CampaignStatus.created, .paused] then
    throw (.contractViolation ("cannot start campaign from " ++ controller.status.text))
  else Campaign.commit { controller with status := .running, reason := none }

def Campaign.pause (reason : String) : CampaignM Unit := do
  let controller := (← get).controller
  check controller.requireRunning
  Campaign.commit { controller with status := .paused, reason := some reason }

def localProviders : List String := ["local", "local-mlx", "mlx"]

def Campaign.submit (plan : ExecutionPlan) (reservedModelCalls : Int) (remote : Option Bool) :
    CampaignM Bool := do
  let controller := (← get).controller
  check controller.requireRunning
  if plan.campaignId ≠ controller.campaignId then
    throw (.contractViolation "execution plan campaign does not match controller")
  else
    match controller.workItems.get? plan.planId with
    | some existing =>
      if existing.planSha256 ≠ plan.contentSha256 then
        throw (.contractViolation "duplicate plan_id has conflicting content")
      else return false
    | none =>
      let remoteCall := remote.getD (plan.model.provider ∉ localProviders)
      match controller.authorization.refusal? plan.task.cohort 0 0 remoteCall controller.now with
      | some message => throw (.contractViolation message)
      | none =>
        let budget ← check (controller.budget.reserve plan.limits.maxCostCny reservedModelCalls)
        Campaign.commit { controller with
          budget := budget
          workItems := controller.workItems.set plan.planId
            { planId := plan.planId, planSha256 := plan.contentSha256, arm := plan.arm
              status := .pending, reservedCostCny := plan.limits.maxCostCny
              reservedModelCalls := reservedModelCalls
              actualCostCny := none, actualModelCalls := none } }
        return true

/-- The status a result gives its work item. -/
def settledStatus (succeeded : Bool) : WorkStatus := if succeeded then .completed else .failed

def WorkItemSnapshot.settle (item : WorkItemSnapshot) (actualCostCny : ℚ) (actualModelCalls : Int)
    (succeeded : Bool) : WorkItemSnapshot :=
  { item with
    status := settledStatus succeeded
    actualCostCny := some actualCostCny
    actualModelCalls := some actualModelCalls }

def Campaign.recordResult (planId : String) (actualCostCny : ℚ) (actualModelCalls : Int)
    (succeeded : Bool) : CampaignM Unit := do
  let controller := (← get).controller
  check controller.requireRunning
  match controller.workItems.get? planId with
  | none => throw (.contractViolation "cannot record an unknown execution plan")
  | some item =>
    if item.status ≠ .pending then
      if item.actualCostCny = some actualCostCny ∧
          item.actualModelCalls = some actualModelCalls ∧
          item.status = settledStatus succeeded then
        return ()
      else throw (.contractViolation "execution result already recorded with other facts")
    else
      let budget ← check (controller.budget.record item.reservedCostCny item.reservedModelCalls
        actualCostCny actualModelCalls)
      Campaign.commit { controller with
        budget := budget
        workItems := controller.workItems.set planId
          (item.settle actualCostCny actualModelCalls succeeded) }

def Campaign.finalize (status : CampaignStatus) (reason : Option String) : CampaignM Unit := do
  let controller := (← get).controller
  if controller.status ∈ terminalStatuses then
    throw (.contractViolation "campaign is already terminal")
  else if status ∉ terminalStatuses then
    throw (.contractViolation "final campaign status must be terminal")
  else if status = .completed ∧
      controller.workItems.values.any (fun item => item.status ≠ .completed) = true then
    throw (.contractViolation "completed campaign has unfinished work")
  else Campaign.commit { controller with status := status, reason := reason }

def Campaign.markPartial (reason : String) : CampaignM Unit := Campaign.finalize .partialResult (some reason)

/-- Discarding the object and rebuilding it from the checkpoint. When that
raises, the object before is kept here: it holds what the file holds. -/
def Campaign.reload (authorization : Authorization) (now : Int) : CampaignM Unit := do
  let campaign ← get
  if campaign.controller.checkpoints then
    let controller ←
      check (fromCheckpoint campaign.controller.campaignId authorization now campaign.checkpoint)
    modify fun campaign => { campaign with controller := controller }
  else throw (.contractViolation "no checkpoint manager")

/-- The public operations of a controller. -/
inductive Operation where
  | start
  | pause (reason : String)
  | submit (plan : ExecutionPlan) (reservedModelCalls : Int) (remote : Option Bool)
  | recordResult (planId : String) (actualCostCny : ℚ) (actualModelCalls : Int) (succeeded : Bool)
  | finalize (status : CampaignStatus) (reason : Option String)
  | markPartial (reason : String)

def Operation.program : Operation → CampaignM Unit
  | .start => Campaign.start
  | .pause reason => Campaign.pause reason
  | .submit plan reservedModelCalls remote => do
      let _ ← Campaign.submit plan reservedModelCalls remote
  | .recordResult planId actualCostCny actualModelCalls succeeded =>
    Campaign.recordResult planId actualCostCny actualModelCalls succeeded
  | .finalize status reason => Campaign.finalize status reason
  | .markPartial reason => Campaign.markPartial reason

/-- What an operation leaves behind, whether it returned or raised. -/
def Campaign.step (campaign : Campaign) (operation : Operation) : Campaign :=
  finalState (operation.program.run campaign)

/-- An operation of the object, or its replacement by a rebuilt one. -/
inductive CampaignEvent where
  | operation (operation : Operation)
  | reload (authorization : Authorization) (now : Int)

def CampaignEvent.program : CampaignEvent → CampaignM Unit
  | .operation op => op.program
  | .reload authorization now => Campaign.reload authorization now

def Campaign.stepEvent (campaign : Campaign) (event : CampaignEvent) : Campaign :=
  finalState (event.program.run campaign)

end JlensEvolve.Kernel
