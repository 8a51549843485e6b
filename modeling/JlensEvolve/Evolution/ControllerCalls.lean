import JlensEvolve.Evolution.Controller
import JlensEvolve.Library.Transition

/-!
The calls on an `EvolutionController`, one after the other, and what each can
do to the records. `initialize` is the one that finds no state file; loading
the state again is what a new `EvolutionController` and `verify` do.
-/

namespace JlensEvolve.Evolution

open Library ControllerOutcome

def noUsage : ControllerUsage where
  realCodexCalls := 0
  agentTaskCalls := 0
  auxiliaryCalls := 0
  cloudInstanceIds := []
  elapsedHours := 0
  cloudCostCny := 0

def unopenedTasks (taskUids : List String) : Dict String TaskState :=
  taskUids.foldl (fun tasks taskUid => tasks.set taskUid ⟨.unopened, none⟩) Dict.empty

/-- The state `initialize` writes. -/
def initialState (plan : EvolutionPlan) (authorization : EvolutionAuthorization)
    (originalAgentProgramSha256 seedParentAgentProgramSha256 nativeEvaluatorEpoch : String) :
    ControllerState where
  plan := plan
  authorization := authorization
  originalAgentProgramSha256 := originalAgentProgramSha256
  seedParentAgentProgramSha256 := seedParentAgentProgramSha256
  searchParentSha256 := seedParentAgentProgramSha256
  nativeEvaluatorEpoch := nativeEvaluatorEpoch
  taskStates := unopenedTasks (plan.generations.flatMap GenerationPlan.taskUids)
  claims := Dict.empty
  armEvidence := Dict.empty
  callReservations := Dict.empty
  auxiliaryCallReservations := Dict.empty
  usage := noUsage
  parentHistory := []
  externalActions := 0
  quarantinedArmEvidence := none

def checkInitialize (plan : EvolutionPlan) (authorization : EvolutionAuthorization)
    (originalAgentProgramSha256 seedParentAgentProgramSha256 nativeEvaluatorEpoch : String) :
    Except ControllerError Unit := do
  authorization.validate plan
  validateSha originalAgentProgramSha256 "original AgentProgram"
  validateSha seedParentAgentProgramSha256 "seed parent AgentProgram"
  require (originalAgentProgramSha256 ≠ seedParentAgentProgramSha256)
    (.contract "original and seed parent must be distinct")
  require (Contracts.isText nativeEvaluatorEpoch = true)
    (.contract "native evaluator epoch cannot be empty")

def initializeController (plan : EvolutionPlan) (authorization : EvolutionAuthorization)
    (originalAgentProgramSha256 seedParentAgentProgramSha256 nativeEvaluatorEpoch : String) :
    Except ControllerError ControllerState := do
  checkInitialize plan authorization originalAgentProgramSha256 seedParentAgentProgramSha256
    nativeEvaluatorEpoch
  -- the constructor at the end loads what was written
  let _ ← EvolutionPlan.fromDict plan
  pure (initialState plan authorization originalAgentProgramSha256 seedParentAgentProgramSha256
    nativeEvaluatorEpoch)

inductive ControllerCall where
  | claimStage (generation : Int) (stage : String) (candidateSha256s : List String)
  | completeStage (generation : Int) (stage : String)
  | reserveArmCall (generation : Int) (stage taskUid armSha256 : String)
  | abortArmCallPreDispatch (generation : Int)
      (stage taskUid armSha256 reasonCode evidenceSha256 : String)
  | invalidateArmCallInfrastructure (generation : Int)
      (stage taskUid armSha256 reasonCode evidenceSha256 : String)
  | abortArmCallWithoutServiceDispatch (generation : Int)
      (stage taskUid armSha256 reasonCode evidenceSha256 : String)
  | recordArmEvidence (generation : Int) (stage taskUid armSha256 evidenceSha256 : String)
      (realCodexCalls : Int)
  | quarantineCompletedArmEvidence (generation : Int)
      (stage taskUid armSha256 evidenceSha256 reasonCode incidentSha256 : String)
  | recordAuxiliaryCalls (count : Int) (realCodexCalls : Option Int)
  | reserveAuxiliaryCall (reservationId kind : String)
  | abortAuxiliaryCall (reservationId reasonCode evidenceSha256 : String)
  | resetAuxiliaryCall (reservationId reasonCode evidenceSha256 : String)
  | completeAuxiliaryCall (reservationId evidenceSha256 : String)
  | registerCloudUsage (instanceId : String) (elapsedHours cloudCostCny : ℚ)
  | recordParentDecision (generation : Int)
      (previousParentSha256 searchParentSha256 decisionSha256 : String) (advance : Bool)

/-- A call whose answer is not looked at. -/
def ControllerOutcome.silent {α : Type} (outcome : ControllerOutcome α) :
    ControllerOutcome Unit :=
  ⟨outcome.state, outcome.persisted, outcome.answer.map fun _ => ()⟩

def ControllerState.perform (state : ControllerState) : ControllerCall → ControllerOutcome Unit
  | .claimStage generation stage candidates => (state.claimStage generation stage candidates).silent
  | .completeStage generation stage => (state.completeStage generation stage).silent
  | .reserveArmCall generation stage taskUid arm =>
    (state.reserveArmCall generation stage taskUid arm).silent
  | .abortArmCallPreDispatch generation stage taskUid arm reasonCode evidence =>
    (state.abortArmCallPreDispatch generation stage taskUid arm reasonCode evidence).silent
  | .invalidateArmCallInfrastructure generation stage taskUid arm reasonCode evidence =>
    (state.invalidateArmCallInfrastructure generation stage taskUid arm reasonCode
      evidence).silent
  | .abortArmCallWithoutServiceDispatch generation stage taskUid arm reasonCode evidence =>
    (state.abortArmCallWithoutServiceDispatch generation stage taskUid arm reasonCode
      evidence).silent
  | .recordArmEvidence generation stage taskUid arm evidence realCodexCalls =>
    (state.recordArmEvidence generation stage taskUid arm evidence realCodexCalls).silent
  | .quarantineCompletedArmEvidence generation stage taskUid arm evidence reasonCode incident =>
    (state.quarantineCompletedArmEvidence generation stage taskUid arm evidence reasonCode
      incident).silent
  | .recordAuxiliaryCalls count realCodexCalls =>
    (state.recordAuxiliaryCalls count realCodexCalls).silent
  | .reserveAuxiliaryCall reservationId kind =>
    (state.reserveAuxiliaryCall reservationId kind).silent
  | .abortAuxiliaryCall reservationId reasonCode evidence =>
    (state.abortAuxiliaryCall reservationId reasonCode evidence).silent
  | .resetAuxiliaryCall reservationId reasonCode evidence =>
    (state.resetAuxiliaryCall reservationId reasonCode evidence).silent
  | .completeAuxiliaryCall reservationId evidence =>
    (state.completeAuxiliaryCall reservationId evidence).silent
  | .registerCloudUsage instanceId elapsedHours cloudCostCny =>
    (state.registerCloudUsage instanceId elapsedHours cloudCostCny).silent
  | .recordParentDecision generation previousParent searchParent decision advance =>
    (state.recordParentDecision generation previousParent searchParent decision advance).silent

/-- The state in memory and the one in STATE.json. -/
structure Controller where
  memory : ControllerState
  stored : ControllerState

inductive ControllerStep where
  | call (call : ControllerCall)
  /-- A new `EvolutionController` on the directory, or `verify`. -/
  | load

namespace Controller

/-- What is left after a call on the state in memory. -/
def written (controller : Controller) (outcome : ControllerOutcome Unit) : Controller :=
  ⟨outcome.state, if outcome.persisted then outcome.state else controller.stored⟩

def after (controller : Controller) : ControllerStep → Controller
  | .call call => controller.written (controller.memory.perform call)
  | .load => ⟨controller.stored, controller.stored⟩

/-- An invariant of the states is one of memory and file. -/
def Both (I : ControllerState → Prop) (controller : Controller) : Prop :=
  I controller.memory ∧ I controller.stored

theorem memory_run_calls (controller : Controller) (calls : List ControllerCall) :
    (run Controller.after controller (calls.map .call)).memory =
      run (fun state call => (state.perform call).state) controller.memory calls := by
  induction calls generalizing controller with
  | nil => rfl
  | cons call calls ih => exact ih (controller.after (.call call))

theorem Both.after {I : ControllerState → Prop} {controller : Controller} {step : ControllerStep}
    (h : controller.Both I)
    (hcall : ∀ made, step = .call made → I (controller.memory.perform made).state) :
    (controller.after step).Both I := by
  cases step with
  | load => exact ⟨h.2, h.2⟩
  | call made =>
    refine ⟨hcall made rfl, ?_⟩
    change I (if _ then _ else _)
    split
    · exact hcall made rfl
    · exact h.2

end Controller

end JlensEvolve.Evolution
