import JlensEvolve.Evolution.EvolutionPlan

/-!
`EvolutionController` of `evolution_controller.py`. A call leaves a state in
memory, also when it raises, and either persists that state or not; a call that
returns without persisting has not changed it.
-/

namespace JlensEvolve.Evolution

open Library

inductive TaskPhase where
  | unopened
  | claimed
  | retired
deriving DecidableEq, Repr

def TaskPhase.name : TaskPhase → String
  | unopened => "unopened"
  | claimed => "claimed"
  | retired => "retired"

structure TaskState where
  state : TaskPhase
  claim : Option String
deriving DecidableEq

inductive ClaimStatus where
  | claimed
  | complete
deriving DecidableEq, Repr

def ClaimStatus.name : ClaimStatus → String
  | claimed => "claimed"
  | complete => "complete"

structure StageClaim where
  generation : Int
  stage : String
  taskUids : List String
  armSha256s : List String
  matchedArmCount : Nat
  status : ClaimStatus
deriving DecidableEq

inductive ReservationStatus where
  | reserved
  | completed
  | abortedPreDispatch
  | abortedWithoutServiceDispatch
  | abortedInfrastructureInvalid
deriving DecidableEq, Repr

def ReservationStatus.name : ReservationStatus → String
  | reserved => "reserved"
  | completed => "completed"
  | abortedPreDispatch => "aborted_pre_dispatch"
  | abortedWithoutServiceDispatch => "aborted_without_service_dispatch"
  | abortedInfrastructureInvalid => "aborted_infrastructure_invalid"

structure AuditedAbort where
  evidenceSha256 : String
  reasonCode : String
  reservationCount : Nat
deriving DecidableEq

structure QuarantineEntry where
  generation : Int
  stage : String
  taskUid : String
  armSha256 : String
  evidenceSha256 : String
  reasonCode : String
  incidentSha256 : String
deriving DecidableEq

/-- The lists that only some reservations have are absent where they are empty. -/
structure CallReservation where
  generation : Int
  stage : String
  taskUid : String
  armSha256 : String
  status : ReservationStatus
  evidenceSha256 : Option String
  reservationCount : Nat
  preDispatchAborts : List AuditedAbort
  infrastructureAborts : List AuditedAbort
  nonDispatchAborts : List AuditedAbort
  completedEvidenceQuarantines : List QuarantineEntry
deriving DecidableEq

namespace CallReservation

variable (reservation : CallReservation)

/-- What the first `reserve_arm_call` for an arm writes. -/
def first (generation : Int) (stage taskUid armSha256 : String) : CallReservation :=
  { generation, stage, taskUid, armSha256, status := .reserved, evidenceSha256 := none
    reservationCount := 1, preDispatchAborts := [], infrastructureAborts := []
    nonDispatchAborts := [], completedEvidenceQuarantines := [] }

/-- Reserved once more after an abort. -/
def again : CallReservation :=
  { reservation with
    status := .reserved, evidenceSha256 := none
    reservationCount := reservation.reservationCount + 1 }

def completedWith (evidenceSha256 : String) : CallReservation :=
  { reservation with status := .completed, evidenceSha256 := some evidenceSha256 }

def quarantinedWith (entry : QuarantineEntry) : CallReservation :=
  { reservation with
    status := .reserved, evidenceSha256 := none
    completedEvidenceQuarantines := reservation.completedEvidenceQuarantines ++ [entry] }

end CallReservation

structure ArmEvidence where
  generation : Int
  stage : String
  taskUid : String
  armSha256 : String
  evidenceSha256 : String
  nativeEvaluatorEpoch : String
  realCodexCalls : Int
deriving DecidableEq

structure AuxiliaryAbort where
  evidenceSha256 : String
  reasonCode : String
  /-- Given by a reset only. -/
  previousEvidenceSha256 : Option (Option String)
  reservationCount : Nat
deriving DecidableEq

structure AuxiliaryReservation where
  reservationId : String
  kind : String
  status : ReservationStatus
  evidenceSha256 : Option String
  aborts : List AuxiliaryAbort
  reservationCount : Nat
deriving DecidableEq

namespace AuxiliaryReservation

variable (reservation : AuxiliaryReservation)

def first (reservationId kind : String) : AuxiliaryReservation :=
  { reservationId, kind, status := .reserved, evidenceSha256 := none, aborts := []
    reservationCount := 1 }

def again : AuxiliaryReservation :=
  { reservation with
    status := .reserved, evidenceSha256 := none
    reservationCount := reservation.reservationCount + 1 }

def abortedWith (abort : AuxiliaryAbort) : AuxiliaryReservation :=
  { reservation with
    aborts := reservation.aborts ++ [abort], status := .abortedWithoutServiceDispatch }

def completedWith (evidenceSha256 : String) : AuxiliaryReservation :=
  { reservation with status := .completed, evidenceSha256 := some evidenceSha256 }

end AuxiliaryReservation

structure ControllerUsage where
  realCodexCalls : Int
  agentTaskCalls : Int
  auxiliaryCalls : Int
  cloudInstanceIds : List String
  elapsedHours : ℚ
  cloudCostCny : ℚ
deriving DecidableEq

structure ParentRecord where
  generation : Int
  previousParentSha256 : String
  searchParentSha256 : String
  decisionSha256 : String
  advance : Bool
deriving DecidableEq

structure ControllerState where
  plan : EvolutionPlan
  authorization : EvolutionAuthorization
  originalAgentProgramSha256 : String
  seedParentAgentProgramSha256 : String
  searchParentSha256 : String
  nativeEvaluatorEpoch : String
  taskStates : Dict String TaskState
  claims : Dict String StageClaim
  armEvidence : Dict String ArmEvidence
  callReservations : Dict String CallReservation
  auxiliaryCallReservations : Dict String AuxiliaryReservation
  usage : ControllerUsage
  parentHistory : List ParentRecord
  externalActions : Nat
  /-- Absent until the first call of `quarantine_completed_arm_evidence` that
  gets as far as to look at it. -/
  quarantinedArmEvidence : Option (List QuarantineEntry)

/-- What a call leaves in memory, whether it persisted that, and its answer. -/
structure ControllerOutcome (α : Type) where
  state : ControllerState
  persisted : Bool
  answer : Except ControllerError α

namespace ControllerOutcome

variable {α β : Type}

def refused (state : ControllerState) (error : ControllerError) : ControllerOutcome α :=
  ⟨state, false, .error error⟩

def unchanged (state : ControllerState) (answer : α) : ControllerOutcome α :=
  ⟨state, false, .ok answer⟩

/-- The end of a call that goes through `_persist`. -/
def persisted' (state : ControllerState) (answer : α) : ControllerOutcome α :=
  ⟨state, true, .ok answer⟩

/-- Checks that change nothing, then the rest of the call. -/
def checked (state : ControllerState) (checks : Except ControllerError β)
    (rest : β → ControllerOutcome α) : ControllerOutcome α :=
  match checks with
  | .ok b => rest b
  | .error error => refused state error

end ControllerOutcome

open ControllerOutcome

@[irreducible] def claimKey (generation : Int) (stage : String) : String :=
  "g" ++ toString generation ++ ":" ++ stage

@[irreducible] def armKey (generation : Int) (stage taskUid armSha256 : String) : String :=
  claimKey generation stage ++ "|" ++ taskUid ++ "|" ++ armSha256

/-- `re.fullmatch(r"[a-z][a-z0-9-]{2,63}", value)`. -/
def isReasonCode (value : String) : Bool :=
  match value.toList with
  | [] => false
  | first :: rest =>
    first.isLower && decide (2 ≤ rest.length) && decide (rest.length ≤ 63) &&
      rest.all (fun c => c.isLower || c.isDigit || c == '-')

/-- `re.fullmatch(r"[a-z0-9][a-z0-9|:._-]{0,255}", value)`. -/
def isReservationId (value : String) : Bool :=
  match value.toList with
  | [] => false
  | first :: rest =>
    (first.isLower || first.isDigit) && decide (rest.length ≤ 255) &&
      rest.all (fun c => c.isLower || c.isDigit || c ∈ ['|', ':', '.', '_', '-'])

/-- A generation and a stage as a pair is printed. -/
def shownStage (generation : Int) (stage : String) : String :=
  "(" ++ toString generation ++ ", '" ++ stage ++ "')"

namespace ControllerState

variable (state : ControllerState)

/-! ### Stages -/

def assertNext (generation : Int) (stage : String) : List (Nat × String) →
    Except ControllerError Unit
  | [] => .error (.contract ("stage is outside frozen plan: " ++ shownStage generation stage))
  | (itemGeneration, itemStage) :: rest =>
    if (itemGeneration : Int) = generation ∧ itemStage = stage then .ok ()
    else
      match state.claims.get? (claimKey itemGeneration itemStage) with
      | some ⟨_, _, _, _, _, .complete⟩ => assertNext generation stage rest
      | _ => .error (.contract ("prior stage is not complete before " ++ toString generation ++
          "/" ++ stage ++ ": " ++ shownStage itemGeneration itemStage))

def assertNextStage (generation : Int) (stage : String) : Except ControllerError Unit :=
  state.assertNext generation stage state.plan.stageSequence

/-- Claiming the tasks one after the other, up to the first that is not unopened. -/
def claimTasks (key : String) : List String → Dict String TaskState →
    Dict String TaskState × Except ControllerError Unit
  | [], tasks => (tasks, .ok ())
  | taskUid :: rest, tasks =>
    match tasks.get? taskUid with
    | some ⟨.unopened, _⟩ => claimTasks key rest (tasks.set taskUid ⟨.claimed, some key⟩)
    | _ => (tasks, .error (.contract "search task cannot be reused"))

def checkCandidates (generation : Int) (stage : String) (candidateSha256s : List String) :
    Except ControllerError StagePlan := do
  let stagePlan ← state.plan.stage generation stage
  require (candidateSha256s.length ≤ stagePlan.candidateCount)
    (.contract (toString generation ++ "/" ++ stage ++ " allows at most " ++
      toString stagePlan.candidateCount ++ " candidates"))
  require candidateSha256s.Nodup (.contract "stage candidate hashes must be unique")
  candidateSha256s.forM (fun candidate => validateSha candidate "stage candidate")
  pure stagePlan

def arms (candidateSha256s : List String) : List String :=
  state.originalAgentProgramSha256 :: state.searchParentSha256 :: candidateSha256s

def checkClaim (generation : Int) (stage : String) (stagePlan : StagePlan)
    (candidateSha256s : List String) : Except ControllerError StageClaim := do
  let arms := state.arms candidateSha256s
  require arms.Nodup (.contract "stage arms must be distinct")
  let expectedCalls := stagePlan.taskUids.length * arms.length
  require (expectedCalls ≤ stagePlan.expectedAgentCalls)
    (.contract "stage arm budget exceeds frozen plan")
  state.assertNextStage generation stage
  pure { generation, stage, taskUids := stagePlan.taskUids, armSha256s := arms
         matchedArmCount := expectedCalls, status := .claimed }

def claimStage (generation : Int) (stage : String) (candidateSha256s : List String) :
    ControllerOutcome StageClaim :=
  checked state (state.checkCandidates generation stage candidateSha256s) fun stagePlan =>
    let key := claimKey generation stage
    match state.claims.get? key with
    | some existing =>
      if existing.generation = generation ∧ existing.stage = stage ∧
          existing.taskUids = stagePlan.taskUids ∧
          existing.armSha256s.drop 2 = candidateSha256s ∧
          existing.matchedArmCount = existing.taskUids.length * existing.armSha256s.length then
        unchanged state existing
      else refused state (.contract "existing stage claim is immutable")
    | none =>
      checked state (state.checkClaim generation stage stagePlan candidateSha256s) fun claim =>
        match claimTasks key stagePlan.taskUids state.taskStates with
        | (taskStates, .error error) => refused { state with taskStates } error
        | (taskStates, .ok ()) =>
          persisted' { state with taskStates, claims := state.claims.set key claim } claim

/-- Retiring the tasks one after the other, up to the first that is not claimed
for the stage. -/
def retireTasks (key : String) : List String → Dict String TaskState →
    Dict String TaskState × Except ControllerError Unit
  | [], tasks => (tasks, .ok ())
  | taskUid :: rest, tasks =>
    if tasks.get? taskUid = some ⟨.claimed, some key⟩ then
      retireTasks key rest (tasks.set taskUid ⟨.retired, some key⟩)
    else (tasks, .error (.contract "task lifecycle changed before retirement"))

/-- The arms of the stage without evidence. -/
def missingArms (key : String) (claim : StageClaim) : List (String × String) :=
  claim.taskUids.flatMap fun taskUid =>
    (claim.armSha256s.filter fun arm =>
      (state.armEvidence.get? (key ++ "|" ++ taskUid ++ "|" ++ arm)).isNone).map fun arm =>
        (taskUid, arm)

def completeStage (generation : Int) (stage : String) : ControllerOutcome StageClaim :=
  let key := claimKey generation stage
  match state.claims.get? key with
  | none => refused state (.contract "stage has not been claimed")
  | some claim =>
    if claim.status = .complete then unchanged state claim
    else
      let missing := state.missingArms key claim
      if missing ≠ [] then
        refused state (.contract ("stage lacks frozen native evidence for " ++
          toString missing.length ++ " matched arms"))
      else
        let claims := state.claims.set key { claim with status := .complete }
        match retireTasks key claim.taskUids state.taskStates with
        | (taskStates, .error error) => refused { state with claims, taskStates } error
        | (taskStates, .ok ()) =>
          persisted' { state with claims, taskStates } { claim with status := .complete }

/-! ### Arm calls -/

def checkCallBudget (increment : Int) : Except ControllerError Unit :=
  require (state.usage.realCodexCalls + increment ≤ state.authorization.maximumRealCodexCalls)
    (.budget ("real Codex calls would exceed " ++
      toString state.authorization.maximumRealCodexCalls ++ " hard cap"))

/-- The usage after so many more real calls, agent task calls and auxiliary calls. -/
def charged (real agent auxiliary : Int) : ControllerUsage :=
  { state.usage with
    realCodexCalls := state.usage.realCodexCalls + real
    agentTaskCalls := state.usage.agentTaskCalls + agent
    auxiliaryCalls := state.usage.auxiliaryCalls + auxiliary }

def withReservation (key : String) (value : CallReservation) : ControllerState :=
  { state with callReservations := state.callReservations.set key value }

/-- The stage has to be claimed and the arm to be one of its claim. -/
def checkArm (generation : Int) (stage taskUid armSha256 unclaimed outside : String) :
    Except ControllerError Unit :=
  match state.claims.get? (claimKey generation stage) with
  | some claim => do
      require (claim.status = .claimed) (.contract unclaimed)
      require (taskUid ∈ claim.taskUids ∧ armSha256 ∈ claim.armSha256s) (.contract outside)
  | none => .error (.contract unclaimed)

def isAborted : ReservationStatus → Bool
  | .abortedPreDispatch => true
  | .abortedWithoutServiceDispatch => true
  | .abortedInfrastructureInvalid => true
  | _ => false

def checkReserve (generation : Int) (stage taskUid armSha256 : String) :
    Except ControllerError Unit := do
  validateSha armSha256 "arm"
  state.checkArm generation stage taskUid armSha256 "stage must be claimed before call reservation"
    "call reservation is outside frozen stage claim"

/-- The reservation and `dispatch_allowed`. -/
def reserveArmCall (generation : Int) (stage taskUid armSha256 : String) :
    ControllerOutcome (CallReservation × Bool) :=
  checked state (state.checkReserve generation stage taskUid armSha256) fun _ =>
    let key := armKey generation stage taskUid armSha256
    match state.callReservations.get? key with
    | some existing =>
      if isAborted existing.status then
        checked state (state.checkCallBudget 1) fun _ =>
          persisted' { state.withReservation key existing.again with
            usage := state.charged 1 0 0 } (existing.again, true)
      else unchanged state (existing, false)
    | none =>
      checked state (state.checkCallBudget 1) fun _ =>
        let value := CallReservation.first generation stage taskUid armSha256
        persisted' { state.withReservation key value with usage := state.charged 1 0 0 }
          (value, true)

/-- What the three audited aborts of a reserved arm call differ in. -/
structure AbortKind where
  status : ReservationStatus
  aborts : CallReservation → List AuditedAbort
  abortedWith : CallReservation → AuditedAbort → CallReservation
  evidenceName : String
  reasonError : String
  immutableError : String
  reservedError : String
  completedError : String

def checkAbort (kind : AbortKind) (generation : Int)
    (stage taskUid armSha256 reasonCode evidenceSha256 : String) :
    Except ControllerError CallReservation := do
  validateSha armSha256 "arm"
  validateSha evidenceSha256 kind.evidenceName
  require (isReasonCode reasonCode = true) (.contract kind.reasonError)
  match state.callReservations.get? (armKey generation stage taskUid armSha256) with
  | none => .error (.contract "arm call was not reserved")
  | some reservation => .ok reservation

def abortArmCall (kind : AbortKind) (generation : Int)
    (stage taskUid armSha256 reasonCode evidenceSha256 : String) :
    ControllerOutcome CallReservation :=
  checked state (state.checkAbort kind generation stage taskUid armSha256 reasonCode
      evidenceSha256) fun reservation =>
    let abort : AuditedAbort := ⟨evidenceSha256, reasonCode, reservation.reservationCount⟩
    if reservation.status = kind.status then
      if (kind.aborts reservation).getLast? = some abort then unchanged state reservation
      else refused state (.contract kind.immutableError)
    else if reservation.status ≠ .reserved then refused state (.contract kind.reservedError)
    else if reservation.evidenceSha256 ≠ none then refused state (.contract kind.completedError)
    else
      let value := kind.abortedWith reservation abort
      persisted' (state.withReservation (armKey generation stage taskUid armSha256) value) value

def preDispatch : AbortKind where
  status := .abortedPreDispatch
  aborts := CallReservation.preDispatchAborts
  abortedWith := fun reservation abort =>
    { reservation with
      preDispatchAborts := reservation.preDispatchAborts ++ [abort], status := .abortedPreDispatch }
  evidenceName := "pre-dispatch evidence"
  reasonError := "pre-dispatch reason code is invalid"
  immutableError := "pre-dispatch abort evidence is immutable"
  reservedError := "only a reserved arm call can abort before dispatch"
  completedError := "completed evidence cannot be marked as pre-dispatch"

def infrastructure : AbortKind where
  status := .abortedInfrastructureInvalid
  aborts := CallReservation.infrastructureAborts
  abortedWith := fun reservation abort =>
    { reservation with
      infrastructureAborts := reservation.infrastructureAborts ++ [abort], status := .abortedInfrastructureInvalid }
  evidenceName := "infrastructure evidence"
  reasonError := "infrastructure reason code is invalid"
  immutableError := "infrastructure abort evidence is immutable"
  reservedError := "only a reserved arm call can be infrastructure-invalidated"
  completedError := "completed evidence cannot be infrastructure-invalidated"

def noService : AbortKind where
  status := .abortedWithoutServiceDispatch
  aborts := CallReservation.nonDispatchAborts
  abortedWith := fun reservation abort =>
    { reservation with
      nonDispatchAborts := reservation.nonDispatchAborts ++ [abort], status := .abortedWithoutServiceDispatch }
  evidenceName := "no-service evidence"
  reasonError := "no-service reason code is invalid"
  immutableError := "no-service abort evidence is immutable"
  reservedError := "only a reserved arm call can abort without service dispatch"
  completedError := "completed evidence cannot be marked as no-service dispatch"

def abortArmCallPreDispatch := state.abortArmCall preDispatch

def invalidateArmCallInfrastructure := state.abortArmCall infrastructure

def abortArmCallWithoutServiceDispatch := state.abortArmCall noService

/-! ### Evidence -/

def checkEvidence (generation : Int) (stage taskUid armSha256 evidenceSha256 : String)
    (realCodexCalls : Int) : Except ControllerError Unit := do
  validateSha armSha256 "arm"
  validateSha evidenceSha256 "native evidence"
  require (realCodexCalls = 0 ∨ realCodexCalls = 1)
    (.budget "one arm may consume zero or one real Codex call")
  state.checkArm generation stage taskUid armSha256 "stage must be claimed before recording evidence"
    "arm evidence is outside frozen stage claim"

def checkReserved (reservation : CallReservation) (evidenceSha256 : String)
    (realCodexCalls : Int) : Except ControllerError Unit := do
  require (realCodexCalls = 1)
    (.budget "reserved real arm evidence must consume exactly one call")
  require (reservation.status = .reserved ∨ reservation.status = .completed)
    (.contract "real arm call reservation is invalid")
  require (reservation.status = .completed → reservation.evidenceSha256 = some evidenceSha256)
    (.contract "completed call evidence is immutable")

def recordArmEvidence (generation : Int) (stage taskUid armSha256 evidenceSha256 : String)
    (realCodexCalls : Int) : ControllerOutcome ArmEvidence :=
  checked state (state.checkEvidence generation stage taskUid armSha256 evidenceSha256
      realCodexCalls) fun _ =>
    let key := armKey generation stage taskUid armSha256
    let value : ArmEvidence :=
      { generation, stage, taskUid, armSha256, evidenceSha256
        nativeEvaluatorEpoch := state.nativeEvaluatorEpoch, realCodexCalls }
    match state.armEvidence.get? key with
    | some existing =>
      if existing = value then unchanged state existing
      else refused state (.contract "frozen native evidence is immutable")
    | none =>
      match state.callReservations.get? key with
      | some reservation =>
        checked state (checkReserved reservation evidenceSha256 realCodexCalls) fun _ =>
          persisted' { state.withReservation key (reservation.completedWith evidenceSha256) with
            armEvidence := state.armEvidence.set key value
            usage := state.charged 0 1 0 } value
      | none =>
        checked state (state.checkCallBudget realCodexCalls) fun _ =>
          persisted' { state with
            armEvidence := state.armEvidence.set key value
            usage := state.charged realCodexCalls 1 0 } value

def checkQuarantine (generation : Int)
    (stage armSha256 evidenceSha256 reasonCode incidentSha256 : String) :
    Except ControllerError Unit := do
  validateSha armSha256 "arm"
  validateSha evidenceSha256 "quarantined evidence"
  validateSha incidentSha256 "quarantine incident"
  require (isReasonCode reasonCode = true) (.contract "quarantine reason code is invalid")
  match state.claims.get? (claimKey generation stage) with
  | some claim =>
    require (claim.status = .claimed)
      (.contract "only an incomplete claimed stage may quarantine evidence")
  | none => .error (.contract "only an incomplete claimed stage may quarantine evidence")

/-- The evidence is active and its reservation completed with it. -/
def Quarantinable (key evidenceSha256 : String) (reservation : CallReservation) : Prop :=
  (∃ active ∈ state.armEvidence.get? key, active.evidenceSha256 = evidenceSha256) ∧
    reservation.status = .completed ∧ reservation.evidenceSha256 = some evidenceSha256

instance (key evidenceSha256 : String) (reservation : CallReservation) :
    Decidable (state.Quarantinable key evidenceSha256 reservation) :=
  match h : state.armEvidence.get? key with
  | none => isFalse (by simp [Quarantinable, h])
  | some active =>
    decidable_of_iff (active.evidenceSha256 = evidenceSha256 ∧
      reservation.status = .completed ∧ reservation.evidenceSha256 = some evidenceSha256)
      (by simp [Quarantinable, h])

def quarantineCompletedArmEvidence (generation : Int)
    (stage taskUid armSha256 evidenceSha256 reasonCode incidentSha256 : String) :
    ControllerOutcome QuarantineEntry :=
  checked state (state.checkQuarantine generation stage armSha256 evidenceSha256 reasonCode
      incidentSha256) fun _ =>
    let key := armKey generation stage taskUid armSha256
    let entry : QuarantineEntry :=
      { generation, stage, taskUid, armSha256, evidenceSha256, reasonCode, incidentSha256 }
    let quarantine := state.quarantinedArmEvidence.getD []
    let state := { state with quarantinedArmEvidence := some quarantine }
    if entry ∈ quarantine then unchanged state entry
    else
      match state.callReservations.get? key with
      | none =>
        refused state (.contract "only matching completed arm evidence may be quarantined")
      | some reservation =>
        if ¬state.Quarantinable key evidenceSha256 reservation then
          refused state (.contract "only matching completed arm evidence may be quarantined")
        else
          let removed := { state.withReservation key (reservation.quarantinedWith entry) with
            armEvidence := state.armEvidence.erase key
            quarantinedArmEvidence := some (quarantine ++ [entry]) }
          if state.usage.agentTaskCalls < 1 then
            refused removed (.contract "agent task usage cannot be quarantined")
          else persisted' { removed with usage := state.charged 0 (-1) 0 } entry

/-! ### Auxiliary calls -/

def recordAuxiliaryCalls (count : Int) (realCodexCalls : Option Int) : ControllerOutcome Unit :=
  let consumed := realCodexCalls.getD count
  let checks : Except ControllerError Unit := do
    require (0 ≤ count) (.budget "auxiliary call count must be non-negative")
    require (0 ≤ consumed ∧ consumed ≤ count)
      (.budget "real auxiliary Codex calls must be between zero and executions")
    state.checkCallBudget consumed
  checked state checks fun _ => persisted' { state with usage := state.charged consumed 0 count } ()

def checkAuxiliary (reservationId kind : String) : Except ControllerError Unit := do
  require (isReservationId reservationId = true) (.contract "invalid auxiliary reservation ID")
  require (kind = "mutation_proposer" ∨ kind = "reviewer")
    (.contract "invalid auxiliary call kind")

def withAuxiliary (reservationId : String) (value : AuxiliaryReservation) : ControllerState :=
  { state with
    auxiliaryCallReservations := state.auxiliaryCallReservations.set reservationId value }

def reserveAuxiliaryCall (reservationId kind : String) :
    ControllerOutcome (AuxiliaryReservation × Bool) :=
  checked state (checkAuxiliary reservationId kind) fun _ =>
    match state.auxiliaryCallReservations.get? reservationId with
    | some existing =>
      if existing.kind ≠ kind then
        refused state (.contract "auxiliary call reservation kind is immutable")
      else if existing.status = .abortedWithoutServiceDispatch then
        checked state (state.checkCallBudget 1) fun _ =>
          persisted' { state.withAuxiliary reservationId existing.again with
            usage := state.charged 1 0 1 } (existing.again, true)
      else unchanged state (existing, false)
    | none =>
      checked state (state.checkCallBudget 1) fun _ =>
        let value := AuxiliaryReservation.first reservationId kind
        persisted' { state.withAuxiliary reservationId value with
          usage := state.charged 1 0 1 } (value, true)

def auxiliaryReservation (reservationId : String) : Except ControllerError AuxiliaryReservation :=
  match state.auxiliaryCallReservations.get? reservationId with
  | none => .error (.contract "auxiliary call was not reserved")
  | some reservation => .ok reservation

def abortAuxiliaryCall (reservationId reasonCode evidenceSha256 : String) :
    ControllerOutcome AuxiliaryReservation :=
  let checks : Except ControllerError AuxiliaryReservation := do
    validateSha evidenceSha256 "auxiliary abort evidence"
    require (isReasonCode reasonCode = true) (.contract "auxiliary abort reason code is invalid")
    state.auxiliaryReservation reservationId
  checked state checks fun reservation =>
    let abort : AuxiliaryAbort := ⟨evidenceSha256, reasonCode, none, reservation.reservationCount⟩
    if reservation.status = .abortedWithoutServiceDispatch then
      if reservation.aborts.getLast? = some abort then unchanged state reservation
      else refused state (.contract "auxiliary abort evidence is immutable")
    else if reservation.status ≠ .reserved then
      refused state (.contract "only a reserved auxiliary call can abort without dispatch")
    else if reservation.evidenceSha256 ≠ none then
      refused state (.contract "completed auxiliary evidence cannot be aborted")
    else
      persisted' (state.withAuxiliary reservationId (reservation.abortedWith abort))
        (reservation.abortedWith abort)

def resetAuxiliaryCall (reservationId reasonCode evidenceSha256 : String) :
    ControllerOutcome AuxiliaryReservation :=
  let checks : Except ControllerError AuxiliaryReservation := do
    validateSha evidenceSha256 "auxiliary reconciliation evidence"
    require (isReasonCode reasonCode = true) (.contract "auxiliary reason code is invalid")
    state.auxiliaryReservation reservationId
  checked state checks fun reservation =>
    if reservation.status = .abortedWithoutServiceDispatch then unchanged state reservation
    else if reservation.status ≠ .reserved ∧ reservation.status ≠ .completed then
      refused state (.contract "only reserved or completed auxiliary calls can be reconciled")
    else
      let abort : AuxiliaryAbort := ⟨evidenceSha256, reasonCode, some reservation.evidenceSha256,
        reservation.reservationCount⟩
      persisted' (state.withAuxiliary reservationId (reservation.abortedWith abort))
        (reservation.abortedWith abort)

def completeAuxiliaryCall (reservationId evidenceSha256 : String) :
    ControllerOutcome AuxiliaryReservation :=
  let checks : Except ControllerError AuxiliaryReservation := do
    validateSha evidenceSha256 "auxiliary evidence"
    state.auxiliaryReservation reservationId
  checked state checks fun reservation =>
    if reservation.status = .completed then
      if reservation.evidenceSha256 = some evidenceSha256 then unchanged state reservation
      else refused state (.contract "auxiliary call evidence is immutable")
    else if reservation.status ≠ .reserved then
      refused state (.contract "auxiliary call reservation is invalid")
    else
      persisted' (state.withAuxiliary reservationId (reservation.completedWith evidenceSha256))
        (reservation.completedWith evidenceSha256)

/-! ### Cloud usage and parents -/

def checkCloud (instanceId : String) (elapsedHours cloudCostCny : ℚ) :
    Except ControllerError Unit := do
  let usage := state.usage
  require (Contracts.isText instanceId = true) (.budget "cloud instance ID cannot be empty")
  require (instanceId ∈ usage.cloudInstanceIds ∨
      (usage.cloudInstanceIds.dedup.length : Int) <
        state.authorization.maximumTemporaryCloudInstances)
    (.budget "cloud instance count would exceed one-instance cap")
  require (elapsedHours ≤ state.authorization.maximumElapsedHours)
    (.budget "elapsed time would exceed 24-hour hard cap")
  require (cloudCostCny ≤ state.authorization.maximumCloudCostCny)
    (.budget "cloud cost would exceed CNY 30 hard cap")
  require (usage.elapsedHours ≤ elapsedHours ∧ usage.cloudCostCny ≤ cloudCostCny)
    (.budget "cloud usage counters must be monotonic")

def registerCloudUsage (instanceId : String) (elapsedHours cloudCostCny : ℚ) :
    ControllerOutcome Unit :=
  checked state (state.checkCloud instanceId elapsedHours cloudCostCny) fun _ =>
    let known := instanceId ∈ state.usage.cloudInstanceIds
    persisted' { state with
      usage := { state.usage with
        cloudInstanceIds := if known then state.usage.cloudInstanceIds
          else (state.usage.cloudInstanceIds ++ [instanceId]).insertionSort (· ≤ ·)
        elapsedHours, cloudCostCny }
      externalActions := if known then state.externalActions else state.externalActions + 1 } ()

def recordParentDecision (generation : Int)
    (previousParentSha256 searchParentSha256 decisionSha256 : String) (advance : Bool) :
    ControllerOutcome Unit :=
  let checks : Except ControllerError Unit := do
    validateSha previousParentSha256 "previous parent"
    validateSha searchParentSha256 "search parent"
    validateSha decisionSha256 "parent decision"
  checked state checks fun _ =>
    let value : ParentRecord :=
      { generation, previousParentSha256, searchParentSha256, decisionSha256, advance }
    match state.parentHistory.find? (fun item => item.generation = generation) with
    | some existing =>
      if existing = value then unchanged state ()
      else refused state (.contract "parent decision is immutable")
    | none =>
      if previousParentSha256 ≠ state.searchParentSha256 then
        refused state (.contract "parent decision starts from stale search parent")
      else if advance = false ∧ searchParentSha256 ≠ previousParentSha256 then
        refused state (.contract "retained parent decision cannot change parent")
      else
        persisted' { state with
          parentHistory := state.parentHistory ++ [value], searchParentSha256 } ()

end ControllerState

end JlensEvolve.Evolution
