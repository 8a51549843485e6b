import JlensEvolve.Evidence.EvidenceGraph

/-!
`EvidenceGradeMachine.aggregate`. The trusted observer is a parameter: two
Boolean answers, one about an envelope alone and one about its receipt lineage
and the artifact reader it is given. A verifier that raises makes `aggregate`
raise, and a raise returns no grade, so only the two answers matter here.
-/

namespace JlensEvolve.Evidence

open Library Contracts

structure CandidateEvidenceState where
  candidateId : String
  grade : ClaimGrade
  classification : String
  claimIds : List String
  taskRevisionIds : List String
  taskCount : Nat
  projectCount : Nat
  gainCount : Nat
  neutralCount : Nat
  regressionCount : Nat
  infraFailureCount : Nat
  mechanismId : Option String
  predictionConsistentTaskCount : Nat
  predictionEvidenceIds : List String
  e3Eligible : Bool
  rationale : String

structure TrustedObserverVerifier where
  verifyEvidence : EvidenceEnvelope → Bool
  verifyReceiptLineage :
    EvidenceEnvelope → Receipt → Receipt → Receipt → (String → Checked (List Nat)) → Bool

structure EvidenceGradeMachine where
  graph : EvidenceGraph
  trustedObserverVerifier : Option TrustedObserverVerifier
  receiptStore : Option ReceiptStore

/-- `str(payload.get("task_revision_id", ""))`. -/
def taskText (envelope : EvidenceEnvelope) : String :=
  match Json.field? envelope.payload "task_revision_id" with
  | some value => pyStr value
  | none => ""

def claimEvidence (evidence : List EvidenceEnvelope) (claim : Claim) : List EvidenceEnvelope :=
  claim.evidenceIds.filterMap (fun id => evidence.find? (fun row => row.evidenceId = id))

def boundTasks (evidence : List EvidenceEnvelope) (claim : Claim) : List String :=
  (((claimEvidence evidence claim).map taskText).filter (· ≠ "")).dedup

def boundTask (evidence : List EvidenceEnvelope) (claim : Claim) : Checked String :=
  match boundTasks evidence claim with
  | [task] => .ok task
  | _ => .error (.integrity
      ("claim " ++ claim.claimId ++ " must bind exactly one task revision"))

/-- The loop that fills `claims_by_task`. -/
def claimsByTask (evidence : List EvidenceEnvelope) :
    List Claim → Dict String Claim → Checked (Dict String Claim)
  | [], byTask => .ok byTask
  | claim :: rest, byTask =>
    match boundTask evidence claim with
    | .error e => .error e
    | .ok task =>
      match byTask.get? task with
      | some prior =>
        if prior.claimId ≠ claim.claimId then
          .error (.integrity s!"multiple latest claims bind task revision {task}")
        else claimsByTask evidence rest (byTask.set task claim)
      | none => claimsByTask evidence rest (byTask.set task claim)

def jsonSha256? : Json → Option String
  | .str value => if isSha256 value then some value else none
  | _ => none

def modelSubject (envelope : EvidenceEnvelope) : Option (String × String) :=
  match payloadGet envelope.payload "model_receipt_id",
      jsonSha256? (payloadGet envelope.payload "model_artifact_sha256") with
  | .str receiptId, some artifact => if isText receiptId then some (receiptId, artifact) else none
  | _, _ => none

/-- The native rows a claim binds for a task, with a literal prediction. -/
def nativeRows (evidence : List EvidenceEnvelope) (task : String) (claimEvidenceIds : List String) :
    List EvidenceEnvelope :=
  evidence.filter (fun row =>
    row.evidenceId ∈ claimEvidenceIds ∧ row.observerId = "native-v1" ∧
      payloadGet row.payload "task_revision_id" = .str task ∧
      (jsonSha256? (payloadGet row.payload "prediction_sha256")).isSome)

def externalRows (evidence : List EvidenceEnvelope) (task mechanism : String)
    (claimEvidenceIds : List String) (plan : String) : List EvidenceEnvelope :=
  evidence.filter (fun row =>
    row.evidenceId ∈ claimEvidenceIds ∧ row.observerId = "external-trace-v1" ∧
      payloadGet row.payload "task_revision_id" = .str task ∧
      payloadGet row.payload "plan_id" = .str plan ∧
      payloadGet row.payload "mechanism_id" = .str mechanism)

def internalRows (verifier : TrustedObserverVerifier) (evidence : List EvidenceEnvelope)
    (task mechanism plan : String) : List EvidenceEnvelope :=
  evidence.filter (fun row =>
    row.observerId = "trusted-jlens-v1" ∧
      payloadGet row.payload "task_revision_id" = .str task ∧
      payloadGet row.payload "plan_id" = .str plan ∧
      payloadGet row.payload "mechanism_id" = .str mechanism ∧
      verifier.verifyEvidence row = true)

def receiptById (receipts : List Receipt) (id : String) : Option Receipt :=
  receipts.find? (fun receipt => receipt.receiptId = id)

/-- The receipts behind a trusted row: the one it was projected from, the
prediction it answers and the model output it observed. -/
structure ObservedLineage where
  observation : Receipt
  prediction : Receipt
  model : Receipt

def observedLineage (receipts : List Receipt) (row : EvidenceEnvelope) : Option ObservedLineage :=
  match row.receiptIds, payloadGet row.payload "mechanism_prediction_receipt_id",
      payloadGet row.payload "model_receipt_id" with
  | [observationId], .str predictionId, .str modelId => do
      let observation ← receiptById receipts observationId
      let prediction ← receiptById receipts predictionId
      let model ← receiptById receipts modelId
      return ⟨observation, prediction, model⟩
  | _, _, _ => none

/-- The three rows of one plan and what they pin down. -/
structure PlanEvidence where
  native : EvidenceEnvelope
  external : EvidenceEnvelope
  internal : EvidenceEnvelope
  lineage : ObservedLineage
  candidateRevisionId : String
  expectedEffectSha256 : String

/-- The fields of a trusted row that have to be literal digests or a non-empty
list, and its expected effect. -/
def internalEffect (row : EvidenceEnvelope) : Option String := do
  let effect ← jsonSha256? (payloadGet row.payload "expected_internal_effect_sha256")
  let _ ← jsonSha256? (payloadGet row.payload "observed_internal_effect_sha256")
  let _ ← jsonSha256? (payloadGet row.payload "raw_trace_sha256")
  match payloadGet row.payload "locations" with
  | .arr (_ :: _) => return effect
  | _ => none

/-- The three rows of a plan when each projection has exactly one. -/
def uniqueRows (verifier : TrustedObserverVerifier) (evidence : List EvidenceEnvelope)
    (task mechanism : String) (claimEvidenceIds : List String) (plan : String) :
    Option (EvidenceEnvelope × EvidenceEnvelope × EvidenceEnvelope) :=
  match (nativeRows evidence task claimEvidenceIds).filter
        (fun row => payloadGet row.payload "plan_id" = .str plan),
      externalRows evidence task mechanism claimEvidenceIds plan,
      internalRows verifier evidence task mechanism plan with
  | [native], [external], [internal] => some (native, external, internal)
  | _, _, _ => none

/-- The three rows speak about one model output and one prediction. -/
def sameSubject (native external internal : EvidenceEnvelope) : Bool :=
  (modelSubject native).isSome ∧ modelSubject external = modelSubject native ∧
    modelSubject internal = modelSubject native ∧
    payloadGet external.payload "prediction_sha256" =
      payloadGet native.payload "prediction_sha256" ∧
    payloadGet internal.payload "prediction_sha256" =
      payloadGet native.payload "prediction_sha256"

/-- One turn of the loop of `_task_prediction_evidence` over the plans, without
the comparison with the plan before. -/
def planEvidence (verifier : TrustedObserverVerifier) (receipts : List Receipt)
    (artifactReader : String → Checked (List Nat)) (evidence : List EvidenceEnvelope)
    (task mechanism : String) (claimEvidenceIds : List String) (plan : String) :
    Option PlanEvidence := do
  let (native, external, internal) ←
    uniqueRows verifier evidence task mechanism claimEvidenceIds plan
  guard (sameSubject native external internal = true)
  let lineage ← observedLineage receipts internal
  guard (verifier.verifyReceiptLineage internal lineage.observation lineage.prediction
    lineage.model artifactReader = true)
  let candidate ← (Json.field? lineage.prediction.payload "candidate_revision_id").map pyStr
  guard (payloadGet native.payload "arm" = .str "taught" →
    payloadGet external.payload "candidate_revision_id" = .str candidate)
  let effect ← internalEffect internal
  guard (payloadGet internal.payload "effect_consistent" =
    .bool (payloadGet native.payload "arm" = .str "taught"))
  return ⟨native, external, internal, lineage, candidate, effect⟩

def PlanEvidence.ids (plan : PlanEvidence) : List String :=
  [plan.native.evidenceId, plan.external.evidenceId, plan.internal.evidenceId]

/-- The plans of the native rows, when all of them name one. -/
def planIds (rows : List EvidenceEnvelope) : Option (List String) :=
  (rows.mapM fun (row : EvidenceEnvelope) =>
    match payloadGet row.payload "plan_id" with
    | .str plan => if plan = "" then none else some plan
    | _ => none).map sortedSet

/-- `_task_prediction_evidence`, with `none` for the empty result. There are
exactly two plans, so the loop is the two turns and their comparison. -/
def taskPredictionEvidence (machine : EvidenceGradeMachine) (receipts : List Receipt)
    (evidence : List EvidenceEnvelope) (task : String) (mechanismId : Option String)
    (claimEvidenceIds : List String) : Option (List String) := do
  let mechanism ← mechanismId
  guard (isText mechanism = true)
  let verifier ← machine.trustedObserverVerifier
  let store ← machine.receiptStore
  let rows := nativeRows evidence task claimEvidenceIds
  match ← planIds rows with
  | [firstPlan, secondPlan] => do
      let arms := rows.map (fun row => payloadGet row.payload "arm")
      guard (.str "baseline" ∈ arms ∧ .str "taught" ∈ arms ∧
        ∀ arm ∈ arms, arm = .str "baseline" ∨ arm = .str "taught")
      let first ← planEvidence verifier receipts store.readArtifact evidence task mechanism
        claimEvidenceIds firstPlan
      let second ← planEvidence verifier receipts store.readArtifact evidence task mechanism
        claimEvidenceIds secondPlan
      guard (first.candidateRevisionId = second.candidateRevisionId ∧
        first.expectedEffectSha256 = second.expectedEffectSha256)
      return first.ids ++ second.ids
  | _ => none

def countOf (claims : List Claim) (classification : ClaimClassification) : Nat :=
  claims.countP (fun claim => claim.classification = classification)

def aggregateClassification (claims : List Claim) : String :=
  if countOf claims .infraFailure ≠ 0 then ClaimClassification.infraFailure.text
  else if countOf claims .regression ≠ 0 then ClaimClassification.regression.text
  else if countOf claims .gain ≠ 0 then ClaimClassification.gain.text
  else ClaimClassification.neutral.text

def noClaimsState (candidateId : String) (mechanismId : Option String) :
    CandidateEvidenceState :=
  { candidateId := candidateId
    grade := .E0
    classification := "insufficient_evidence"
    claimIds := []
    taskRevisionIds := []
    taskCount := 0
    projectCount := 0
    gainCount := 0
    neutralCount := 0
    regressionCount := 0
    infraFailureCount := 0
    mechanismId := mechanismId
    predictionConsistentTaskCount := 0
    predictionEvidenceIds := []
    e3Eligible := false
    rationale := "no matched native claims" }

/-- What the gates of the aggregate are computed from. -/
structure Aggregation where
  byTask : Dict String Claim
  projects : List String
  predictionEvidence : List (List String)
  counterfactualLineageRebuilt : Bool

def Aggregation.claims (row : Aggregation) : List Claim := row.byTask.values

def Aggregation.taskCount (row : Aggregation) : Nat := row.byTask.size

def Aggregation.predictionConsistent (row : Aggregation) : Nat :=
  row.predictionEvidence.countP (fun ids => !ids.isEmpty)

def Aggregation.validNativeClaims (row : Aggregation) : Bool :=
  row.claims.all (fun claim => 2 ≤ claim.grade.rank)

def Aggregation.e3Eligible (row : Aggregation) (mechanismId : Option String) : Bool :=
  mechanismId.any isText && decide (3 ≤ row.taskCount) && decide (2 ≤ row.projects.length) &&
    decide (2 ≤ countOf row.claims .gain) && decide (countOf row.claims .regression = 0) &&
    decide (countOf row.claims .infraFailure = 0) && row.validNativeClaims &&
    row.counterfactualLineageRebuilt && decide (row.predictionConsistent = row.taskCount)

def Aggregation.grade (row : Aggregation) (mechanismId : Option String) : ClaimGrade :=
  if countOf row.claims .infraFailure ≠ 0 then .E1
  else if row.e3Eligible mechanismId then .E3
  else if row.validNativeClaims then .E2
  else .E1

def pyBool (value : Bool) : String := if value then "True" else "False"

def Aggregation.rationale (row : Aggregation) : String :=
  let taskCount := row.taskCount
  let projectCount := row.projects.length
  let gain := countOf row.claims .gain
  let neutral := countOf row.claims .neutral
  let regression := countOf row.claims .regression
  let infra := countOf row.claims .infraFailure
  let rebuilt := pyBool row.counterfactualLineageRebuilt
  let consistent := row.predictionConsistent
  s!"{taskCount} matched native task(s) across {projectCount} project(s); " ++
    s!"gain={gain}, neutral={neutral}, regression={regression}, infra={infra}, " ++
    s!"counterfactual_rebuilt={rebuilt}, prediction_consistent={consistent}/{taskCount}"

def Aggregation.state (row : Aggregation) (candidateId : String) (mechanismId : Option String) :
    CandidateEvidenceState :=
  { candidateId := candidateId
    grade := row.grade mechanismId
    classification := aggregateClassification row.claims
    claimIds := (row.claims.map Claim.claimId).insertionSort (· ≤ ·)
    taskRevisionIds := row.byTask.keys.insertionSort (· ≤ ·)
    taskCount := row.taskCount
    projectCount := row.projects.length
    gainCount := countOf row.claims .gain
    neutralCount := countOf row.claims .neutral
    regressionCount := countOf row.claims .regression
    infraFailureCount := countOf row.claims .infraFailure
    mechanismId := mechanismId
    predictionConsistentTaskCount := row.predictionConsistent
    predictionEvidenceIds := row.predictionEvidence.flatten.insertionSort (· ≤ ·)
    e3Eligible := row.e3Eligible mechanismId
    rationale := row.rationale }

/-- `{task_projects[task_id] for task_id in claims_by_task}`, with the checks
around it. -/
def taskProjectsOf (taskProjects : Dict String String) (tasks : List String) :
    Checked (List String) := do
  let missing := sortedSet (tasks.filter (fun task => (taskProjects.get? task).isNone))
  requireContract (missing = [])
    ("task project identity missing for: " ++ String.intercalate ", " missing)
  let projects := (tasks.filterMap taskProjects.get?).dedup
  requireContract (∀ project ∈ projects, isText project = true)
    "task project identities must be non-empty"
  return projects

def EvidenceGradeMachine.receipts (machine : EvidenceGradeMachine) : Checked (List Receipt) :=
  match machine.receiptStore with
  | some store => store.listReceipts
  | none => .ok []

/-- The fresh rebuild, attempted only with a store and native claims alone;
a failing rebuild raises out of the aggregate. -/
def EvidenceGradeMachine.rebuildLineage (machine : EvidenceGradeMachine)
    (validNativeClaims : Bool) : Checked Bool :=
  match machine.receiptStore with
  | some store =>
    if validNativeClaims then (machine.graph.rebuild store false).map (fun _ => true)
    else .ok false
  | none => .ok false

/-- Everything `aggregate` computes before the gates, for a candidate that has
claims. -/
def EvidenceGradeMachine.aggregation (machine : EvidenceGradeMachine) (claims : List Claim)
    (taskProjects : Dict String String) (mechanismId : Option String) : Checked Aggregation := do
  let evidence ← machine.graph.listEvidence
  let byTask ← claimsByTask evidence claims Dict.empty
  let projects ← taskProjectsOf taskProjects byTask.keys
  let receipts ← machine.receipts
  let predictionEvidence := byTask.entries.map (fun entry =>
    (taskPredictionEvidence machine receipts evidence entry.1 mechanismId
      entry.2.evidenceIds).getD [])
  let rebuilt ← machine.rebuildLineage (byTask.values.all (fun claim => 2 ≤ claim.grade.rank))
  return ⟨byTask, projects, predictionEvidence, rebuilt⟩

def EvidenceGradeMachine.aggregate (machine : EvidenceGradeMachine) (candidateId : String)
    (taskProjects : Dict String String) (mechanismId : Option String) :
    Checked CandidateEvidenceState := do
  requireContract (isText candidateId = true) "candidate_id must be non-empty"
  let latest ← machine.graph.latestClaims
  let claims := latest.filter (fun claim => claim.candidateId = candidateId)
  if claims = [] then return noClaimsState candidateId mechanismId
  let row ← machine.aggregation claims taskProjects mechanismId
  return row.state candidateId mechanismId

end JlensEvolve.Evidence
