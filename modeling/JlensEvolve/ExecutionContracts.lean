import JlensEvolve.Contracts

/-!
The execution contracts of `contracts.py`: frozen plans and the authorization a
campaign runs under. The constructor checks are fields. Points in time are
microseconds, so an aware `datetime` is an integer here.
-/

namespace JlensEvolve.Contracts

open Library

inductive Cohort where
  | feedback
  | holdout
  | finalSealed
  | burned
deriving DecidableEq, Repr

def Cohort.text : Cohort → String
  | .feedback => "feedback"
  | .holdout => "holdout"
  | .finalSealed => "final-sealed"
  | .burned => "burned"

structure TaskRevision where
  taskId : String
  revisionId : String
  project : String
  cohort : Cohort
  sourceSha256 : String
  evaluatorId : String
  sourceUri : Option String
  texts : isText taskId ∧ isText revisionId ∧ isText project ∧ isText evaluatorId
  source_isSha256 : isSha256 sourceSha256 = true
  cohort_notBurned : cohort ≠ .burned

structure ModelIdentity where
  provider : String
  model : String
  revision : String
  texts : isText provider ∧ isText model ∧ isText revision

structure ExecutionLimits where
  maxTokens : Int
  maxSeconds : Int
  maxCostCny : ℚ
  maxTokens_nonneg : 0 ≤ maxTokens
  maxSeconds_pos : 0 < maxSeconds
  maxCostCny_nonneg : 0 ≤ maxCostCny

structure ExecutionPlan where
  planId : String
  campaignId : String
  strategyId : String
  task : TaskRevision
  candidateRevisionId : String
  arm : String
  model : ModelIdentity
  contextPolicyId : String
  toolPolicyId : String
  observerPolicyIds : List String
  nativeEvaluatorId : String
  limits : ExecutionLimits
  holdoutScope : String
  metadata : List (String × Json)
  texts : ∀ text ∈ [planId, campaignId, strategyId, candidateRevisionId, arm, contextPolicyId,
    toolPolicyId, nativeEvaluatorId, holdoutScope], isText text = true
  observerPolicyIds_ne : observerPolicyIds ≠ []
  feedbackOnly : task.cohort ≠ .feedback → holdoutScope ≠ "feedback-only"

def TaskRevision.toJson (task : TaskRevision) : Json :=
  .obj [("task_id", .str task.taskId), ("revision_id", .str task.revisionId),
    ("project", .str task.project), ("cohort", .str task.cohort.text),
    ("source_sha256", .str task.sourceSha256), ("evaluator_id", .str task.evaluatorId),
    ("source_uri", optionText task.sourceUri)]

def ModelIdentity.toJson (model : ModelIdentity) : Json :=
  .obj [("provider", .str model.provider), ("model", .str model.model),
    ("revision", .str model.revision)]

def ExecutionLimits.toJson (limits : ExecutionLimits) : Json :=
  .obj [("max_tokens", .int limits.maxTokens), ("max_seconds", .int limits.maxSeconds),
    ("max_cost_cny", .float limits.maxCostCny)]

def ExecutionPlan.toJson (plan : ExecutionPlan) : Json :=
  .obj [("plan_id", .str plan.planId), ("campaign_id", .str plan.campaignId),
    ("strategy_id", .str plan.strategyId), ("task", plan.task.toJson),
    ("candidate_revision_id", .str plan.candidateRevisionId), ("arm", .str plan.arm),
    ("model", plan.model.toJson), ("context_policy_id", .str plan.contextPolicyId),
    ("tool_policy_id", .str plan.toolPolicyId),
    ("observer_policy_ids", .arr (plan.observerPolicyIds.map .str)),
    ("native_evaluator_id", .str plan.nativeEvaluatorId), ("limits", plan.limits.toJson),
    ("holdout_scope", .str plan.holdoutScope), ("metadata", .obj plan.metadata)]

def ExecutionPlan.contentSha256 (plan : ExecutionPlan) : String := plan.toJson.contentSha256

/-- A falsifiable internal-effect prediction. The effect is kept as the object
its canonical text decodes to. -/
structure MechanismPrediction where
  predictionId : String
  candidateRevisionId : String
  mechanismId : String
  observerConfigSha256 : String
  expectedInternalEffect : List (String × Json)
  expectedInternalEffectSha256 : String
  texts : isText predictionId ∧ isText candidateRevisionId ∧ isText mechanismId
  observerConfig_isSha256 : isSha256 observerConfigSha256 = true
  effect_ne : expectedInternalEffect ≠ []
  effect_sha256 :
    expectedInternalEffectSha256 = (Json.obj expectedInternalEffect).contentSha256

def MechanismPrediction.asPayload (prediction : MechanismPrediction) : List (String × Json) :=
  [("prediction_id", .str prediction.predictionId),
    ("candidate_revision_id", .str prediction.candidateRevisionId),
    ("mechanism_id", .str prediction.mechanismId),
    ("observer_config_sha256", .str prediction.observerConfigSha256),
    ("expected_internal_effect", .obj prediction.expectedInternalEffect),
    ("expected_internal_effect_sha256", .str prediction.expectedInternalEffectSha256)]

structure Authorization where
  authorizationId : String
  campaignId : String
  allowedCohorts : List Cohort
  maxCostCny : ℚ
  maxModelCalls : Int
  expiresAt : Int
  remoteCallsAllowed : Bool
  texts : isText authorizationId ∧ isText campaignId
  allowedCohorts_ne : allowedCohorts ≠ []
  allowedCohorts_open : .burned ∉ allowedCohorts ∧ .finalSealed ∉ allowedCohorts
  maxCostCny_nonneg : 0 ≤ maxCostCny
  maxModelCalls_nonneg : 0 ≤ maxModelCalls

/-- The message of the contract violation that `assert_allows` raises, if it
raises one. -/
def Authorization.refusal? (authorization : Authorization) (cohort : Cohort)
    (reservedCostCny : ℚ) (reservedModelCalls : Int) (remote : Bool) (now : Int) :
    Option String :=
  if authorization.expiresAt ≤ now then some "authorization expired"
  else if cohort ∉ authorization.allowedCohorts then
    some s!"cohort {cohort.text} is not authorized"
  else if authorization.maxCostCny < reservedCostCny then some "cost budget exceeded"
  else if authorization.maxModelCalls < reservedModelCalls then
    some "model call budget exceeded"
  else if remote && !authorization.remoteCallsAllowed then
    some "remote calls are not authorized"
  else none

end JlensEvolve.Contracts
