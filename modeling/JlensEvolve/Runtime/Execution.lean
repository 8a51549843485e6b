import JlensEvolve.Runtime.Ports

/-!
`ExecutionRuntime.execute`. Every stage looks for its receipt among those the
call found and appends one when there is none; the payload it appends is a
function of its own, so that a resumed call and an uninterrupted one can be
compared.
-/

namespace JlensEvolve.Runtime

open Library Contracts

def requireSha256 (value : Json) (field : String) : Except String Unit :=
  match value with
  | .str text => require (isSha256 text = true) (field ++ " must be a literal SHA-256")
  | _ => .error (field ++ " must be a literal SHA-256")

def modelPredictionSha256 (output : Payload) : Except String (Option String) :=
  match payloadGet output "patch", payloadGet output "patch_sha256" with
  | .null, .null => .ok none
  | .str patch, expected => do
      requireSha256 expected "model prediction"
      let derived := Sha256.hexdigest (Json.utf8 patch)
      require (Json.str derived = expected) "model prediction artifact hash mismatch"
      pure (some derived)
  | _, _ => .error "model prediction patch must be literal text"

/-- `value.get("mechanism_id", plan.metadata.get("mechanism_id"))`. -/
def mechanismId (plan : ExecutionPlan) (fields : Payload) : Json :=
  (Json.field? fields "mechanism_id").getD (payloadGet plan.metadata "mechanism_id")

def workspacePayload (plan : ExecutionPlan) (materialized : Payload) : Payload :=
  updated materialized [("plan_sha256", .str plan.contentSha256)]

def modelPayload (plan : ExecutionPlan) (answer : Payload) : Payload :=
  updated answer [("provider", .str plan.model.provider), ("model", .str plan.model.model),
    ("revision", .str plan.model.revision)]

def tracedFields : List String :=
  ["raw_output_path", "raw_output_sha256", "prompt_paths", "prompt_texts", "prompt_sha256",
    "patch", "patch_sha256", "structural_valid", "failure_reason", "mechanism", "condition_id",
    "candidate_consumed", "candidate_bundle_sha256", "candidate_revision_id",
    "candidate_prompt", "candidate_prompt_sha256", "compiled_artifact_sha256",
    "model_identity_sha256", "parent_harness_revision_id", "parent_harness_bundle_sha256",
    "parent_harness_prompt", "parent_harness_prompt_sha256"]

def predictionFields : Option String → Except String Payload
  | none => .ok []
  | some sha256 => do
      requireSha256 (.str sha256) "external prediction"
      pure [("prediction_sha256", .str sha256), ("observation_sha256", .str sha256)]

def externalTrace (plan : ExecutionPlan) (modelReceipt : Receipt) : Except String Payload := do
  let output := modelReceipt.payload
  let prediction ← modelPredictionSha256 output
  let mechanism := mechanismId plan output
  let predicted ← predictionFields prediction
  pure (copyFields tracedFields output
    ([("model_receipt_id", .str modelReceipt.receiptId),
        ("model_artifact_sha256", .str modelReceipt.artifactSha256), ("arm", .str plan.arm),
        ("task_revision_id", .str plan.task.revisionId)] ++
      (if mechanism = .null then [] else [("mechanism_id", mechanism)]) ++ predicted))

def internalTracePath (trace : Json) : Except String (Payload × String) :=
  match trace with
  | .obj fields =>
    match payloadGet fields "artifact_path" with
    | .str path => do
        require (path ≠ "") "internal trace artifact path is missing"
        pure (fields, path)
    | _ => .error "internal trace artifact path is missing"
  | _ => .error "internal trace must be a mapping"

def internalTrace (plan : ExecutionPlan) (modelReceipt : Receipt) (fields : Payload)
    (file : TraceFile) : Except Raised Payload := do
  let traceSha256 := payloadGet fields "artifact_sha256"
  require (file.isFile = true) (.contractViolation "internal trace artifact is missing")
  (requireSha256 traceSha256 "internal trace artifact").mapError .contractViolation
  match file.content with
  | none => throw .failed
  | some content =>
    require (Json.str (Sha256.hexdigest content) = traceSha256)
      (.contractViolation "internal trace artifact hash mismatch")
    match file.decoded with
    | none => throw (.contractViolation "internal trace artifact is invalid")
    | some (.obj artifact) =>
      let prediction := payloadGet artifact "prediction_sha256"
      (requireSha256 prediction "internal prediction").mapError .contractViolation
      match mechanismId plan fields with
      | .str mechanism =>
        require (isText mechanism = true)
          (.contractViolation "internal trace mechanism is missing")
        pure (updated fields
          [("arm", .str plan.arm), ("task_revision_id", .str plan.task.revisionId),
            ("mechanism_id", .str mechanism),
            ("model_receipt_id", .str modelReceipt.receiptId),
            ("artifact_path", .str file.path), ("artifact_sha256", traceSha256),
            ("prediction_sha256", prediction), ("observation_sha256", prediction)])
      | _ => throw (.contractViolation "internal trace mechanism is missing")
    | some _ => throw (.contractViolation "internal trace artifact must be an object")

/-- `float(value)` of a number that is no truth value. -/
def numericCost (environment : Environment) : Json → Except Raised ℚ
  | .int value =>
    match environment.floatOfInt value with
    | some numeric => .ok numeric
    | none => .error .failed
  | .float value => .ok value
  | _ => .error (.contractViolation "model cost must be numeric")

def validatedCost (environment : Environment) (value : Json) : Except Raised ℚ := do
  let numeric ← numericCost environment value
  require (0 ≤ numeric) (.contractViolation "model cost must be finite and non-negative")
  pure numeric

/-- `int(value)`. -/
def intOf (environment : Environment) : Json → Except Raised Int
  | .bool value => .ok (if value then 1 else 0)
  | .int value => .ok value
  | .float value => .ok (Int.tdiv value.num value.den)
  | .str text =>
    match environment.intOfText text with
    | some value => .ok value
    | none => .error .failed
  | _ => .error .failed

/-- `float(value)`. -/
def floatOf (environment : Environment) : Json → Option ℚ
  | .bool value => some (if value then 1 else 0)
  | .int value => environment.floatOfInt value
  | .float value => some value
  | .str text => environment.floatOfText text
  | _ => none

def costPayload (environment : Environment) (plan : ExecutionPlan) (output : Payload) :
    Except Raised Payload := do
  let cost ← validatedCost environment ((Json.field? output "cost_cny").getD (.int 0))
  let input ← intOf environment ((Json.field? output "input_tokens").getD (.int 0))
  let answered ← intOf environment ((Json.field? output "output_tokens").getD (.int 0))
  pure [("cost_cny", .float cost), ("input_tokens", .int input), ("output_tokens", .int answered),
    ("provider", .str plan.model.provider), ("model", .str plan.model.model),
    ("revision", .str plan.model.revision)]

def nativeExecutionIdentity (plan : ExecutionPlan) : Payload :=
  let config := Json.obj
    [("context_policy_id", .str plan.contextPolicyId), ("tool_policy_id", .str plan.toolPolicyId),
      ("observer_policy_ids", .arr (plan.observerPolicyIds.map .str)),
      ("limits", .obj [("max_tokens", .int plan.limits.maxTokens),
        ("max_seconds", .int plan.limits.maxSeconds),
        ("max_cost_cny", .float plan.limits.maxCostCny)]),
      ("holdout_scope", .str plan.holdoutScope)]
  [("arm", .str plan.arm), ("task_revision_id", .str plan.task.revisionId),
    ("task_source_sha256", .str plan.task.sourceSha256),
    ("model_identity",
      .str (plan.model.provider ++ "/" ++ plan.model.model ++ "@" ++ plan.model.revision)),
    ("native_evaluator_id", .str plan.nativeEvaluatorId),
    ("execution_config_sha256", .str config.contentSha256)]

/-- `plan.metadata.get("execution_mode", "full")`. -/
def executionMode (plan : ExecutionPlan) : Json :=
  (Json.field? plan.metadata "execution_mode").getD (.str "full")

/-- The answer of the evaluator, with the prediction it was given for. -/
def checkNativePrediction (output answer : Payload) : Except String Payload :=
  let prediction := (Json.field? answer "prediction_sha256").getD (payloadGet answer "patch_sha256")
  if prediction = .null then pure answer else do
    requireSha256 prediction "native prediction"
    let external ← modelPredictionSha256 output
    require (external.map Json.str = some prediction)
      "native prediction does not match model artifact"
    pure (updated answer [("prediction_sha256", prediction)])

/-- The native fact of an answer of the evaluator. -/
def nativePayload (plan : ExecutionPlan) (modelReceipt : Receipt) (answer : Payload) :
    Except String Payload := do
  let payload ← checkNativePrediction modelReceipt.payload answer
  let payload := updated payload (nativeExecutionIdentity plan)
  let payload := updated payload
    [("model_receipt_id", .str modelReceipt.receiptId),
      ("model_artifact_sha256", .str modelReceipt.artifactSha256)]
  let payload := copyFields ["parent_harness_revision_id", "parent_harness_bundle_sha256",
    "parent_harness_prompt_sha256"] modelReceipt.payload payload
  pure (updated payload [("evaluator_error", .null)])

/-- The native fact of an evaluator that produced no outcome. -/
def evaluatorErrorPayload (plan : ExecutionPlan) (modelReceipt : Receipt) (reason : String) :
    Payload :=
  updated (nativeExecutionIdentity plan)
    [("model_receipt_id", .str modelReceipt.receiptId),
      ("model_artifact_sha256", .str modelReceipt.artifactSha256), ("resolved", .bool false),
      ("evaluator_error", .str ("EvaluatorInfrastructureError: " ++ reason))]

def singletonKinds : List String :=
  ["workspace", "mechanism_prediction", "model", "external_trace", "internal_trace", "cost",
    "native_evaluation", "execution_terminal"]

/-- `next((item for item in existing if item.kind == kind), None)`. -/
def firstOfKind (kind : String) (existing : List Receipt) : Option Receipt :=
  existing.find? (fun receipt => receipt.kind = kind)

/-- `existing_by_kind.get(kind)`, where a later receipt replaces an earlier. -/
def byKind (kind : String) (existing : List Receipt) : Option Receipt :=
  firstOfKind kind existing.reverse

/-- The receipts in order of their sequence. -/
def inSequence (receipts : List Receipt) : List Receipt :=
  receipts.insertionSort (fun first second => first.sequence ≤ second.sequence)

def checkSingletons (existing : List Receipt) : Except String Unit :=
  match singletonKinds.find? (fun kind => 1 < existing.countP (fun item => item.kind = kind)) with
  | some kind => .error ("resume contains duplicate " ++ kind ++ " receipts")
  | none => .ok ()

/-- `_validate_admission`. A reading without a time zone cannot be compared
with the expiry. -/
def validateAdmission (environment : Environment) (plan : ExecutionPlan)
    (authorization : Authorization) : RunM Unit := do
  contract (require (plan.campaignId = authorization.campaignId)
    "authorization campaign does not match execution plan")
  contract (require (plan.nativeEvaluatorId = plan.task.evaluatorId)
    "plan evaluator does not match frozen task evaluator")
  contract (require (environment.evaluatorId = plan.nativeEvaluatorId)
    "runtime evaluator identity does not match execution plan")
  let reading ← interact environment environment.clock
  match reading with
  | none => throw .failed
  | some now =>
    match authorization.refusal? plan.task.cohort plan.limits.maxCostCny 1
      environment.remote now with
    | some message => violates message
    | none => pure ()

def checkPrediction (existing : List Receipt) (prediction : Option MechanismPrediction) :
    Except String Unit :=
  match prediction, firstOfKind "mechanism_prediction" existing with
  | none, some _ => .error "resume mechanism prediction identity mismatch"
  | some prediction, some receipt =>
    require (Json.pyEq (.obj receipt.payload) (.obj prediction.asPayload) = true)
      "mechanism prediction identity drift"
  | _, none => .ok ()

def namesPlan (plan : ExecutionPlan) (workspace : Receipt) : Prop :=
  payloadGet workspace.payload "plan_sha256" = .str plan.contentSha256

instance (plan : ExecutionPlan) (workspace : Receipt) : Decidable (namesPlan plan workspace) :=
  inferInstanceAs (Decidable (_ = _))

/-- What a call on a plan with a terminal receipt answers. -/
def replay (plan : ExecutionPlan) (existing : List Receipt)
    (prediction : Option MechanismPrediction) (terminal : Receipt) :
    Except Raised ExecutionResult := do
  require (prediction = none ∨ (firstOfKind "mechanism_prediction" existing).isSome)
    (.contractViolation "terminal replay is missing mechanism prediction receipt")
  require (∃ workspace ∈ firstOfKind "workspace" existing, namesPlan plan workspace)
    (.contractViolation "terminal replay plan identity mismatch")
  match Json.field? terminal.payload "status" with
  | some status => pure ⟨pyStr status, existing, [], true⟩
  | none => throw .failed

section Stages

variable (environment : Environment) (plan : ExecutionPlan) (existing : List Receipt)

def workspaceStage : RunM Payload :=
  match byKind "workspace" existing with
  | none => do
      let materialized ← materialize environment plan
      let receipt ← appendFact environment plan "workspace" (workspacePayload plan materialized)
      pure receipt.payload
  | some receipt => do
      contract (require (namesPlan plan receipt) "resume plan does not match workspace receipt")
      pure receipt.payload

def predictionStage (prediction : Option MechanismPrediction) : RunM Unit :=
  match prediction, byKind "mechanism_prediction" existing with
  | some prediction, none => do
      contract (require ((byKind "model" existing).isNone = true)
        "mechanism prediction was not frozen before model dispatch")
      let _ ← appendFact environment plan "mechanism_prediction" prediction.asPayload
  | _, _ => pure ()

def modelStage (workspace : Payload) : RunM Receipt :=
  match byKind "model" existing with
  | none => do
      let answer ← infer environment plan workspace
      appendFact environment plan "model" (modelPayload plan answer)
  | some receipt => pure receipt

/-- The stages before a model receipt is at hand. -/
def dispatch (prediction : Option MechanismPrediction) : RunM (Payload × Receipt) := do
  let workspace ← workspaceStage environment plan existing
  predictionStage environment plan existing prediction
  let modelReceipt ← modelStage environment plan existing workspace
  pure (workspace, modelReceipt)

def traceStage (modelReceipt : Receipt) : RunM Unit :=
  match byKind "external_trace" existing with
  | none => do
      let payload ← contract (externalTrace plan modelReceipt)
      let _ ← appendFact environment plan "external_trace" payload
  | some trace =>
    contract (require
      (payloadGet trace.payload "model_receipt_id" = .str modelReceipt.receiptId)
      "resume external trace identity mismatch")

def internalStage (modelReceipt : Receipt) : RunM Unit :=
  match byKind "internal_trace" existing, payloadGet modelReceipt.payload "internal_trace" with
  | none, .null => pure ()
  | none, trace => do
      let (fields, path) ← contract (internalTracePath trace)
      let file ← interact environment fun tick => environment.traceFile tick path
      let payload ← check (internalTrace plan modelReceipt fields file)
      let _ ← appendFact environment plan "internal_trace" payload
  | some _, .null => violates "resume internal trace identity mismatch"
  | some _, _ => pure ()

def costStage (modelReceipt : Receipt) : RunM Receipt :=
  match byKind "cost" existing with
  | none => do
      let payload ← check (costPayload environment plan modelReceipt.payload)
      appendFact environment plan "cost" payload
  | some receipt => pure receipt

/-- `float(cost_receipt.payload["cost_cny"])`. -/
def recordedCost (costReceipt : Receipt) : Except Raised ℚ :=
  match (Json.field? costReceipt.payload "cost_cny").bind (floatOf environment) with
  | some cost => .ok cost
  | none => .error .failed

def nativeStage (workspace : Payload) (modelReceipt : Receipt) : RunM Unit :=
  match byKind "native_evaluation" existing with
  | none => do
      let answer ← evaluate environment plan workspace modelReceipt.payload
      let payload ← contract (nativePayload plan modelReceipt answer)
      let _ ← appendFact environment plan "native_evaluation" payload
  | some _ => pure ()

/-- A terminal receipt, and the result that ends the call. -/
def terminate (status : String) (fields : Payload) : RunM ExecutionResult := do
  let _ ← appendControl environment plan "execution_terminal" (("status", .str status) :: fields)
  appenderResult status

/-- The stages that need a model receipt. -/
def conclude (workspace : Payload) (modelReceipt : Receipt) : RunM ExecutionResult := do
  traceStage environment plan existing modelReceipt
  internalStage environment plan existing modelReceipt
  let costReceipt ← costStage environment plan existing modelReceipt
  let cost ← check (recordedCost environment costReceipt)
  if plan.limits.maxCostCny < cost then
    terminate environment plan "budget_exhausted"
      [("reason", .str "actual model cost exceeded the plan limit")]
  else
    if executionMode plan = .str "model-only-prescreen" then
      terminate environment plan "completed" [("execution_mode", .str "model-only-prescreen")]
    else if executionMode plan ≠ .str "full" then
      violates "unsupported execution mode"
    else do
      nativeStage environment plan existing workspace modelReceipt
      terminate environment plan "completed" []

end Stages

/-- The exceptions the `except` clauses of `execute` name. -/
def handled : Raised → Bool
  | .executionInterrupted _ | .evaluatorInfrastructure _ => true
  | _ => false

/-- The `except` clauses, with the value `model_receipt` has then. -/
def handle (environment : Environment) (plan : ExecutionPlan) (modelReceipt : Option Receipt) :
    Raised → RunM ExecutionResult
  | .executionInterrupted reason => do
      let _ ← appendControl environment plan "execution_partial"
        [("status", .str "partial"), ("reason", .str reason), ("retryable", .bool true)]
      appenderResult "partial"
  | .evaluatorInfrastructure reason =>
    match modelReceipt with
    | none => violates "evaluator infrastructure error occurred before model receipt"
    | some modelReceipt => do
        let _ ← appendFact environment plan "native_evaluation"
          (evaluatorErrorPayload plan modelReceipt reason)
        terminate environment plan "infra_failure" [("reason", .str reason)]
  | raised => throw raised

/-- `_ReceiptAppender.__init__`. -/
def startAppender (existing : List Receipt) : Appender where
  receipts := existing
  evidence := []
  nextSequence := (existing.map (·.sequence)).foldl max 0 + 1

/-- The `try` statement. -/
def tryStages (environment : Environment) (plan : ExecutionPlan) (existing : List Receipt)
    (prediction : Option MechanismPrediction) : RunM ExecutionResult := do
  let dispatched ← attempt handled (dispatch environment plan existing prediction)
  match dispatched with
  | .error raised => handle environment plan (byKind "model" existing) raised
  | .ok (workspace, modelReceipt) => do
      let concluded ← attempt handled (conclude environment plan existing workspace modelReceipt)
      match concluded with
      | .error raised => handle environment plan (some modelReceipt) raised
      | .ok result => pure result

def execute (plan : ExecutionPlan) (environment : Environment) (authorization : Authorization)
    (prediction : Option MechanismPrediction) : RunM ExecutionResult := do
  let receipts ← receiptsFor environment
  let existing := inSequence receipts
  contract (checkSingletons existing)
  validateAdmission environment plan authorization
  contract (checkPrediction existing prediction)
  match byKind "execution_terminal" existing with
  | some terminal => check (replay plan existing prediction terminal)
  | none => do
      modify (World.appending · (startAppender existing))
      tryStages environment plan existing prediction

/-- One call of `execute` on a plan, in the surroundings it meets. -/
structure Call where
  environment : Environment
  authorization : Authorization
  prediction : Option MechanismPrediction

def Call.execute (plan : ExecutionPlan) (call : Call) : RunM ExecutionResult :=
  Runtime.execute plan call.environment call.authorization call.prediction

end JlensEvolve.Runtime
