import JlensEvolve.Contracts
import JlensEvolve.Library.Effect

/-!
`build_matched_counterfactual_pair` and the two value objects it builds. The
function is a long conjunction of lineage checks; every failing check raises a
contract violation with its own message, and nothing is written.
-/

namespace JlensEvolve.Evidence

open Library Contracts

/-- The exceptions of the evidence package. -/
inductive EvidenceError where
  | contractViolation (message : String)
  | integrity (message : String)
  | receiptConflict (message : String)
deriving DecidableEq, Repr

abbrev Checked := Except EvidenceError

def violation {α : Type} (message : String) : Checked α := .error (.contractViolation message)

def requireContract (condition : Prop) [Decidable condition] (message : String) :
    Checked Unit :=
  require condition (.contractViolation message)

theorem requireContract_ok_iff (condition : Prop) [Decidable condition] (message : String)
    (u : Unit) : requireContract condition message = .ok u ↔ condition :=
  require_ok_iff condition _ u

/-- The three parent harness fields, all absent or all present. -/
abbrev ParentLineage := Option String × Option String × Option String

structure CounterfactualArmEvidence where
  arm : String
  campaignId : String
  planId : String
  modelReceiptId : String
  modelReceiptSha256 : String
  modelArtifactSha256 : String
  externalTraceEvidenceId : String
  externalTraceEvidenceSha256 : String
  externalTraceReceiptId : String
  externalTraceArtifactSha256 : String
  nativeOutcomeEvidenceId : String
  nativeOutcomeEvidenceSha256 : String
  nativeOutcomeReceiptId : String
  nativeOutcomeArtifactSha256 : String
  predictionSha256 : String
  promptBundleSha256 : String
  candidatePromptSha256 : Option String
  candidateConsumed : Bool
  candidateRevisionId : Option String
  candidateBundleSha256 : Option String
  parentHarness : ParentLineage

def requireText (name value : String) : Checked Unit :=
  requireContract (isText value = true) s!"{name} must be non-empty text"

def requireSha256 (name value : String) : Checked Unit :=
  requireContract (isSha256 value = true) s!"{name} must be a literal lowercase SHA-256"

/-- The shared part of the two constructors: the lineage is complete or absent. -/
def checkParentLineage (incomplete : String) (lineage : ParentLineage) : Checked Unit :=
  match lineage with
  | (none, none, none) => .ok ()
  | (some revision, some bundle, some prompt) => do
      requireText "parent_harness_revision_id" revision
      requireSha256 "parent_harness_bundle_sha256" bundle
      requireSha256 "parent_harness_prompt_sha256" prompt
  | _ => violation incomplete

def CounterfactualArmEvidence.postInit (row : CounterfactualArmEvidence) : Checked Unit := do
  requireContract (row.arm = "baseline" ∨ row.arm = "taught")
    "counterfactual arm must be baseline or taught"
  requireText "campaign_id" row.campaignId
  requireText "plan_id" row.planId
  requireText "model_receipt_id" row.modelReceiptId
  requireText "external_trace_evidence_id" row.externalTraceEvidenceId
  requireText "external_trace_receipt_id" row.externalTraceReceiptId
  requireText "native_outcome_evidence_id" row.nativeOutcomeEvidenceId
  requireText "native_outcome_receipt_id" row.nativeOutcomeReceiptId
  requireSha256 "model_receipt_sha256" row.modelReceiptSha256
  requireSha256 "model_artifact_sha256" row.modelArtifactSha256
  requireSha256 "external_trace_evidence_sha256" row.externalTraceEvidenceSha256
  requireSha256 "external_trace_artifact_sha256" row.externalTraceArtifactSha256
  requireSha256 "native_outcome_evidence_sha256" row.nativeOutcomeEvidenceSha256
  requireSha256 "native_outcome_artifact_sha256" row.nativeOutcomeArtifactSha256
  requireSha256 "prediction_sha256" row.predictionSha256
  requireSha256 "prompt_bundle_sha256" row.promptBundleSha256
  if row.arm = "baseline" then
    requireContract (row.candidateConsumed = false ∧ row.candidateRevisionId = none ∧
        row.candidateBundleSha256 = none ∧ row.candidatePromptSha256 = none)
      "baseline arm contains candidate lineage"
  else do
    requireContract (row.candidateConsumed = true) "taught arm did not consume candidate"
    requireText "candidate_revision_id" (row.candidateRevisionId.getD "")
    requireSha256 "candidate_bundle_sha256" (row.candidateBundleSha256.getD "")
    requireSha256 "candidate_prompt_sha256" (row.candidatePromptSha256.getD "")
  checkParentLineage "parent harness lineage is incomplete" row.parentHarness

structure MatchedCounterfactualPair where
  candidateId : String
  candidateRevisionId : String
  candidateBundleSha256 : String
  campaignId : String
  taskRevisionId : String
  taskSourceSha256 : String
  modelIdentity : String
  nativeEvaluatorId : String
  executionConfigSha256 : String
  baseline : CounterfactualArmEvidence
  taught : CounterfactualArmEvidence
  parentHarness : ParentLineage

def MatchedCounterfactualPair.evidenceIds (pair : MatchedCounterfactualPair) : List String :=
  [pair.baseline.externalTraceEvidenceId, pair.baseline.nativeOutcomeEvidenceId,
   pair.taught.externalTraceEvidenceId, pair.taught.nativeOutcomeEvidenceId]

def MatchedCounterfactualPair.receiptIds (pair : MatchedCounterfactualPair) : List String :=
  [pair.baseline.modelReceiptId, pair.baseline.externalTraceReceiptId,
   pair.baseline.nativeOutcomeReceiptId, pair.taught.modelReceiptId,
   pair.taught.externalTraceReceiptId, pair.taught.nativeOutcomeReceiptId]

def MatchedCounterfactualPair.postInit (pair : MatchedCounterfactualPair) : Checked Unit := do
  requireText "candidate_id" pair.candidateId
  requireText "candidate_revision_id" pair.candidateRevisionId
  requireText "campaign_id" pair.campaignId
  requireText "task_revision_id" pair.taskRevisionId
  requireText "model_identity" pair.modelIdentity
  requireText "native_evaluator_id" pair.nativeEvaluatorId
  requireSha256 "candidate_bundle_sha256" pair.candidateBundleSha256
  requireSha256 "task_source_sha256" pair.taskSourceSha256
  requireSha256 "execution_config_sha256" pair.executionConfigSha256
  requireContract (pair.baseline.arm = "baseline" ∧ pair.taught.arm = "taught")
    "counterfactual pair arm ordering is invalid"
  requireContract (pair.baseline.campaignId = pair.campaignId)
    "baseline campaign identity does not match pair"
  requireContract (pair.taught.campaignId = pair.campaignId)
    "taught campaign identity does not match pair"
  requireContract (pair.taught.candidateRevisionId = some pair.candidateRevisionId)
    "taught candidate revision does not match pair"
  requireContract (pair.taught.candidateBundleSha256 = some pair.candidateBundleSha256)
    "taught candidate bundle does not match pair"
  checkParentLineage "pair parent harness lineage is incomplete" pair.parentHarness
  requireContract (pair.baseline.parentHarness = pair.parentHarness ∧
      pair.taught.parentHarness = pair.parentHarness)
    "counterfactual parent harness lineage mismatch"
  requireContract (pair.baseline.planId ≠ pair.taught.planId)
    "counterfactual arms must be separate executions"
  requireContract (pair.evidenceIds.Nodup ∧ pair.receiptIds.Nodup)
    "counterfactual pair contains duplicate evidence or receipts"

def CounterfactualArmEvidence.toJson (row : CounterfactualArmEvidence) : Json :=
  .obj [("arm", .str row.arm), ("campaign_id", .str row.campaignId),
    ("plan_id", .str row.planId), ("model_receipt_id", .str row.modelReceiptId),
    ("model_receipt_sha256", .str row.modelReceiptSha256),
    ("model_artifact_sha256", .str row.modelArtifactSha256),
    ("external_trace_evidence_id", .str row.externalTraceEvidenceId),
    ("external_trace_evidence_sha256", .str row.externalTraceEvidenceSha256),
    ("external_trace_receipt_id", .str row.externalTraceReceiptId),
    ("external_trace_artifact_sha256", .str row.externalTraceArtifactSha256),
    ("native_outcome_evidence_id", .str row.nativeOutcomeEvidenceId),
    ("native_outcome_evidence_sha256", .str row.nativeOutcomeEvidenceSha256),
    ("native_outcome_receipt_id", .str row.nativeOutcomeReceiptId),
    ("native_outcome_artifact_sha256", .str row.nativeOutcomeArtifactSha256),
    ("prediction_sha256", .str row.predictionSha256),
    ("prompt_bundle_sha256", .str row.promptBundleSha256),
    ("candidate_prompt_sha256", optionText row.candidatePromptSha256),
    ("candidate_consumed", .bool row.candidateConsumed),
    ("candidate_revision_id", optionText row.candidateRevisionId),
    ("candidate_bundle_sha256", optionText row.candidateBundleSha256),
    ("parent_harness_revision_id", optionText row.parentHarness.1),
    ("parent_harness_bundle_sha256", optionText row.parentHarness.2.1),
    ("parent_harness_prompt_sha256", optionText row.parentHarness.2.2)]

def MatchedCounterfactualPair.toJson (pair : MatchedCounterfactualPair) : Json :=
  .obj [("candidate_id", .str pair.candidateId),
    ("candidate_revision_id", .str pair.candidateRevisionId),
    ("candidate_bundle_sha256", .str pair.candidateBundleSha256),
    ("campaign_id", .str pair.campaignId), ("task_revision_id", .str pair.taskRevisionId),
    ("task_source_sha256", .str pair.taskSourceSha256),
    ("model_identity", .str pair.modelIdentity),
    ("native_evaluator_id", .str pair.nativeEvaluatorId),
    ("execution_config_sha256", .str pair.executionConfigSha256),
    ("baseline", pair.baseline.toJson), ("taught", pair.taught.toJson),
    ("parent_harness_revision_id", optionText pair.parentHarness.1),
    ("parent_harness_bundle_sha256", optionText pair.parentHarness.2.1),
    ("parent_harness_prompt_sha256", optionText pair.parentHarness.2.2)]

def MatchedCounterfactualPair.contentSha256 (pair : MatchedCounterfactualPair) : String :=
  pair.toJson.contentSha256

def onlyReceiptId (envelope : EvidenceEnvelope) (arm label : String) : Checked String :=
  match envelope.receiptIds with
  | [receiptId] => .ok receiptId
  | _ => violation s!"{arm} {label} evidence must bind one receipt"

def receiptPayload (envelope : EvidenceEnvelope) : List (String × Json) :=
  envelope.payload.filter (fun field => field.1 ∉ ["campaign_id", "plan_id", "receipt_kind"])

def validateEvidence (arm : String) (envelope : EvidenceEnvelope) (observerId : String) :
    Checked Unit := do
  requireContract (envelope.observerId = observerId) s!"{arm} evidence is not from {observerId}"
  requireContract (payloadGet envelope.payload "arm" = .str arm)
    s!"{arm} evidence arm identity mismatch"
  requireContract
    (envelope.artifactSha256 = (Json.obj (receiptPayload envelope)).contentSha256)
    s!"{arm} {observerId} artifact does not bind projected receipt payload"
  let _ ← onlyReceiptId envelope arm observerId

/-- A literal digest, or the contract violation that names what lacks it. -/
def literalSha256 (value : Json) (label : String) : Checked String :=
  match value with
  | .str text =>
    if isSha256 text then .ok text
    else violation s!"{label} prediction must be literal SHA-256"
  | _ => violation s!"{label} prediction must be literal SHA-256"

/-- `_prediction_sha256`: an absent `prediction_sha256` falls back to
`patch_sha256`. -/
def predictionSha256 (payload : List (String × Json)) (label : String) : Checked String :=
  literalSha256 ((Json.field? payload "prediction_sha256").getD
    (payloadGet payload "patch_sha256")) label

def sha256Text (value : String) : String := Sha256.hexdigest (Json.utf8 value)

def nonEmptyTexts? : Json → Option (List String)
  | .arr items => items.mapM fun item =>
    match item with
    | .str value => if value = "" then none else some value
    | _ => none
  | _ => none

def truthyText (value : Json) : Option String :=
  match value with
  | .str text => if text = "" then none else some text
  | _ => none

def joinLines (texts : List String) : String := String.intercalate "\n" texts

def validateBaselinePrompt (payload : List (String × Json)) (promptTexts : List String)
    (candidateRevisionId candidateBundleSha256 : String) : Checked Unit := do
  let joined := joinLines promptTexts
  requireContract (payloadGet payload "candidate_prompt" = .null ∧
      payloadGet payload "candidate_prompt_sha256" = .null)
    "baseline prompt contains candidate projection metadata"
  let compiled := payloadGet payload "compiled_artifact_sha256"
  requireContract (compiled = .null ∨ compiled = .obj [])
    "baseline prompt contains compiled candidate artifacts"
  requireContract (¬ contains joined "COMPILED-CANDIDATE:" ∧
      ¬ contains joined candidateRevisionId ∧ ¬ contains joined candidateBundleSha256)
    "baseline prompt leaks candidate projection"
  let parentSha256 := payloadGet payload "parent_harness_prompt_sha256"
  if parentSha256 = .null then .ok ()
  else
    match truthyText (payloadGet payload "parent_harness_prompt") with
    | none => violation "baseline parent harness prompt is missing"
    | some parentPrompt => do
        requireContract (Json.str (sha256Text parentPrompt) = parentSha256)
          "baseline parent harness prompt hash mismatch"
        requireContract (contains joined "BASELINE-HARNESS:" ∧
            promptTexts.any (fun prompt => contains prompt parentPrompt))
          "baseline prompt did not consume parent harness projection"

def validateTaughtPrompt (payload : List (String × Json)) (promptTexts : List String)
    (candidateRevisionId candidateBundleSha256 : String) : Checked String := do
  let joined := joinLines promptTexts
  match truthyText (payloadGet payload "candidate_prompt") with
  | none => violation "taught candidate projection is missing"
  | some candidatePrompt => do
      requireContract (payloadGet payload "candidate_prompt_sha256" =
          .str (sha256Text candidatePrompt)) "taught candidate projection hash mismatch"
      requireContract (contains candidatePrompt candidateRevisionId ∧
          contains candidatePrompt candidateBundleSha256)
        "taught candidate projection identity mismatch"
      requireContract (contains joined "COMPILED-CANDIDATE:" ∧
          promptTexts.any (fun prompt => contains prompt candidatePrompt))
        "taught prompt did not consume candidate projection"
      requireContract (¬ contains joined "BASELINE-HARNESS:")
        "taught prompt consumed baseline harness projection"
      match payloadGet payload "compiled_artifact_sha256" with
      | .obj (artifact :: artifacts) =>
        let _ ← (artifact :: artifacts).mapM
          (fun field => literalSha256 field.2 "taught compiled artifact")
        return sha256Text candidatePrompt
      | _ => violation "taught compiled candidate artifacts are missing"

/-- `_validate_prompt_lineage`: the prompt bundle digest and, for the taught
arm, the digest of the candidate's own prompt. -/
def validatePromptLineage (arm : String) (payload : List (String × Json))
    (candidateRevisionId candidateBundleSha256 : String) :
    Checked (String × Option String) := do
  match nonEmptyTexts? (payloadGet payload "prompt_texts"),
      payloadGet payload "prompt_sha256" with
  | some (first :: rest), .arr hashes => do
      let promptTexts := first :: rest
      requireContract (hashes.length = promptTexts.length)
        s!"{arm} prompt evidence is missing or invalid"
      requireContract (hashes = promptTexts.map (fun text => .str (sha256Text text)))
        s!"{arm} prompt hashes do not bind prompt bytes"
      let bundle := (Json.arr (promptTexts.map .str)).contentSha256
      if arm = "baseline" then do
        validateBaselinePrompt payload promptTexts candidateRevisionId candidateBundleSha256
        return (bundle, none)
      else do
        let prompt ←
          validateTaughtPrompt payload promptTexts candidateRevisionId candidateBundleSha256
        return (bundle, some prompt)
  | _, _ => violation s!"{arm} prompt evidence is missing or invalid"

def payloadParentHarness (payload : List (String × Json)) (label : String) :
    Checked ParentLineage :=
  match payloadGet payload "parent_harness_revision_id",
      payloadGet payload "parent_harness_bundle_sha256",
      payloadGet payload "parent_harness_prompt_sha256" with
  | .null, .null, .null => .ok (none, none, none)
  | .str revision, .str bundle, .str prompt => do
      requireContract (revision ≠ "" ∧ bundle ≠ "" ∧ prompt ≠ "")
        s!"{label} parent harness lineage is incomplete"
      let _ ← literalSha256 (.str bundle) s!"{label} parent harness"
      let _ ← literalSha256 (.str prompt) s!"{label} parent harness"
      return (some revision, some bundle, some prompt)
  | _, _, _ => violation s!"{label} parent harness lineage is incomplete"

/-- The fields of the model payload an external trace has to repeat. -/
def externalLineageFields : List String :=
  ["candidate_consumed", "candidate_revision_id", "candidate_bundle_sha256", "prompt_texts",
   "prompt_sha256", "candidate_prompt", "candidate_prompt_sha256", "compiled_artifact_sha256"]

def textOf? : Json → Option String
  | .str value => some value
  | _ => none

/-- Both evidence rows of an arm name its model receipt. -/
def bindsModel (arm label : String) (model : Receipt) (envelope : EvidenceEnvelope) :
    Checked Unit := do
  requireContract (payloadGet envelope.payload "campaign_id" = .str model.campaignId)
    s!"{arm} {label} campaign does not match model"
  requireContract (payloadGet envelope.payload "plan_id" = .str model.planId)
    s!"{arm} {label} plan does not match model"
  requireContract (payloadGet envelope.payload "model_receipt_id" = .str model.receiptId)
    s!"{arm} {label} does not reference model receipt"
  requireContract (payloadGet envelope.payload "model_artifact_sha256" = .str model.artifactSha256)
    s!"{arm} {label} does not bind model artifact"

def repeatsModelField (arm : String) (model : Receipt) (external : EvidenceEnvelope)
    (field : String) : Checked Unit :=
  requireContract (Json.pyEq (payloadGet external.payload field) (payloadGet model.payload field))
    s!"{arm} external {field} lineage does not match model"

def repeatsParentHarness (arm label : String) (lineage : ParentLineage)
    (envelope : EvidenceEnvelope) : Checked Unit := do
  let parent ← payloadParentHarness envelope.payload s!"{arm} {label}"
  requireContract (parent = lineage)
    s!"{arm} {label} parent harness lineage does not match model"

def buildArm (arm : String) (model : Receipt) (external native : EvidenceEnvelope)
    (candidateRevisionId candidateBundleSha256 : String) :
    Checked CounterfactualArmEvidence := do
  requireContract (model.kind = "model")
    (arm ++ " model receipt has kind " ++ reprText model.kind)
  requireContract (model.artifactSha256 = (Json.obj model.payload).contentSha256)
    s!"{arm} model receipt artifact does not bind payload"
  validateEvidence arm external "external-trace-v1"
  validateEvidence arm native "native-v1"
  bindsModel arm "external" model external
  bindsModel arm "native" model native
  requireContract (Json.pyEq (payloadGet external.payload "task_revision_id")
      (payloadGet native.payload "task_revision_id")) s!"{arm} trace/native task identity mismatch"
  let modelIdentity := pyStr (payloadGet model.payload "provider") ++ "/" ++
    pyStr (payloadGet model.payload "model") ++ "@" ++
    pyStr (payloadGet model.payload "revision")
  requireContract (payloadGet native.payload "model_identity" = .str modelIdentity)
    s!"{arm} native model identity mismatch"
  let modelPrediction ← predictionSha256 model.payload s!"{arm} model"
  let externalPrediction ← predictionSha256 external.payload s!"{arm} external trace"
  let nativePrediction ← predictionSha256 native.payload s!"{arm} native outcome"
  requireContract (modelPrediction = externalPrediction ∧ modelPrediction = nativePrediction)
    s!"{arm} prediction artifact lineage mismatch"
  let (promptBundleSha256, candidatePromptSha256) ←
    validatePromptLineage arm model.payload candidateRevisionId candidateBundleSha256
  let revision := payloadGet model.payload "candidate_revision_id"
  let bundle := payloadGet model.payload "candidate_bundle_sha256"
  match payloadGet model.payload "candidate_consumed" with
  | .bool consumed => do
      let _ ← externalLineageFields.mapM (repeatsModelField arm model external)
      let parentHarness ← payloadParentHarness model.payload s!"{arm} model"
      repeatsParentHarness arm "external" parentHarness external
      repeatsParentHarness arm "native" parentHarness native
      if arm = "baseline" then
        requireContract (consumed = false ∧ revision = .null ∧ bundle = .null)
          "baseline arm contains candidate lineage"
      else
        requireContract (consumed = true ∧ revision = .str candidateRevisionId ∧
            bundle = .str candidateBundleSha256)
          "taught arm candidate lineage does not match pair"
      let externalReceiptId ← onlyReceiptId external arm "external"
      let nativeReceiptId ← onlyReceiptId native arm "native"
      let row : CounterfactualArmEvidence :=
        { arm := arm
          campaignId := model.campaignId
          planId := model.planId
          modelReceiptId := model.receiptId
          modelReceiptSha256 := model.contentSha256
          modelArtifactSha256 := model.artifactSha256
          externalTraceEvidenceId := external.evidenceId
          externalTraceEvidenceSha256 := external.contentSha256
          externalTraceReceiptId := externalReceiptId
          externalTraceArtifactSha256 := external.artifactSha256
          nativeOutcomeEvidenceId := native.evidenceId
          nativeOutcomeEvidenceSha256 := native.contentSha256
          nativeOutcomeReceiptId := nativeReceiptId
          nativeOutcomeArtifactSha256 := native.artifactSha256
          predictionSha256 := modelPrediction
          promptBundleSha256 := promptBundleSha256
          candidatePromptSha256 := candidatePromptSha256
          candidateConsumed := consumed
          candidateRevisionId := textOf? revision
          candidateBundleSha256 := textOf? bundle
          parentHarness := parentHarness }
      row.postInit
      return row
  | _ => violation s!"{arm} model candidate_consumed must be boolean"

def matchedIdentityFields : List String :=
  ["task_revision_id", "task_source_sha256", "model_identity", "native_evaluator_id",
   "execution_config_sha256"]

/-- One field both native rows must carry with equal values. -/
def matchedIdentity (baseline taught : EvidenceEnvelope) (field : String) : Checked Json :=
  match Json.field? baseline.payload field, Json.field? taught.payload field with
  | some left, some right => do
      requireContract (Json.pyEq left right) s!"counterfactual arms have unmatched {field}"
      return left
  | _, _ => violation s!"counterfactual native evidence is missing {field}"

def buildMatchedCounterfactualPair (candidateId candidateRevisionId candidateBundleSha256 : String)
    (baselineModel : Receipt) (baselineExternal baselineNative : EvidenceEnvelope)
    (taughtModel : Receipt) (taughtExternal taughtNative : EvidenceEnvelope) :
    Checked MatchedCounterfactualPair := do
  let baseline ← buildArm "baseline" baselineModel baselineExternal baselineNative
    candidateRevisionId candidateBundleSha256
  let taught ← buildArm "taught" taughtModel taughtExternal taughtNative
    candidateRevisionId candidateBundleSha256
  let taskRevisionId ← matchedIdentity baselineNative taughtNative "task_revision_id"
  let taskSourceSha256 ← matchedIdentity baselineNative taughtNative "task_source_sha256"
  let modelIdentity ← matchedIdentity baselineNative taughtNative "model_identity"
  let nativeEvaluatorId ← matchedIdentity baselineNative taughtNative "native_evaluator_id"
  let executionConfigSha256 ←
    matchedIdentity baselineNative taughtNative "execution_config_sha256"
  requireContract (baseline.campaignId = taught.campaignId)
    "counterfactual arms have unmatched campaign_id"
  requireContract (baseline.parentHarness = taught.parentHarness)
    "counterfactual arms have unmatched parent harness"
  let pair : MatchedCounterfactualPair :=
    { candidateId := candidateId
      candidateRevisionId := candidateRevisionId
      candidateBundleSha256 := candidateBundleSha256
      campaignId := baseline.campaignId
      taskRevisionId := pyStr taskRevisionId
      taskSourceSha256 := pyStr taskSourceSha256
      modelIdentity := pyStr modelIdentity
      nativeEvaluatorId := pyStr nativeEvaluatorId
      executionConfigSha256 := pyStr executionConfigSha256
      baseline := baseline
      taught := taught
      parentHarness := baseline.parentHarness }
  pair.postInit
  return pair

end JlensEvolve.Evidence

/-!
When the builder of a counterfactual arm returns: the checks it makes of the
model receipt and the two evidence rows, one field for each, and the row that
comes out of them.
-/

namespace JlensEvolve.Evidence

open Library Contracts

/-- The model as a native row names it. -/
def modelIdentityOf (model : Receipt) : String :=
  pyStr (payloadGet model.payload "provider") ++ "/" ++
    pyStr (payloadGet model.payload "model") ++ "@" ++
    pyStr (payloadGet model.payload "revision")

structure ArmReading where
  externalReceiptId : String
  nativeReceiptId : String
  prediction : String
  promptBundleSha256 : String
  candidatePromptSha256 : Option String
  consumed : Bool
  parentHarness : ParentLineage

def ArmReading.row (reading : ArmReading) (arm : String) (model : Receipt)
    (external native : EvidenceEnvelope) : CounterfactualArmEvidence :=
  { arm := arm
    campaignId := model.campaignId
    planId := model.planId
    modelReceiptId := model.receiptId
    modelReceiptSha256 := model.contentSha256
    modelArtifactSha256 := model.artifactSha256
    externalTraceEvidenceId := external.evidenceId
    externalTraceEvidenceSha256 := external.contentSha256
    externalTraceReceiptId := reading.externalReceiptId
    externalTraceArtifactSha256 := external.artifactSha256
    nativeOutcomeEvidenceId := native.evidenceId
    nativeOutcomeEvidenceSha256 := native.contentSha256
    nativeOutcomeReceiptId := reading.nativeReceiptId
    nativeOutcomeArtifactSha256 := native.artifactSha256
    predictionSha256 := reading.prediction
    promptBundleSha256 := reading.promptBundleSha256
    candidatePromptSha256 := reading.candidatePromptSha256
    candidateConsumed := reading.consumed
    candidateRevisionId := textOf? (payloadGet model.payload "candidate_revision_id")
    candidateBundleSha256 := textOf? (payloadGet model.payload "candidate_bundle_sha256")
    parentHarness := reading.parentHarness }

/-- The model payload says of the candidate what its arm has to say. -/
def CandidateAgrees (arm candidateRevisionId candidateBundleSha256 : String) (model : Receipt)
    (consumed : Bool) : Prop :=
  let revision := payloadGet model.payload "candidate_revision_id"
  let bundle := payloadGet model.payload "candidate_bundle_sha256"
  if arm = "baseline" then consumed = false ∧ revision = .null ∧ bundle = .null
  else consumed = true ∧ revision = .str candidateRevisionId ∧ bundle = .str candidateBundleSha256

/-- Rows of an arm that pass every check of the builder. -/
structure ArmAccepted (arm candidateRevisionId candidateBundleSha256 : String) (model : Receipt)
    (external native : EvidenceEnvelope) (reading : ArmReading) : Prop where
  kind : model.kind = "model"
  artifact : model.artifactSha256 = (Json.obj model.payload).contentSha256
  externalValid : validateEvidence arm external "external-trace-v1" = .ok ()
  nativeValid : validateEvidence arm native "native-v1" = .ok ()
  externalBinds : bindsModel arm "external" model external = .ok ()
  nativeBinds : bindsModel arm "native" model native = .ok ()
  sameTask : payloadGet external.payload "task_revision_id" =
    payloadGet native.payload "task_revision_id"
  identity : payloadGet native.payload "model_identity" = .str (modelIdentityOf model)
  modelPrediction : ∀ label, predictionSha256 model.payload label = .ok reading.prediction
  externalPrediction : ∀ label, predictionSha256 external.payload label = .ok reading.prediction
  nativePrediction : ∀ label, predictionSha256 native.payload label = .ok reading.prediction
  prompts : validatePromptLineage arm model.payload candidateRevisionId candidateBundleSha256 =
    .ok (reading.promptBundleSha256, reading.candidatePromptSha256)
  consumed : payloadGet model.payload "candidate_consumed" = .bool reading.consumed
  repeats : ∀ field ∈ externalLineageFields,
    payloadGet external.payload field = payloadGet model.payload field
  modelParent : ∀ label, payloadParentHarness model.payload label = .ok reading.parentHarness
  externalParent : ∀ label, payloadParentHarness external.payload label = .ok reading.parentHarness
  nativeParent : ∀ label, payloadParentHarness native.payload label = .ok reading.parentHarness
  candidate : CandidateAgrees arm candidateRevisionId candidateBundleSha256 model reading.consumed
  externalReceipt : external.receiptIds = [reading.externalReceiptId]
  nativeReceipt : native.receiptIds = [reading.nativeReceiptId]

theorem onlyReceiptId_of_single {envelope : EvidenceEnvelope} {receiptId : String}
    (h : envelope.receiptIds = [receiptId]) (arm label : String) :
    onlyReceiptId envelope arm label = .ok receiptId := by
  rw [onlyReceiptId, h]

theorem buildArm_of_accepted {arm candidateRevisionId candidateBundleSha256 : String}
    {model : Receipt} {external native : EvidenceEnvelope} {reading : ArmReading}
    (h : ArmAccepted arm candidateRevisionId candidateBundleSha256 model external native reading)
    (hrow : (reading.row arm model external native).postInit = .ok ()) :
    buildArm arm model external native candidateRevisionId candidateBundleSha256 =
      .ok (reading.row arm model external native) := by
  obtain ⟨answers, hrepeats⟩ : ∃ answers, externalLineageFields.mapM
      (repeatsModelField arm model external) = .ok answers := by
    apply mapM_ok_of_forall
    intro field hfield
    refine ⟨(), (requireContract_ok_iff _ _ _).mpr ?_⟩
    rw [h.repeats field hfield, Json.pyEq_self]
  have hcandidate := h.candidate
  unfold buildArm
  simp only [h.externalValid, h.nativeValid, h.externalBinds, h.nativeBinds, except_bind_ok_iff,
    requireContract_ok_iff, exists_const, true_and]
  refine ⟨h.kind, h.artifact, ?_, h.identity, _, h.modelPrediction _, _, h.externalPrediction _, _,
    h.nativePrediction _, ⟨rfl, rfl⟩, _, h.prompts, ?_⟩
  · rw [h.sameTask, Json.pyEq_self]
  · rw [h.consumed]
    simp only [except_bind_ok_iff, repeatsParentHarness, h.externalParent, h.nativeParent,
      requireContract_ok_iff, onlyReceiptId_of_single h.externalReceipt,
      onlyReceiptId_of_single h.nativeReceipt]
    refine ⟨_, hrepeats, _, h.modelParent _, (), ⟨_, rfl, rfl⟩, (), ⟨_, rfl, rfl⟩, ?_⟩
    rw [CandidateAgrees] at hcandidate
    split
    · rename_i hbaseline
      rw [if_pos hbaseline] at hcandidate
      simp only [except_bind_ok_iff, requireContract_ok_iff]
      exact ⟨(), hcandidate, _, rfl, _, rfl, (), hrow, rfl⟩
    · rename_i htaught
      rw [if_neg htaught] at hcandidate
      simp only [except_bind_ok_iff, requireContract_ok_iff]
      exact ⟨(), hcandidate, _, rfl, _, rfl, (), hrow, rfl⟩

end JlensEvolve.Evidence
