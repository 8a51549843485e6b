import JlensEvolve.SkillLoop.Evaluation

/-!
What the loop sends to the parent model and what comes back: the failure
evidence, the feedback package, the request and the response of `contracts.py`.
-/

namespace JlensEvolve.SkillLoop

open Library Contracts

def failureReasonCodes : List String :=
  ["no-diff", "bad-header", "malformed-hunk", "apply-fail", "reasoning-only", "full-file",
    "wrong-target", "eval-infra", "native-unresolved", "regression", "json-malformed",
    "selector-no-match", "expression-used-for-statement", "no-op", "duplicate-file",
    "unrelated-symbol", "plan-too-large", "unresolved", "inconsistent-plan", "identifier-drift",
    "boundary-collapse", "semantic-oracle-mismatch", "non-executable-insertion", "schema-invalid",
    "selector-not-enumerated", "semantic-overbroad", "syntax-invalid", "unbound-name",
    "unsafe-empty-sequence"]

structure FailureEvidence where
  taskId : String
  reasonCode : String
  diagnosticSummary : String
  rawOutputSha256 : String
  extractedEditSha256 : Option String
  applyError : Option String
deriving DecidableEq

def FailureEvidence.validate (evidence : FailureEvidence) : Except String Unit := do
  requireIdentifier "task_id" evidence.taskId
  require (evidence.reasonCode ∈ failureReasonCodes) "invalid failure reason code"
  requireNonempty "diagnostic_summary" evidence.diagnosticSummary
  require (isSha256 evidence.rawOutputSha256 = true) "invalid raw output sha256"
  require (evidence.extractedEditSha256.all isSha256 = true) "invalid extracted edit sha256"
  require (evidence.applyError.all isText = true) "apply_error cannot be blank"

def FailureEvidence.toDict (evidence : FailureEvidence) : Json :=
  .obj [("task_id", .str evidence.taskId), ("reason_code", .str evidence.reasonCode),
    ("diagnostic_summary", .str evidence.diagnosticSummary),
    ("raw_output_sha256", .str evidence.rawOutputSha256),
    ("extracted_edit_sha256", optionText evidence.extractedEditSha256),
    ("apply_error", optionText evidence.applyError)]

/-- How often each reason occurs, in the order of first occurrence. -/
def countReasons (evidence : List FailureEvidence) : Dict String Nat :=
  evidence.foldl (fun counts row =>
    counts.set row.reasonCode ((counts.get? row.reasonCode).getD 0 + 1)) Dict.empty

structure FeedbackPackage where
  schemaVersion : Json
  currentRound : Int
  reasonCounts : Dict String Nat
  armEvidence : List FailureEvidence
  previousEvalNote : String
  noProgress : Bool
  rejectedFingerprints : List String

namespace FeedbackPackage

/-- Two dictionaries are equal without regard to the order of keys. -/
def sameCounts (first second : Dict String Nat) : Prop :=
  (∀ key ∈ first.keys, first.get? key = second.get? key) ∧
    ∀ key ∈ second.keys, first.get? key = second.get? key

instance (first second : Dict String Nat) : Decidable (sameCounts first second) :=
  inferInstanceAs (Decidable (_ ∧ _))

def validate (package : FeedbackPackage) : Except String Unit := do
  require (Json.pyEq package.schemaVersion (.int 1) = true) "unsupported feedback package schema"
  require (0 ≤ package.currentRound) "current_round must be a non-negative integer"
  require (package.armEvidence ≠ []) "feedback package requires arm evidence"
  package.armEvidence.forM FailureEvidence.validate
  require (sameCounts package.reasonCounts (countReasons package.armEvidence))
    "reason_counts do not match arm evidence"
  requireNonempty "previous_eval_note" package.previousEvalNote
  require (package.rejectedFingerprints.all isSha256 = true)
    "invalid rejected revision fingerprint"
  require package.rejectedFingerprints.Nodup "rejected revision fingerprints must be unique"

def create (currentRound : Int) (armEvidence : List FailureEvidence) (previousEvalNote : String)
    (noProgress : Bool) (rejectedFingerprints : List String) : Except String FeedbackPackage := do
  let package : FeedbackPackage := {
    schemaVersion := .int 1
    currentRound
    reasonCounts := countReasons armEvidence
    armEvidence
    previousEvalNote
    noProgress
    rejectedFingerprints }
  package.validate
  pure package

/-- `_content_dict`. -/
def content (package : FeedbackPackage) : List (String × Json) :=
  [("schema_version", package.schemaVersion), ("current_round", .int package.currentRound),
    ("reason_counts",
      .obj (package.reasonCounts.entries.map fun entry => (entry.1, .int entry.2))),
    ("arm_evidence", .arr (package.armEvidence.map FailureEvidence.toDict)),
    ("previous_eval_note", .str package.previousEvalNote),
    ("no_progress", .bool package.noProgress),
    ("rejected_fingerprints", .arr (package.rejectedFingerprints.map .str))]

def fingerprint (package : FeedbackPackage) : String := (Json.obj package.content).contentSha256

def toDict (package : FeedbackPackage) : Json :=
  .obj (package.content ++ [("fingerprint", .str package.fingerprint)])

end FeedbackPackage

structure ParentModelRequest where
  schemaVersion : Json
  feedback : FeedbackPackage
  currentRevision : LoopRevision

namespace ParentModelRequest

def validate (request : ParentModelRequest) : Except String Unit := do
  require (Json.pyEq request.schemaVersion (.int 1) = true) "unsupported parent request schema"
  request.feedback.validate
  request.currentRevision.validate

def create (feedback : FeedbackPackage) (currentRevision : LoopRevision) :
    Except String ParentModelRequest := do
  let request : ParentModelRequest := { schemaVersion := .int 1, feedback, currentRevision }
  request.validate
  pure request

def toDict (request : ParentModelRequest) : Json :=
  .obj [("schema_version", request.schemaVersion), ("feedback", request.feedback.toDict),
    ("current_revision", request.currentRevision.toDict)]

def sha256 (request : ParentModelRequest) : String := request.toDict.contentSha256

end ParentModelRequest

structure ParentModelResponse where
  schemaVersion : Json
  protocol : String
  skillText : String
  promptTemplate : String
  evalNote : String
  usage : List (String × Json)
deriving DecidableEq

namespace ParentModelResponse

def validate (response : ParentModelResponse) : Except String Unit := do
  require (Json.pyEq response.schemaVersion (.int 1) = true) "unsupported parent response schema"
  requireNonempty "protocol" response.protocol
  requireNonempty "skill_text" response.skillText
  requireNonempty "prompt_template" response.promptTemplate
  requireNonempty "eval_note" response.evalNote

def fieldNames : List String :=
  ["schema_version", "protocol", "skill_text", "prompt_template", "eval_note", "usage"]

def fromDict : Json → Except String ParentModelResponse
  | .obj fields => do
      require (hasKeys fields fieldNames) "invalid parent response fields"
      let text name := pyStr (payloadGet fields name)
      match pyDict (payloadGet fields "usage") with
      | some usage => do
          let response : ParentModelResponse := {
            schemaVersion := payloadGet fields "schema_version"
            protocol := text "protocol"
            skillText := text "skill_text"
            promptTemplate := text "prompt_template"
            evalNote := text "eval_note"
            usage }
          response.validate
          pure response
      | none => .error "cannot convert usage to a dictionary"
  | _ => .error "invalid parent response fields"

def toDict (response : ParentModelResponse) : Json :=
  .obj [("schema_version", response.schemaVersion), ("protocol", .str response.protocol),
    ("skill_text", .str response.skillText), ("prompt_template", .str response.promptTemplate),
    ("eval_note", .str response.evalNote), ("usage", .obj response.usage)]

def sha256 (response : ParentModelResponse) : String := response.toDict.contentSha256

end ParentModelResponse

end JlensEvolve.SkillLoop
