import JlensEvolve.Evidence.GradeMachine
import JlensEvolve.Governance.Decisions

/-!
`GovernanceService` of `governance/__init__.py`: the gates of a decision and the
capability record an approved decision is turned into.
-/

namespace JlensEvolve.Governance

open Library Contracts Evidence Registry

structure GovernanceService where
  authority : Option GovernanceDecisionAuthority

def contractIf (condition : Prop) [Decidable condition] (message : String) :
    Except GovernanceError Unit :=
  require (¬ condition) (.contractViolation message)

def evaluate (candidateId : String) (rows : List Claim) (candidateActive humanApproval : Bool)
    (evidenceGrade : Option ClaimGrade) : Except GovernanceError GateDecision := do
  contractIf (isText candidateId = false) "candidate_id must be non-empty"
  contractIf (candidateActive = true) "candidates must enter governance inactive"
  contractIf (rows = [] ∨ ∃ row ∈ rows, row.candidateId ≠ candidateId)
    "claims must match the candidate"
  if ∃ row ∈ rows, row.classification = .infraFailure then return .blocked
  if ∃ row ∈ rows, row.classification = .regression then return .rejected
  if ∃ row ∈ rows, row.classification = .neutral then return .noChange
  if ¬ ∀ row ∈ rows, row.classification = .gain then return .rejected
  -- a supplied aggregate grade replaces what the claims say of themselves
  let highest := match evidenceGrade with
    | some grade => grade.rank
    | none => (rows.map (fun row => row.grade.rank)).foldl max 0
  if humanApproval = false ∨ highest < ClaimGrade.E3.rank then return .humanApprovalRequired
  return .approved

/-- The conditions an E3 state has to meet. -/
def e3GatesMet (evidence : CandidateEvidenceState) : Bool :=
  evidence.e3Eligible && decide (3 ≤ evidence.taskCount) && decide (2 ≤ evidence.projectCount) &&
    decide (2 ≤ evidence.gainCount) && decide (evidence.regressionCount = 0) &&
    decide (evidence.infraFailureCount = 0) &&
    decide (evidence.predictionConsistentTaskCount = evidence.taskCount) &&
    decide (evidence.taskCount * 2 ≤ evidence.predictionEvidenceIds.length) &&
    evidence.mechanismId.any (· ≠ "")

def validateEvidenceState (evidence : CandidateEvidenceState) (claims : List Claim) :
    Except GovernanceError Unit := do
  contractIf (evidence.taskCount ≠ claims.length ∨
      evidence.gainCount ≠ countOf claims .gain ∨
      evidence.neutralCount ≠ countOf claims .neutral ∨
      evidence.regressionCount ≠ countOf claims .regression ∨
      evidence.infraFailureCount ≠ countOf claims .infraFailure)
    "aggregate evidence classification counts mismatch"
  contractIf (evidence.infraFailureCount ≠ 0 ∧ evidence.grade ≠ .E1)
    "infrastructure evidence cannot exceed E1"
  contractIf (evidence.grade = .E3 ∧ e3GatesMet evidence = false)
    "E3 evidence does not satisfy mechanism replay gates"

def evidenceStateJson (evidence : CandidateEvidenceState) : Json :=
  .obj [("candidate_id", .str evidence.candidateId), ("grade", .str evidence.grade.text),
    ("classification", .str evidence.classification),
    ("claim_ids", .arr (evidence.claimIds.map .str)),
    ("task_revision_ids", .arr (evidence.taskRevisionIds.map .str)),
    ("task_count", .int evidence.taskCount), ("project_count", .int evidence.projectCount),
    ("gain_count", .int evidence.gainCount), ("neutral_count", .int evidence.neutralCount),
    ("regression_count", .int evidence.regressionCount),
    ("infra_failure_count", .int evidence.infraFailureCount),
    ("mechanism_id", optionText evidence.mechanismId),
    ("prediction_consistent_task_count", .int evidence.predictionConsistentTaskCount),
    ("prediction_evidence_ids", .arr (evidence.predictionEvidenceIds.map .str)),
    ("e3_eligible", .bool evidence.e3Eligible), ("rationale", .str evidence.rationale)]

def sortedTexts (texts : List String) : List String := texts.insertionSort (· ≤ ·)

/-- The decision `decide` builds once the gate is known, before it is signed. -/
def GovernanceService.draft (service : GovernanceService) (candidate : CandidateRecord)
    (evidence : CandidateEvidenceState) (claimIds : List String) (gate : GateDecision)
    (humanApproval : Bool) (decidedAt : String) : PromotionDecision :=
  let rationale := gate.text ++ ": " ++ evidence.rationale
  let evidenceStateSha256 := (evidenceStateJson evidence).contentSha256
  let authorityKeyId := service.authority.map GovernanceDecisionAuthority.keyId
  let identityPayload : Json :=
    .obj [("candidate_id", .str candidate.candidateId),
      ("candidate_revision_id", .str candidate.revisionId), ("gate_decision", .str gate.text),
      ("evidence_grade", .str evidence.grade.text), ("claim_ids", .arr (claimIds.map .str)),
      ("prediction_evidence_ids", .arr (evidence.predictionEvidenceIds.map .str)),
      ("human_approval", .bool humanApproval), ("decided_at", .str decidedAt),
      ("rationale", .str rationale), ("evidence_state_sha256", .str evidenceStateSha256),
      ("authority_key_id", optionText authorityKeyId)]
  { decisionId := decisionIdentity identityPayload
    candidateId := candidate.candidateId
    candidateRevisionId := candidate.revisionId
    gateDecision := .member gate
    evidenceGrade := evidence.grade
    claimIds := claimIds
    predictionEvidenceIds := evidence.predictionEvidenceIds
    humanApproval := .bool humanApproval
    decidedAt := decidedAt
    rationale := rationale
    evidenceStateSha256 := some evidenceStateSha256
    authorityKeyId := authorityKeyId
    authoritySignatureHmacSha256 := none }

/-- The part of `decide` before the log is touched. -/
def GovernanceService.decision (service : GovernanceService) (candidate : CandidateRecord)
    (evidence : CandidateEvidenceState) (rows : List Claim) (humanApproval : Bool)
    (decidedAt : String) : Except GovernanceError PromotionDecision := do
  let claimIds := sortedTexts (rows.map Claim.claimId)
  contractIf (evidence.candidateId ≠ candidate.candidateId)
    "aggregate evidence candidate identity mismatch"
  contractIf (claimIds ≠ sortedTexts evidence.claimIds) "aggregate evidence claim identity mismatch"
  contractIf (¬ sameSet candidate.sourceClaimIds claimIds)
    "candidate source claims do not match governance"
  validateEvidenceState evidence rows
  let gate ← evaluate candidate.candidateId rows candidate.active humanApproval
    (some evidence.grade)
  let decision := service.draft candidate evidence claimIds gate humanApproval decidedAt
  decision.postInit
  if gate = .approved then
    match service.authority with
    | none => .error (.contractViolation
        "approved decisions require configured governance authority")
    | some authority => return authority.sign decision
  else return decision

def GovernanceService.decide (service : GovernanceService) (candidate : CandidateRecord)
    (evidence : CandidateEvidenceState) (rows : List Claim) (humanApproval : Bool)
    (decidedAt : String) (log : PromotionDecisionLog) : LogM PromotionDecision := do
  let decision ← check (service.decision candidate evidence rows humanApproval decidedAt)
  let _ ← log.append decision
  return decision

def toCapability (candidate : CandidateRecord) (decision : PromotionDecision)
    (capabilityId : String) : Except GovernanceError CapabilityRecord := do
  contractIf (decision.candidateId ≠ candidate.candidateId ∨
      decision.candidateRevisionId ≠ candidate.revisionId ∨
      ¬ sameSet decision.claimIds candidate.sourceClaimIds)
    "promotion decision candidate identity mismatch"
  contractIf (decision.gateDecision ≠ .member .approved)
    "only approved decisions create capabilities"
  (CapabilityRecord.construct capabilityId candidate.revisionId candidate.candidateKind
    decision.claimIds candidate.artifactSha256 (some decision.decisionId)
    (some candidate.candidateId) false).mapError .registry

end JlensEvolve.Governance
