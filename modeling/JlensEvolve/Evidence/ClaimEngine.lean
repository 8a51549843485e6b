import JlensEvolve.Evidence.EvidenceGraph

/-!
`ClaimEngine.classify_pair` and `EvidenceGraph.append_claim`: how a claim about
two native rows is classified, bound to a counterfactual pair and appended. A
call that raises leaves the graph as it was, so a call is a function to the
graph after it. A missing key of a payload is reported like a contract
violation that names the key.
-/

namespace JlensEvolve.Evidence

open Library Contracts

/-- `ReceiptObserver.observe`: a key of the receipt's payload wins over the
projected field of that name. -/
def observedPayload (receipt : Receipt) : List (String × Json) :=
  let projected : List (String × Json) := [("campaign_id", .str receipt.campaignId),
    ("plan_id", .str receipt.planId), ("receipt_kind", .str receipt.kind)]
  projected.map (fun field => (field.1, (Json.field? receipt.payload field.1).getD field.2)) ++
    receipt.payload.filter (fun field => field.1 ∉ projected.map Prod.fst)

/-- The envelope is what the observer made of a receipt of the kind it reads;
the id it was given does not matter here. -/
structure ObservedFrom (observerId kind : String) (receipt : Receipt)
    (envelope : EvidenceEnvelope) : Prop where
  kind : receipt.kind = kind
  receiptIds : envelope.receiptIds = [receipt.receiptId]
  observerId : envelope.observerId = observerId
  payload : envelope.payload = observedPayload receipt
  artifact : envelope.artifactSha256 = receipt.artifactSha256

structure MatchedNativePair where
  baseline : EvidenceEnvelope
  taught : EvidenceEnvelope
  matchedIdentity : List (String × Json)

/-- `payload[key]`. -/
def payloadAt (payload : List (String × Json)) (key : String) : Checked Json :=
  match Json.field? payload key with
  | some value => .ok value
  | none => violation key

/-- An absent digest passes. -/
def requireOptionalSha256 (name : String) : Option String → Checked Unit
  | some sha256 => requireSha256 name sha256
  | none => .ok ()

/-- `Claim(...)`, outside a legacy read. -/
def constructClaim (claim : Claim) : Checked Claim := do
  requireText "claim_id" claim.claimId
  requireText "candidate_id" claim.candidateId
  requireText "rationale" claim.rationale
  requireContract (claim.evidenceIds ≠ []) "claim must reference evidence"
  requireOptionalSha256 "counterfactual_pair_sha256" claim.counterfactualPairSha256
  let _ ← claim.counterfactualReceiptIds.mapM (requireText "counterfactual receipt id")
  if 2 ≤ claim.grade.rank then
    requireContract (claim.counterfactualPairSha256 ≠ none)
      "E2/E3 claim requires complete counterfactual lineage"
    requireContract (claim.evidenceIds.length = 4 ∧ claim.counterfactualReceiptIds.length = 6)
      "E2/E3 claim requires all counterfactual evidence and receipts"
  return claim

def evidenceById (evidence : List EvidenceEnvelope) (id : String) : Option EvidenceEnvelope :=
  evidence.find? (fun row => row.evidenceId = id)

/-- The evidence rows a pair names, each with its content digest, receipt and
artifact. -/
def MatchedCounterfactualPair.expectedRows (pair : MatchedCounterfactualPair) :
    List (String × String × String × String) :=
  [(pair.baseline.externalTraceEvidenceId, pair.baseline.externalTraceEvidenceSha256,
      pair.baseline.externalTraceReceiptId, pair.baseline.externalTraceArtifactSha256),
    (pair.baseline.nativeOutcomeEvidenceId, pair.baseline.nativeOutcomeEvidenceSha256,
      pair.baseline.nativeOutcomeReceiptId, pair.baseline.nativeOutcomeArtifactSha256),
    (pair.taught.externalTraceEvidenceId, pair.taught.externalTraceEvidenceSha256,
      pair.taught.externalTraceReceiptId, pair.taught.externalTraceArtifactSha256),
    (pair.taught.nativeOutcomeEvidenceId, pair.taught.nativeOutcomeEvidenceSha256,
      pair.taught.nativeOutcomeReceiptId, pair.taught.nativeOutcomeArtifactSha256)]

def validateAppendedCounterfactual (claim : Claim) (pair : MatchedCounterfactualPair)
    (evidence : List EvidenceEnvelope) : Checked Unit := do
  require (pair.candidateId = claim.candidateId ∧
      some pair.contentSha256 = claim.counterfactualPairSha256 ∧
      pair.evidenceIds = claim.evidenceIds ∧ pair.receiptIds = claim.counterfactualReceiptIds)
    (.integrity "claim does not bind the supplied counterfactual pair")
  require (∀ row ∈ pair.expectedRows,
      (evidenceById evidence row.1).map EvidenceEnvelope.contentSha256 = some row.2.1)
    (.integrity "counterfactual pair evidence is not frozen in graph")

/-- The grade of a claim decides whether its pair is looked at. -/
def EvidenceGraph.checkNewBinding (graph : EvidenceGraph) (claim : Claim)
    (counterfactualPair : Option MatchedCounterfactualPair) : Checked Unit :=
  if 2 ≤ claim.grade.rank then
    match counterfactualPair with
    | none => .error (.integrity "new E2/E3 claim requires the complete counterfactual pair")
    | some pair => do
        let evidence ← graph.listEvidence
        validateAppendedCounterfactual claim pair evidence
  else .ok ()

/-- A superseded claim exists and is about the same candidate. -/
def checkSupersession (existing : List Claim) (claim : Claim) : Checked Unit :=
  match claim.supersedesClaimId with
  | none => .ok ()
  | some supersedes =>
    match existing.find? (fun item => item.claimId = supersedes) with
    | none => .error (.integrity s!"superseded claim does not exist: {supersedes}")
    | some prior =>
      require (prior.candidateId = claim.candidateId)
        (.integrity "a claim can only supersede the same candidate")

/-- `append_claim`, which writes every field of the claim. -/
def EvidenceGraph.appendClaim (graph : EvidenceGraph) (claim : Claim)
    (counterfactualPair : Option MatchedCounterfactualPair) : Checked EvidenceGraph := do
  let existing ← graph.listClaims
  graph.checkNewBinding claim counterfactualPair
  checkSupersession existing claim
  match existing.find? (fun item => item.claimId = claim.claimId) with
  | some prior =>
    require (prior = claim)
      (.receiptConflict ("immutable record conflict: " ++ claim.claimId))
    return graph
  | none =>
    return { graph with
      claimLines := graph.claimLines ++ [.record ⟨claim, true⟩ claim.contentSha256] }

/-- The field of a pair that native alignment speaks of. -/
def MatchedCounterfactualPair.attribute (pair : MatchedCounterfactualPair) :
    String → Option String
  | "task_revision_id" => some pair.taskRevisionId
  | "task_source_sha256" => some pair.taskSourceSha256
  | "model_identity" => some pair.modelIdentity
  | "native_evaluator_id" => some pair.nativeEvaluatorId
  | "execution_config_sha256" => some pair.executionConfigSha256
  | _ => none

def validateCounterfactualBinding (candidateId : String) (nativePair : MatchedNativePair)
    (pair : MatchedCounterfactualPair) : Checked Unit := do
  requireContract (pair.candidateId = candidateId)
    "counterfactual candidate does not match claim"
  requireContract (pair.baseline.nativeOutcomeEvidenceId = nativePair.baseline.evidenceId ∧
      pair.taught.nativeOutcomeEvidenceId = nativePair.taught.evidenceId)
    "counterfactual native evidence does not match pair"
  let _ ← nativePair.matchedIdentity.mapM fun field =>
    requireContract ((pair.attribute field.1).map Json.str = some field.2)
      ("counterfactual " ++ field.1 ++ " does not match native alignment")

def validateGraphBinding (evidence : List EvidenceEnvelope) (pair : MatchedCounterfactualPair) :
    Checked Unit := do
  let _ ← pair.expectedRows.mapM fun row =>
    requireContract ((evidenceById evidence row.1).any (fun envelope =>
        envelope.contentSha256 = row.2.1 ∧ envelope.receiptIds = [row.2.2.1] ∧
          envelope.artifactSha256 = row.2.2.2) = true)
      ("counterfactual evidence " ++ row.1 ++ " is not frozen in EvidenceGraph")

/-- `_classify_outcomes`. -/
def outcomeRationale (baselineResolved taughtResolved : Bool) : String :=
  if !baselineResolved && taughtResolved then "baseline failed and taught resolved"
  else if baselineResolved && !taughtResolved then "baseline resolved and taught failed"
  else if baselineResolved then "baseline and taught both resolved"
  else "baseline and taught both failed"

/-- The evaluator errors of two native payloads that are not empty. -/
def evaluatorErrors (baseline taught : Json) : List Json :=
  [baseline, taught].filter (fun value => value ≠ .null ∧ value ≠ .str "")

def classifyNative (pair : MatchedNativePair) : Checked (ClaimClassification × String) := do
  let baselineError ← payloadAt pair.baseline.payload "evaluator_error"
  let taughtError ← payloadAt pair.taught.payload "evaluator_error"
  let errors := evaluatorErrors baselineError taughtError
  if errors ≠ [] then
    return (.infraFailure, "native evaluator infrastructure error: " ++
      String.intercalate "; " (errors.map pyStr))
  let baselineResolved ← payloadAt pair.baseline.payload "resolved"
  let taughtResolved ← payloadAt pair.taught.payload "resolved"
  match baselineResolved, taughtResolved with
  | .bool baseline, .bool taught =>
    return (expectedClassification baseline taught, outcomeRationale baseline taught)
  | _, _ => violation "native resolved fields must be booleans when evaluator_error is empty"

/-- The claim `classify_pair` constructs. A pair that comes with an
infrastructure failure is bound to the claim all the same. -/
def claimFor (candidateId : String) (nativePair : MatchedNativePair)
    (classification : ClaimClassification) (rationale : String)
    (counterfactualPair : Option MatchedCounterfactualPair) (supersedesId : Option String) :
    Claim :=
  let evidenceIds := match counterfactualPair with
    | some pair => pair.evidenceIds
    | none => [nativePair.baseline.evidenceId, nativePair.taught.evidenceId]
  let pairSha256 := counterfactualPair.map MatchedCounterfactualPair.contentSha256
  let identity := (Json.obj [("candidate_id", .str candidateId),
    ("classification", .str classification.text), ("evidence_ids", .arr (evidenceIds.map .str)),
    ("counterfactual_pair_sha256", optionText pairSha256),
    ("supersedes_claim_id", optionText supersedesId)]).contentSha256
  { claimId := "claim-" ++ identity
    candidateId := candidateId
    grade := if counterfactualPair.isSome ∧ classification ≠ .infraFailure then .E2 else .E1
    classification := classification
    evidenceIds := evidenceIds
    rationale := rationale
    supersedesClaimId := supersedesId
    counterfactualPairSha256 := pairSha256
    counterfactualReceiptIds := (counterfactualPair.map MatchedCounterfactualPair.receiptIds).getD [] }

/-- The checks of a pair, which an infrastructure failure skips. -/
def validateClassifiedPair (graph : EvidenceGraph) (candidateId : String)
    (nativePair : MatchedNativePair) (classification : ClaimClassification) :
    Option MatchedCounterfactualPair → Checked Unit
  | none => .ok ()
  | some pair =>
    if classification ≠ .infraFailure then do
      validateCounterfactualBinding candidateId nativePair pair
      let evidence ← graph.listEvidence
      validateGraphBinding evidence pair
    else .ok ()

/-- `ClaimEngine.classify_pair`: the claim and the graph after it. -/
def classifyPair (graph : EvidenceGraph) (candidateId : String) (nativePair : MatchedNativePair)
    (counterfactualPair : Option MatchedCounterfactualPair) (supersedes : Option Claim) :
    Checked (Claim × EvidenceGraph) := do
  let outcome ← classifyNative nativePair
  validateClassifiedPair graph candidateId nativePair outcome.1 counterfactualPair
  let claim ← constructClaim (claimFor candidateId nativePair outcome.1 outcome.2
    counterfactualPair (supersedes.map Claim.claimId))
  let after ← graph.appendClaim claim counterfactualPair
  return (claim, after)

end JlensEvolve.Evidence
