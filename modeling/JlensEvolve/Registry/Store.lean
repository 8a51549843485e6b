import JlensEvolve.Governance.Decisions

/-!
`registry/store.py`: the append-only registry with its lease, the four record
types it is used at, and the authority checks of the capability and the rejected
registry in front of it. The decision log a registry was given is read as it
stands when the append is called.
-/

namespace JlensEvolve.Registry

open Library Contracts Governance

abbrev RegistryM := EStateM RegistryError AppendLog

/-- A flag that is false when absent. -/
def flagField (fields : List (String × Json)) (key : String) : Option Bool :=
  match Json.field? fields key with
  | none => some false
  | some (.bool value) => some value
  | some _ => none

/-- What the registry needs to know of a record type: its key, its fields as
written, and the constructor call on the fields read back. -/
structure RecordType (ρ : Type) where
  key : ρ → String × String
  fields : ρ → List (String × Json)
  decode : List (String × Json) → Option ρ
  /-- A line without `promotion_decision_id` may carry the digest of its raw
  payload. -/
  legacyWithoutDecision : Bool

/-- `_AppendOnlyRegistry`; the file behind the path is the state of the
programs below. -/
structure AppendOnlyRegistry (ρ : Type) where
  recordType : RecordType ρ
  path : String

section AppendOnly

variable {ρ : Type} (registry : AppendOnlyRegistry ρ)

def AppendOnlyRegistry.contentSha256 (record : ρ) : String :=
  (Json.obj (registry.recordType.fields record)).contentSha256

/-- One turn of the loop of `_read`. -/
def AppendOnlyRegistry.readLine (lineNumber : Nat) (line : Option Json) :
    Except RegistryError ρ :=
  let path := registry.path
  match line with
  | some (.obj stored) =>
    let payload := stored.filter (·.1 ≠ "record_sha256")
    match Json.field? stored "record_sha256", registry.recordType.decode payload with
    | some expected, some record => do
        require (expected = .str (registry.contentSha256 record) ∨
            (registry.recordType.legacyWithoutDecision = true ∧
              Json.field? payload "promotion_decision_id" = none ∧
              expected = .str (Json.obj payload).contentSha256))
          (.violation s!"registry hash mismatch at {path}:{lineNumber}")
        return record
    | _, _ => .error (.violation s!"invalid registry entry at {path}:{lineNumber}")
  | _ => .error (.violation s!"invalid registry entry at {path}:{lineNumber}")

/-- `_read`. -/
def AppendOnlyRegistry.readLines :
    Nat → List (Option Json) → Except RegistryError (List ρ)
  | _, [] => .ok []
  | lineNumber, line :: rest => do
      let record ← registry.readLine lineNumber line
      let others ← AppendOnlyRegistry.readLines (lineNumber + 1) rest
      return record :: others

def reprKey (key : String × String) : String :=
  "(" ++ reprText key.1 ++ ", " ++ reprText key.2 ++ ")"

variable [DecidableEq ρ]

/-- Whether an equal record is stored under the key. Of two records with one
key `_by_key` keeps the later. -/
def AppendOnlyRegistry.alreadyStored (record : ρ) : RegistryM Bool := do
  let key := registry.recordType.key record
  let records ← check (registry.readLines 1 (← get).lines)
  match records.reverse.find? (fun item => registry.recordType.key item = key) with
  | some existing =>
    if existing = record then return true
    else throw (.conflict ("conflicting immutable revision " ++ reprKey key))
  | none => return false

/-- The object a record is written as. -/
def AppendOnlyRegistry.payload (record : ρ) : Json :=
  .obj (registry.recordType.fields record ++
    [("record_sha256", .str (registry.contentSha256 record))])

def AppendOnlyRegistry.append (record : ρ) : RegistryM Bool := do
  if ← registry.alreadyStored record then return false
  AppendLog.underLease (.busy ("writer lease already held for " ++ registry.path)) do
    if ← registry.alreadyStored record then return false
    modify fun file => file.append (registry.payload record)
    return true

end AppendOnly

def nullableTextField (fields : List (String × Json)) (key : String) : Option (Option String) :=
  match Json.field? fields key with
  | some (.str value) => some (some value)
  | some .null => some none
  | _ => none

/-- The constructor takes no other keyword. -/
def onlyFields (names : List String) (fields : List (String × Json)) : Bool :=
  fields.all (fun field => field.1 ∈ names)

/-- `CandidateRecord(**payload)`. -/
def CandidateRecord.decode (fields : List (String × Json)) : Option CandidateRecord := do
  let candidateId ← textField fields "candidate_id"
  let revisionId ← textField fields "revision_id"
  let candidateKind ← textField fields "candidate_kind"
  let sourceClaimIds ← textListField fields "source_claim_ids"
  let artifactSha256 ← textField fields "artifact_sha256"
  let active ← flagField fields "active"
  guard (onlyFields ["candidate_id", "revision_id", "candidate_kind", "source_claim_ids",
    "artifact_sha256", "active"] fields = true)
  (CandidateRecord.construct candidateId revisionId candidateKind sourceClaimIds artifactSha256
    active).toOption

/-- `CapabilityRecord(**payload)`. -/
def CapabilityRecord.decode (fields : List (String × Json)) : Option CapabilityRecord := do
  let capabilityId ← textField fields "capability_id"
  let revisionId ← textField fields "revision_id"
  let capabilityKind ← textField fields "capability_kind"
  let evidenceClaimIds ← textListField fields "evidence_claim_ids"
  let artifactSha256 ← textField fields "artifact_sha256"
  let promotionDecisionId ← optionalTextField fields "promotion_decision_id"
  let sourceCandidateId ← optionalTextField fields "source_candidate_id"
  let active ← flagField fields "active"
  guard (fields.all (fun field => field.1 ∈ ["capability_id", "revision_id", "capability_kind",
    "evidence_claim_ids", "artifact_sha256", "promotion_decision_id", "source_candidate_id",
    "active"]) = true)
  (CapabilityRecord.construct capabilityId revisionId capabilityKind evidenceClaimIds artifactSha256
    promotionDecisionId sourceCandidateId active).toOption

def capabilityType : RecordType CapabilityRecord :=
  { key := CapabilityRecord.key
    fields := CapabilityRecord.fields
    decode := CapabilityRecord.decode
    legacyWithoutDecision := true }

/-- `RejectedRecord(**payload)`. -/
def RejectedRecord.decode (fields : List (String × Json)) : Option RejectedRecord := do
  let candidateId ← textField fields "candidate_id"
  let revisionId ← textField fields "revision_id"
  let candidateKind ← textField fields "candidate_kind"
  let evidenceClaimIds ← textListField fields "evidence_claim_ids"
  let promotionDecisionId ← textField fields "promotion_decision_id"
  let reason ← textField fields "reason"
  let artifactSha256 ← textField fields "artifact_sha256"
  let active ← flagField fields "active"
  guard (onlyFields ["candidate_id", "revision_id", "candidate_kind", "evidence_claim_ids",
    "promotion_decision_id", "reason", "artifact_sha256", "active"] fields = true)
  (RejectedRecord.construct candidateId revisionId candidateKind evidenceClaimIds
    promotionDecisionId reason artifactSha256 active).toOption

/-- `AgentProgramRecord(**payload)`. -/
def AgentProgramRecord.decode (fields : List (String × Json)) : Option AgentProgramRecord := do
  let programId ← textField fields "program_id"
  let revisionId ← textField fields "revision_id"
  let parentRevisionId ← nullableTextField fields "parent_revision_id"
  let capabilityRevisionIds ← textListField fields "capability_revision_ids"
  let artifactSha256 ← textField fields "artifact_sha256"
  let active ← flagField fields "active"
  guard (onlyFields ["program_id", "revision_id", "parent_revision_id",
    "capability_revision_ids", "artifact_sha256", "active"] fields = true)
  (AgentProgramRecord.construct programId revisionId parentRevisionId capabilityRevisionIds
    artifactSha256 active).toOption

def candidateType : RecordType CandidateRecord :=
  { key := CandidateRecord.key
    fields := CandidateRecord.fields
    decode := CandidateRecord.decode
    legacyWithoutDecision := false }

def rejectedType : RecordType RejectedRecord :=
  { key := RejectedRecord.key
    fields := RejectedRecord.fields
    decode := RejectedRecord.decode
    legacyWithoutDecision := false }

def agentProgramType : RecordType AgentProgramRecord :=
  { key := AgentProgramRecord.key
    fields := AgentProgramRecord.fields
    decode := AgentProgramRecord.decode
    legacyWithoutDecision := false }

/-- What a registry may have been given as its decision log: nothing, an object
that is no `PromotionDecisionLog`, or one. -/
inductive DecisionReader where
  | absent
  | otherType
  | promotionLog (log : PromotionDecisionLog)

structure CapabilityRegistry where
  path : String
  decisionLog : DecisionReader

def CapabilityRegistry.store (registry : CapabilityRegistry) :
    AppendOnlyRegistry CapabilityRecord :=
  ⟨capabilityType, registry.path⟩

def approvedDecisionFor (reader : DecisionReader) (decisionLines : List (Option Json))
    (decisionId : String) : Except RegistryError PromotionDecision :=
  match reader with
  | .promotionLog log =>
    match log.verifiedApproved decisionLines decisionId with
    | .ok decision => .ok decision
    | .error _ =>
      .error (.violation "capability promotion decision authority verification failed")
  | _ => .error (.violation "capability registry requires authoritative promotion decision log")

/-- What the append compares between the decision and the record. -/
structure DecisionMatches (decision : PromotionDecision) (record : CapabilityRecord) : Prop where
  approved : decision.gateDecision.text = "approved"
  grade : decision.evidenceGrade = .E3
  predictionEvidence : decision.predictionEvidenceIds ≠ []
  humanApproval : truthy decision.humanApproval = true
  candidate : record.sourceCandidateId = some decision.candidateId
  revision : decision.candidateRevisionId = record.revisionId
  claims : sameSet decision.claimIds record.evidenceClaimIds

instance (decision : PromotionDecision) (record : CapabilityRecord) :
    Decidable (DecisionMatches decision record) :=
  decidable_of_iff (decision.gateDecision.text = "approved" ∧ decision.evidenceGrade = .E3 ∧
      decision.predictionEvidenceIds ≠ [] ∧ truthy decision.humanApproval = true ∧
      record.sourceCandidateId = some decision.candidateId ∧
      decision.candidateRevisionId = record.revisionId ∧
      sameSet decision.claimIds record.evidenceClaimIds)
    ⟨fun ⟨h₁, h₂, h₃, h₄, h₅, h₆, h₇⟩ => ⟨h₁, h₂, h₃, h₄, h₅, h₆, h₇⟩,
      fun h => ⟨h.1, h.2, h.3, h.4, h.5, h.6, h.7⟩⟩

def CapabilityRegistry.append (registry : CapabilityRegistry)
    (decisionLines : List (Option Json)) (record : CapabilityRecord) : RegistryM Bool := do
  match record.promotionDecisionId, record.sourceCandidateId with
  | some decisionId, some _ => do
      let decision ← check (approvedDecisionFor registry.decisionLog decisionLines decisionId)
      check (require (DecisionMatches decision record)
        (.violation "capability promotion decision identity mismatch"))
      registry.store.append record
  | _, _ =>
    throw (.violation "authoritative capability writes require promotion decision identity")

def CandidateRegistry.store (path : String) : AppendOnlyRegistry CandidateRecord :=
  ⟨candidateType, path⟩

def RejectedRegistry.store (path : String) : AppendOnlyRegistry RejectedRecord :=
  ⟨rejectedType, path⟩

def AgentProgramRegistry.store (path : String) : AppendOnlyRegistry AgentProgramRecord :=
  ⟨agentProgramType, path⟩

end JlensEvolve.Registry
