import JlensEvolve.Contracts
import JlensEvolve.Library.Effect

/-!
`registry/records.py`: the four record types of the registries. A value of such
a type has passed its constructor, whose checks are a field.
-/

namespace JlensEvolve.Registry

open Library Contracts

inductive RegistryError where
  | violation (message : String)
  | conflict (message : String)
  | busy (message : String)
deriving DecidableEq, Repr

def validateRecord (identity : List String) (artifactSha256 : String) (active : Bool) :
    Except RegistryError Unit := do
  require (identity.all isText = true) (.violation "registry identities must be non-empty text")
  require (isSha256 artifactSha256 = true)
    (.violation "artifact_sha256 must be a literal lowercase SHA-256")
  require (active = false) (.violation "new registry revisions must be inactive")

/-- `CandidateRecord.__post_init__`. -/
def validateCandidate (candidateId revisionId candidateKind : String)
    (sourceClaimIds : List String) (artifactSha256 : String) (active : Bool) :
    Except RegistryError Unit := do
  validateRecord [candidateId, revisionId, candidateKind] artifactSha256 active
  require (sourceClaimIds ≠ [])
    (.violation "candidate must reference at least one source claim")

structure CandidateRecord where
  candidateId : String
  revisionId : String
  candidateKind : String
  sourceClaimIds : List String
  artifactSha256 : String
  active : Bool
  valid : validateCandidate candidateId revisionId candidateKind sourceClaimIds artifactSha256
    active = .ok ()
deriving DecidableEq

def CandidateRecord.construct (candidateId revisionId candidateKind : String)
    (sourceClaimIds : List String) (artifactSha256 : String) (active : Bool) :
    Except RegistryError CandidateRecord :=
  match valid : validateCandidate candidateId revisionId candidateKind sourceClaimIds
      artifactSha256 active with
  | .ok () => .ok ⟨candidateId, revisionId, candidateKind, sourceClaimIds, artifactSha256, active,
      valid⟩
  | .error e => .error e

theorem CandidateRecord.construct_fields (record : CandidateRecord) :
    construct record.candidateId record.revisionId record.candidateKind record.sourceClaimIds
      record.artifactSha256 record.active = .ok record := by
  unfold construct
  split
  · rfl
  · rename_i e he
    rw [record.valid] at he
    cases he

def CandidateRecord.key (record : CandidateRecord) : String × String :=
  (record.candidateId, record.revisionId)

def CandidateRecord.fields (record : CandidateRecord) : List (String × Json) :=
  [("candidate_id", .str record.candidateId), ("revision_id", .str record.revisionId),
    ("candidate_kind", .str record.candidateKind),
    ("source_claim_ids", .arr (record.sourceClaimIds.map .str)),
    ("artifact_sha256", .str record.artifactSha256), ("active", .bool record.active)]

/-- `CapabilityRecord.__post_init__`. -/
def validateCapability (capabilityId revisionId capabilityKind : String)
    (evidenceClaimIds : List String) (artifactSha256 : String)
    (promotionDecisionId sourceCandidateId : Option String) (active : Bool) :
    Except RegistryError Unit := do
  validateRecord [capabilityId, revisionId, capabilityKind] artifactSha256 active
  require (evidenceClaimIds ≠ []) (.violation "capability must reference evidence claims")
  require (promotionDecisionId.all isText = true)
    (.violation "promotion_decision_id must be non-empty")
  require (sourceCandidateId.all isText = true)
    (.violation "source_candidate_id must be non-empty")

structure CapabilityRecord where
  capabilityId : String
  revisionId : String
  capabilityKind : String
  evidenceClaimIds : List String
  artifactSha256 : String
  promotionDecisionId : Option String
  sourceCandidateId : Option String
  active : Bool
  valid : validateCapability capabilityId revisionId capabilityKind evidenceClaimIds artifactSha256
    promotionDecisionId sourceCandidateId active = .ok ()
deriving DecidableEq

def CapabilityRecord.construct (capabilityId revisionId capabilityKind : String)
    (evidenceClaimIds : List String) (artifactSha256 : String)
    (promotionDecisionId sourceCandidateId : Option String) (active : Bool) :
    Except RegistryError CapabilityRecord :=
  match valid : validateCapability capabilityId revisionId capabilityKind evidenceClaimIds
      artifactSha256 promotionDecisionId sourceCandidateId active with
  | .ok () => .ok ⟨capabilityId, revisionId, capabilityKind, evidenceClaimIds, artifactSha256,
      promotionDecisionId, sourceCandidateId, active, valid⟩
  | .error e => .error e

theorem CapabilityRecord.construct_fields (record : CapabilityRecord) :
    construct record.capabilityId record.revisionId record.capabilityKind record.evidenceClaimIds
      record.artifactSha256 record.promotionDecisionId record.sourceCandidateId record.active =
        .ok record := by
  unfold construct
  split
  · rfl
  · rename_i e he
    rw [record.valid] at he
    cases he

def CapabilityRecord.key (record : CapabilityRecord) : String × String :=
  (record.capabilityId, record.revisionId)

def CapabilityRecord.fields (record : CapabilityRecord) : List (String × Json) :=
  [("capability_id", .str record.capabilityId), ("revision_id", .str record.revisionId),
    ("capability_kind", .str record.capabilityKind),
    ("evidence_claim_ids", .arr (record.evidenceClaimIds.map .str)),
    ("artifact_sha256", .str record.artifactSha256),
    ("promotion_decision_id", optionText record.promotionDecisionId),
    ("source_candidate_id", optionText record.sourceCandidateId),
    ("active", .bool record.active)]

/-- `RejectedRecord.__post_init__`. -/
def validateRejected (candidateId revisionId candidateKind : String)
    (evidenceClaimIds : List String) (promotionDecisionId reason artifactSha256 : String)
    (active : Bool) : Except RegistryError Unit := do
  validateRecord [candidateId, revisionId, candidateKind] artifactSha256 active
  require (evidenceClaimIds ≠ []) (.violation "rejected candidate must reference evidence claims")
  require (isText promotionDecisionId = true ∧ isText reason = true)
    (.violation "rejection must reference a decision and reason")

structure RejectedRecord where
  candidateId : String
  revisionId : String
  candidateKind : String
  evidenceClaimIds : List String
  promotionDecisionId : String
  reason : String
  artifactSha256 : String
  active : Bool
  valid : validateRejected candidateId revisionId candidateKind evidenceClaimIds
    promotionDecisionId reason artifactSha256 active = .ok ()
deriving DecidableEq

def RejectedRecord.construct (candidateId revisionId candidateKind : String)
    (evidenceClaimIds : List String) (promotionDecisionId reason artifactSha256 : String)
    (active : Bool) : Except RegistryError RejectedRecord :=
  match valid : validateRejected candidateId revisionId candidateKind evidenceClaimIds
      promotionDecisionId reason artifactSha256 active with
  | .ok () => .ok ⟨candidateId, revisionId, candidateKind, evidenceClaimIds, promotionDecisionId,
      reason, artifactSha256, active, valid⟩
  | .error e => .error e

theorem RejectedRecord.construct_fields (record : RejectedRecord) :
    construct record.candidateId record.revisionId record.candidateKind record.evidenceClaimIds
      record.promotionDecisionId record.reason record.artifactSha256 record.active =
        .ok record := by
  unfold construct
  split
  · rfl
  · rename_i e he
    rw [record.valid] at he
    cases he

def RejectedRecord.key (record : RejectedRecord) : String × String :=
  (record.candidateId, record.revisionId)

def RejectedRecord.fields (record : RejectedRecord) : List (String × Json) :=
  [("candidate_id", .str record.candidateId), ("revision_id", .str record.revisionId),
    ("candidate_kind", .str record.candidateKind),
    ("evidence_claim_ids", .arr (record.evidenceClaimIds.map .str)),
    ("promotion_decision_id", .str record.promotionDecisionId), ("reason", .str record.reason),
    ("artifact_sha256", .str record.artifactSha256), ("active", .bool record.active)]

/-- `AgentProgramRecord.__post_init__`. -/
def validateAgentProgram (programId revisionId : String) (parentRevisionId : Option String)
    (artifactSha256 : String) (active : Bool) : Except RegistryError Unit := do
  validateRecord [programId, revisionId] artifactSha256 active
  require (parentRevisionId ≠ some revisionId)
    (.violation "AgentProgram revision cannot be its own parent")

structure AgentProgramRecord where
  programId : String
  revisionId : String
  parentRevisionId : Option String
  capabilityRevisionIds : List String
  artifactSha256 : String
  active : Bool
  valid : validateAgentProgram programId revisionId parentRevisionId artifactSha256 active =
    .ok ()
deriving DecidableEq

def AgentProgramRecord.construct (programId revisionId : String)
    (parentRevisionId : Option String) (capabilityRevisionIds : List String)
    (artifactSha256 : String) (active : Bool) : Except RegistryError AgentProgramRecord :=
  match valid : validateAgentProgram programId revisionId parentRevisionId artifactSha256
      active with
  | .ok () => .ok ⟨programId, revisionId, parentRevisionId, capabilityRevisionIds, artifactSha256,
      active, valid⟩
  | .error e => .error e

theorem AgentProgramRecord.construct_fields (record : AgentProgramRecord) :
    construct record.programId record.revisionId record.parentRevisionId
      record.capabilityRevisionIds record.artifactSha256 record.active = .ok record := by
  unfold construct
  split
  · rfl
  · rename_i e he
    rw [record.valid] at he
    cases he

def AgentProgramRecord.key (record : AgentProgramRecord) : String × String :=
  (record.programId, record.revisionId)

def AgentProgramRecord.fields (record : AgentProgramRecord) : List (String × Json) :=
  [("program_id", .str record.programId), ("revision_id", .str record.revisionId),
    ("parent_revision_id", optionText record.parentRevisionId),
    ("capability_revision_ids", .arr (record.capabilityRevisionIds.map .str)),
    ("artifact_sha256", .str record.artifactSha256), ("active", .bool record.active)]

end JlensEvolve.Registry
