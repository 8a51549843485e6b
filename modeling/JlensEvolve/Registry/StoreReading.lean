import JlensEvolve.Governance.DecisionLog
import JlensEvolve.Registry.Store

/-!
What the registries' reader and writer do: a record written on a line of its
own reads back as itself, for each of the four record types, and an append adds
the record's line or nothing.
-/

namespace JlensEvolve.Registry

open Library Contracts Governance

section AppendOnly

variable {ρ : Type} {registry : AppendOnlyRegistry ρ}

/-- A line of the file is read as this record. -/
def AppendOnlyRegistry.Holds (registry : AppendOnlyRegistry ρ) (lines : List (Option Json))
    (record : ρ) : Prop :=
  ∃ lineNumber, ∃ line ∈ lines, registry.readLine lineNumber line = .ok record

/-- A record decodes from its own fields, which do not include the digest. -/
structure RecordType.Lawful (recordType : RecordType ρ) : Prop where
  decode_fields : ∀ record, recordType.decode (recordType.fields record) = some record
  no_digest : ∀ record, ∀ field ∈ recordType.fields record, field.1 ≠ "record_sha256"

theorem readLine_payload (hlawful : registry.recordType.Lawful) (record : ρ) (lineNumber : Nat) :
    registry.readLine lineNumber (some (registry.payload record)) = .ok record := by
  have hfields : (registry.recordType.fields record ++
      [("record_sha256", Json.str (registry.contentSha256 record))]).filter
        (·.1 ≠ "record_sha256") = registry.recordType.fields record := by
    rw [List.filter_append, List.filter_eq_self.mpr]
    · simp
    · intro field hfield
      simpa using hlawful.no_digest record field hfield
  have hdigest : Json.field? (registry.recordType.fields record ++
      [("record_sha256", Json.str (registry.contentSha256 record))]) "record_sha256" =
        some (.str (registry.contentSha256 record)) := by
    rw [Json.field?_append_of_ne (hlawful.no_digest record)]
    rfl
  simp only [AppendOnlyRegistry.readLine, AppendOnlyRegistry.payload, hfields, hdigest,
    hlawful.decode_fields, except_bind_ok_iff, require_ok_iff]
  exact ⟨(), Or.inl trivial, rfl⟩

theorem holds_written (hlawful : registry.recordType.Lawful) {record read : ρ} {lineNumber : Nat}
    {line : Option Json} (hline : line ∈ AppendLog.written (registry.payload record))
    (hread : registry.readLine lineNumber line = .ok read) : read = record := by
  rcases AppendLog.mem_written hline with rfl | rfl
  · cases hread
  · rw [readLine_payload hlawful] at hread
    exact (Except.ok.inj hread).symm

variable [DecidableEq ρ]

theorem readOnly_alreadyStored (registry : AppendOnlyRegistry ρ) (record : ρ) :
    ReadOnly (registry.alreadyStored record) := by
  apply ReadOnly.bind ReadOnly.get
  intro file
  apply ReadOnly.bind (ReadOnly.check _)
  intro records
  split
  · split
    · exact ReadOnly.pure _
    · exact ReadOnly.throw _
  · exact ReadOnly.pure _

theorem preserves_append (registry : AppendOnlyRegistry ρ) {P : List (Option Json) → Prop}
    (record : ρ)
    (hwrite : ∀ lines, P lines → P (lines ++ AppendLog.written (registry.payload record))) :
    Preserves (fun file => P file.lines) (registry.append record) := by
  have hread := (readOnly_alreadyStored registry record).preserves
    (fun file => P file.lines)
  apply Preserves.bind hread
  intro found
  split
  · exact (ReadOnly.pure _).preserves _
  · intro file hfile
    apply AppendLog.lines_underLease
    · exact hfile
    · refine Preserves.bind hread ?_ { file with lease := true } hfile
      intro again
      split
      · exact (ReadOnly.pure _).preserves _
      · intro held hheld
        exact hwrite held.lines hheld

end AppendOnly

theorem candidate_decode_fields (record : CandidateRecord) :
    CandidateRecord.decode record.fields = some record := by
  have hconstruct := record.construct_fields
  have hclaims : textListField record.fields "source_claim_ids" = some record.sourceClaimIds :=
    textItems_map record.sourceClaimIds
  have hid : textField record.fields "candidate_id" = some record.candidateId := rfl
  have hrevision : textField record.fields "revision_id" = some record.revisionId := rfl
  have hkind : textField record.fields "candidate_kind" = some record.candidateKind := rfl
  have hartifact : textField record.fields "artifact_sha256" = some record.artifactSha256 := rfl
  have hactive : flagField record.fields "active" = some record.active := rfl
  simp only [CandidateRecord.decode, hid, hrevision, hkind, hclaims, hartifact, hactive,
    Option.bind_eq_bind, Option.bind_some]
  rw [guard, if_pos]
  · rw [hconstruct]
    rfl
  · simp [onlyFields, CandidateRecord.fields]

theorem capability_decode_fields (record : CapabilityRecord) :
    CapabilityRecord.decode record.fields = some record := by
  have hconstruct := record.construct_fields
  have hclaims : textListField record.fields "evidence_claim_ids" =
      some record.evidenceClaimIds := textItems_map record.evidenceClaimIds
  have hdecision : optionalTextField record.fields "promotion_decision_id" =
      some record.promotionDecisionId := optionalTextField_of_field rfl
  have hcandidate : optionalTextField record.fields "source_candidate_id" =
      some record.sourceCandidateId := optionalTextField_of_field rfl
  have hid : textField record.fields "capability_id" = some record.capabilityId := rfl
  have hrevision : textField record.fields "revision_id" = some record.revisionId := rfl
  have hkind : textField record.fields "capability_kind" = some record.capabilityKind := rfl
  have hartifact : textField record.fields "artifact_sha256" = some record.artifactSha256 := rfl
  have hactive : flagField record.fields "active" = some record.active := rfl
  simp only [CapabilityRecord.decode, hid, hrevision, hkind, hclaims, hartifact, hdecision,
    hcandidate, hactive, Option.bind_eq_bind, Option.bind_some]
  rw [guard, if_pos]
  · rw [hconstruct]
    rfl
  · simp [CapabilityRecord.fields]

theorem rejected_decode_fields (record : RejectedRecord) :
    RejectedRecord.decode record.fields = some record := by
  have hconstruct := record.construct_fields
  have hclaims : textListField record.fields "evidence_claim_ids" =
      some record.evidenceClaimIds := textItems_map record.evidenceClaimIds
  have hid : textField record.fields "candidate_id" = some record.candidateId := rfl
  have hrevision : textField record.fields "revision_id" = some record.revisionId := rfl
  have hkind : textField record.fields "candidate_kind" = some record.candidateKind := rfl
  have hdecision : textField record.fields "promotion_decision_id" =
      some record.promotionDecisionId := rfl
  have hreason : textField record.fields "reason" = some record.reason := rfl
  have hartifact : textField record.fields "artifact_sha256" = some record.artifactSha256 := rfl
  have hactive : flagField record.fields "active" = some record.active := rfl
  simp only [RejectedRecord.decode, hid, hrevision, hkind, hclaims, hdecision, hreason, hartifact,
    hactive, Option.bind_eq_bind, Option.bind_some]
  rw [guard, if_pos]
  · rw [hconstruct]
    rfl
  · simp [onlyFields, RejectedRecord.fields]

theorem agentProgram_decode_fields (record : AgentProgramRecord) :
    AgentProgramRecord.decode record.fields = some record := by
  have hconstruct := record.construct_fields
  have hparent : nullableTextField record.fields "parent_revision_id" =
      some record.parentRevisionId := by
    obtain ⟨programId, revisionId, parent, revisions, artifact, active, valid⟩ := record
    cases parent <;> rfl
  have hrevisions : textListField record.fields "capability_revision_ids" =
      some record.capabilityRevisionIds := textItems_map record.capabilityRevisionIds
  have hid : textField record.fields "program_id" = some record.programId := rfl
  have hrevision : textField record.fields "revision_id" = some record.revisionId := rfl
  have hartifact : textField record.fields "artifact_sha256" = some record.artifactSha256 := rfl
  have hactive : flagField record.fields "active" = some record.active := rfl
  simp only [AgentProgramRecord.decode, hid, hrevision, hparent, hrevisions, hartifact, hactive,
    Option.bind_eq_bind, Option.bind_some]
  rw [guard, if_pos]
  · rw [hconstruct]
    rfl
  · simp [onlyFields, AgentProgramRecord.fields]

theorem candidateType_lawful : candidateType.Lawful := by
  refine ⟨candidate_decode_fields, ?_⟩
  intro record field hfield
  have hnames : ∀ name ∈ record.fields.map Prod.fst, name ≠ "record_sha256" := by
    simp [CandidateRecord.fields]
  exact hnames field.1 (List.mem_map_of_mem hfield)

theorem rejectedType_lawful : rejectedType.Lawful := by
  refine ⟨rejected_decode_fields, ?_⟩
  intro record field hfield
  have hnames : ∀ name ∈ record.fields.map Prod.fst, name ≠ "record_sha256" := by
    simp [RejectedRecord.fields]
  exact hnames field.1 (List.mem_map_of_mem hfield)

theorem agentProgramType_lawful : agentProgramType.Lawful := by
  refine ⟨agentProgram_decode_fields, ?_⟩
  intro record field hfield
  have hnames : ∀ name ∈ record.fields.map Prod.fst, name ≠ "record_sha256" := by
    simp [AgentProgramRecord.fields]
  exact hnames field.1 (List.mem_map_of_mem hfield)

theorem capabilityType_lawful : capabilityType.Lawful := by
  constructor
  · exact capability_decode_fields
  · intro record field hfield
    have hnames : ∀ name ∈ record.fields.map Prod.fst, name ≠ "record_sha256" := by
      simp [CapabilityRecord.fields]
    exact hnames field.1 (List.mem_map_of_mem hfield)

end JlensEvolve.Registry
