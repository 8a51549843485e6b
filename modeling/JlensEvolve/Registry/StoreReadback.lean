import JlensEvolve.Registry.StoreReading

/-!
What reading a registry gives back after an append that returned. The encoder
keeps every character above ASCII and the reader breaks its text at every
Unicode line boundary, so a new record comes back exactly when its texts break
no line.
-/

namespace JlensEvolve.Registry

open Library Contracts Governance

inductive RegistryKind where
  | candidate
  | capability
  | rejected
  | agentProgram

abbrev RegistryKind.Record : RegistryKind → Type
  | .candidate => CandidateRecord
  | .capability => CapabilityRecord
  | .rejected => RejectedRecord
  | .agentProgram => AgentProgramRecord

instance : (kind : RegistryKind) → DecidableEq kind.Record
  | .candidate => inferInstanceAs (DecidableEq CandidateRecord)
  | .capability => inferInstanceAs (DecidableEq CapabilityRecord)
  | .rejected => inferInstanceAs (DecidableEq RejectedRecord)
  | .agentProgram => inferInstanceAs (DecidableEq AgentProgramRecord)

def RegistryKind.recordType : (kind : RegistryKind) → RecordType kind.Record
  | .candidate => candidateType
  | .capability => capabilityType
  | .rejected => rejectedType
  | .agentProgram => agentProgramType

/-- The texts of a record that its constructor does not confine to ASCII. -/
def RegistryKind.texts : (kind : RegistryKind) → kind.Record → List String
  | .candidate, record =>
    [record.candidateId, record.revisionId, record.candidateKind] ++ record.sourceClaimIds
  | .capability, record =>
    [record.capabilityId, record.revisionId, record.capabilityKind] ++
      record.evidenceClaimIds ++ record.promotionDecisionId.toList ++
        record.sourceCandidateId.toList
  | .rejected, record =>
    [record.candidateId, record.revisionId, record.candidateKind, record.promotionDecisionId,
      record.reason] ++ record.evidenceClaimIds
  | .agentProgram, record =>
    [record.programId, record.revisionId] ++ record.parentRevisionId.toList ++
      record.capabilityRevisionIds

def RegistryKind.registry (kind : RegistryKind) (path : String) :
    AppendOnlyRegistry kind.Record :=
  ⟨kind.recordType, path⟩

/-- Reading gives the records of before and, where the append wrote, an equal
record after them. -/
def ReadsBack {ρ : Type} (registry : AppendOnlyRegistry ρ) (record : ρ) (file : AppendLog)
    (written : Bool) (after : AppendLog) : Prop :=
  ∃ previous, registry.readLines 1 file.lines = .ok previous ∧
    registry.readLines 1 after.lines = .ok (previous ++ if written then [record] else [])

section AppendOnly

variable {ρ : Type} {registry : AppendOnlyRegistry ρ}

theorem registry_readLines_append (lineNumber : Nat) (first second : List (Option Json)) :
    registry.readLines lineNumber (first ++ second) = (do
      let records ← registry.readLines lineNumber first
      let others ← registry.readLines (lineNumber + first.length) second
      return records ++ others) := by
  induction first generalizing lineNumber with
  | nil =>
    simp only [List.nil_append, AppendOnlyRegistry.readLines, List.length_nil, Nat.add_zero]
    cases registry.readLines lineNumber second <;> rfl
  | cons line rest ih =>
    simp only [List.cons_append, AppendOnlyRegistry.readLines, ih, List.length_cons]
    rw [show lineNumber + 1 + rest.length = lineNumber + (rest.length + 1) by omega]
    cases registry.readLine lineNumber line with
    | error e => rfl
    | ok record =>
      cases registry.readLines (lineNumber + 1) rest with
      | error e => rfl
      | ok records =>
        cases registry.readLines (lineNumber + (rest.length + 1)) second <;> rfl

theorem readLines_written_iff (hlawful : registry.recordType.Lawful) {lines : List (Option Json)}
    {previous : List ρ} (hprevious : registry.readLines 1 lines = .ok previous) (record : ρ)
    (records : List ρ) :
    registry.readLines 1 (lines ++ AppendLog.written (registry.payload record)) = .ok records ↔
      (registry.payload record).leavesOnOneLine = true ∧ records = previous ++ [record] := by
  rw [registry_readLines_append, AppendLog.written_eq]
  simp only [hprevious, except_bind_ok_iff]
  cases (registry.payload record).leavesOnOneLine with
  | true =>
    simp only [if_true, AppendOnlyRegistry.readLines, readLine_payload hlawful]
    constructor
    · rintro ⟨_, hsame, _, hline, hreturn⟩
      cases hsame
      cases hline
      exact ⟨trivial, (Except.ok.inj hreturn).symm⟩
    · rintro ⟨-, rfl⟩
      exact ⟨previous, rfl, [record], rfl, rfl⟩
  | false =>
    simp only [Bool.false_eq_true, if_false, AppendOnlyRegistry.readLines, false_and, iff_false]
    rintro ⟨_, -, _, hline, -⟩
    cases hline

variable [DecidableEq ρ]

theorem run_alreadyStored_eq_ok {record : ρ} {file after : AppendLog} {found : Bool}
    (h : (registry.alreadyStored record).run file = .ok found after) :
    after = file ∧ ∃ records, registry.readLines 1 file.lines = .ok records ∧
      (found = true ∧ record ∈ records ∨ found = false ∧
        ∀ item ∈ records, registry.recordType.key item ≠ registry.recordType.key record) := by
  simp only [AppendOnlyRegistry.alreadyStored, run_bind_ok_iff, EStateM.run_get,
    run_check_ok_iff] at h
  obtain ⟨_, _, hget, records, middle, ⟨hread, rfl⟩, h⟩ := h
  cases hget
  split at h
  · rename_i existing hfind
    split at h
    · rename_i hsame
      cases h
      have hmem := List.mem_reverse.mp (List.mem_of_find?_eq_some hfind)
      exact ⟨rfl, records, hread, Or.inl ⟨rfl, hsame ▸ hmem⟩⟩
    · cases h
  · rename_i habsent
    cases h
    refine ⟨rfl, records, hread, Or.inr ⟨rfl, ?_⟩⟩
    intro item hitem hkey
    exact List.find?_eq_none.mp habsent item (List.mem_reverse.mpr hitem) (by simpa using hkey)

theorem run_store_append_eq_ok {record : ρ} {file after : AppendLog} {written : Bool}
    (h : (registry.append record).run file = .ok written after) :
    ∃ records, registry.readLines 1 file.lines = .ok records ∧
      (written = false ∧ record ∈ records ∧ after.lines = file.lines ∨
        written = true ∧
          (∀ item ∈ records, registry.recordType.key item ≠ registry.recordType.key record) ∧
            after.lines = file.lines ++ AppendLog.written (registry.payload record)) := by
  simp only [AppendOnlyRegistry.append, run_bind_ok_iff] at h
  obtain ⟨found, middle, hfound, h⟩ := h
  obtain ⟨rfl, records, hread, hcases⟩ := run_alreadyStored_eq_ok hfound
  refine ⟨records, hread, ?_⟩
  rcases hcases with ⟨rfl, hmem⟩ | ⟨rfl, hnew⟩
  · cases h
    exact Or.inl ⟨rfl, hmem, rfl⟩
  · rw [if_neg (by decide), AppendLog.run_underLease_ok_iff] at h
    obtain ⟨-, held, hbody, rfl⟩ := h
    simp only [run_bind_ok_iff] at hbody
    obtain ⟨again, _, hagain, hbody⟩ := hbody
    obtain ⟨rfl, records', hread', hcases'⟩ := run_alreadyStored_eq_ok hagain
    have hsame : records' = records := Except.ok.inj (hread'.symm.trans hread)
    subst hsame
    rcases hcases' with ⟨rfl, hmem⟩ | ⟨rfl, -⟩
    · cases hbody
      exact Or.inl ⟨rfl, hmem, rfl⟩
    · rw [if_neg (by decide)] at hbody
      simp only [run_bind_ok_iff, EStateM.run_modify] at hbody
      obtain ⟨_, _, hmodify, hpure⟩ := hbody
      cases hmodify
      cases hpure
      exact Or.inr ⟨rfl, hnew, rfl⟩

/-- For any lawful record type: what was appended reads back exactly when the
record was stored before or its line stays whole. -/
theorem readsBack_iff_oneLine (hlawful : registry.recordType.Lawful) {record : ρ}
    {file after : AppendLog} {written : Bool}
    (h : (registry.append record).run file = .ok written after) :
    ReadsBack registry record file written after ↔
      ∀ previous, registry.readLines 1 file.lines = .ok previous → record ∉ previous →
        (registry.payload record).leavesOnOneLine = true := by
  obtain ⟨records, hread, ⟨rfl, hmem, hlines⟩ | ⟨rfl, hnew, hlines⟩⟩ := run_store_append_eq_ok h
  · constructor
    · intro _ previous hprevious hfresh
      rw [hread] at hprevious
      cases hprevious
      exact absurd hmem hfresh
    · intro _
      refine ⟨records, hread, ?_⟩
      rw [hlines]
      simpa using hread
  · have hfresh : record ∉ records := fun hmem => hnew record hmem rfl
    have hline := readLines_written_iff hlawful hread record (records ++ [record])
    constructor
    · rintro ⟨previous, hprevious, hafter⟩ _ - -
      rw [hread] at hprevious
      cases hprevious
      rw [hlines] at hafter
      exact (hline.mp hafter).1
    · intro hwhole
      refine ⟨records, hread, ?_⟩
      rw [hlines]
      exact hline.mpr ⟨hwhole records hread hfresh, rfl⟩

end AppendOnly

theorem validateRecord_artifact {identity : List String} {artifactSha256 : String} {active : Bool}
    (h : validateRecord identity artifactSha256 active = .ok ()) :
    isSha256 artifactSha256 = true := by
  simp only [validateRecord, except_bind_ok_iff, require_ok_iff] at h
  obtain ⟨-, -, -, hartifact, -⟩ := h
  exact hartifact

theorem RegistryKind.lawful (kind : RegistryKind) : kind.recordType.Lawful := by
  cases kind with
  | candidate => exact candidateType_lawful
  | capability => exact capabilityType_lawful
  | rejected => exact rejectedType_lawful
  | agentProgram => exact agentProgramType_lawful

theorem lineFree_fieldNames : ∀ name ∈ ["candidate_id", "revision_id", "candidate_kind",
    "source_claim_ids", "artifact_sha256", "active", "capability_id", "capability_kind",
    "evidence_claim_ids", "promotion_decision_id", "source_candidate_id", "reason", "program_id",
    "parent_revision_id", "capability_revision_ids", "record_sha256"],
    lineFree name = true := by
  decide

theorem payload_leavesOnOneLine (kind : RegistryKind) (path : String) (record : kind.Record) :
    ((kind.registry path).payload record).leavesOnOneLine = (kind.texts record).all lineFree := by
  have hnames := lineFree_fieldNames
  simp only [List.forall_mem_cons] at hnames
  have hdigest : ∀ value : Json, lineFree value.contentSha256 = true := fun value =>
    Json.lineFree_sha256 value.contentSha256_isSha256
  cases kind with
  | candidate =>
    have hvalid := record.valid
    simp only [validateCandidate, except_bind_ok_iff] at hvalid
    obtain ⟨_, hvalid, -⟩ := hvalid
    have hartifact := Json.lineFree_sha256 (validateRecord_artifact hvalid)
    simp [AppendOnlyRegistry.payload, AppendOnlyRegistry.contentSha256, RegistryKind.registry,
      RegistryKind.recordType, candidateType, CandidateRecord.fields, RegistryKind.texts,
      Json.leavesOnOneLine, Json.fieldsOnOneLine, Json.onOneLine_quote_eq_lineFree,
      Json.itemsOnOneLine_texts, hnames, hdigest, hartifact]
  | capability =>
    have hvalid := record.valid
    simp only [validateCapability, except_bind_ok_iff] at hvalid
    obtain ⟨_, hvalid, -⟩ := hvalid
    have hartifact := Json.lineFree_sha256 (validateRecord_artifact hvalid)
    simp [AppendOnlyRegistry.payload, AppendOnlyRegistry.contentSha256, RegistryKind.registry,
      RegistryKind.recordType, capabilityType, CapabilityRecord.fields, RegistryKind.texts,
      Json.leavesOnOneLine, Json.fieldsOnOneLine, Json.onOneLine_quote_eq_lineFree,
      Json.itemsOnOneLine_texts, leavesOnOneLine_optionText, hnames, hdigest, hartifact]
  | rejected =>
    have hvalid := record.valid
    simp only [validateRejected, except_bind_ok_iff] at hvalid
    obtain ⟨_, hvalid, -⟩ := hvalid
    have hartifact := Json.lineFree_sha256 (validateRecord_artifact hvalid)
    simp [AppendOnlyRegistry.payload, AppendOnlyRegistry.contentSha256, RegistryKind.registry,
      RegistryKind.recordType, rejectedType, RejectedRecord.fields, RegistryKind.texts,
      Json.leavesOnOneLine, Json.fieldsOnOneLine, Json.onOneLine_quote_eq_lineFree,
      Json.itemsOnOneLine_texts, hnames, hdigest, hartifact]
    cases record.evidenceClaimIds.all lineFree <;> simp
  | agentProgram =>
    have hvalid := record.valid
    simp only [validateAgentProgram, except_bind_ok_iff] at hvalid
    obtain ⟨_, hvalid, -⟩ := hvalid
    have hartifact := Json.lineFree_sha256 (validateRecord_artifact hvalid)
    simp [AppendOnlyRegistry.payload, AppendOnlyRegistry.contentSha256, RegistryKind.registry,
      RegistryKind.recordType, agentProgramType, AgentProgramRecord.fields, RegistryKind.texts,
      Json.leavesOnOneLine, Json.fieldsOnOneLine, Json.onOneLine_quote_eq_lineFree,
      Json.itemsOnOneLine_texts, leavesOnOneLine_optionText, hnames, hdigest, hartifact]

/-- For every record that a constructor accepts, every file and every append
that returns: reading then gives the previous records and the new one exactly
when the record was stored already or its texts break no line. -/
theorem registry_readsBack_iff (kind : RegistryKind) (path : String) {record : kind.Record}
    {file after : AppendLog} {written : Bool}
    (h : ((kind.registry path).append record).run file = .ok written after) :
    ReadsBack (kind.registry path) record file written after ↔
      ∀ previous, (kind.registry path).readLines 1 file.lines = .ok previous →
        record ∉ previous → ∀ text ∈ kind.texts record, lineFree text = true := by
  rw [readsBack_iff_oneLine kind.lawful h]
  simp only [payload_leavesOnOneLine, List.all_eq_true]

theorem run_append_first {ρ : Type} [DecidableEq ρ] (registry : AppendOnlyRegistry ρ) (record : ρ) :
    (registry.append record).run AppendLog.empty =
      .ok true (AppendLog.empty.append (registry.payload record)) := by
  have hfresh : ∀ lease : Bool, (registry.alreadyStored record).run ⟨[], lease⟩ =
      .ok false ⟨[], lease⟩ := fun _ => rfl
  simp only [AppendOnlyRegistry.append, run_bind_ok_iff]
  refine ⟨false, _, hfresh false, ?_⟩
  rw [if_neg (by decide), AppendLog.run_underLease_ok_iff]
  refine ⟨rfl, AppendLog.append ⟨[], true⟩ (registry.payload record), ?_, by
    simp [AppendLog.append, AppendLog.empty]⟩
  simp only [run_bind_ok_iff]
  refine ⟨false, ⟨[], true⟩, hfresh true, ?_⟩
  rw [if_neg (by decide)]
  simp only [run_bind_ok_iff, EStateM.run_modify]
  exact ⟨(), _, rfl, rfl⟩

/-- A candidate whose only peculiarity is its id. -/
def plainCandidate (candidateId : String) (hid : isText candidateId = true) : CandidateRecord :=
  { candidateId := candidateId
    revisionId := "revision-1"
    candidateKind := "skill"
    sourceClaimIds := ["claim-1"]
    artifactSha256 := "bbbbbbbbbbbbbbbbbbbbbbbbbbbbbbbbbbbbbbbbbbbbbbbbbbbbbbbbbbbbbbbb"
    active := false
    valid := by
      have hother : isText "revision-1" = true ∧ isText "skill" = true := by decide
      have hdigest : isSha256
          "bbbbbbbbbbbbbbbbbbbbbbbbbbbbbbbbbbbbbbbbbbbbbbbbbbbbbbbbbbbbbbbb" = true := by
        decide
      simp [validateCandidate, validateRecord, require, hid, hother, hdigest, bind, Except.bind] }

theorem candidateId_isText : isText "candidate" = true := by decide

theorem separatedId_isText : isText "a\u2028b" = true := by decide

def candidates : AppendOnlyRegistry CandidateRecord :=
  RegistryKind.candidate.registry "candidates.jsonl"

theorem candidate_readsBack :
    ReadsBack candidates (plainCandidate "candidate" candidateId_isText) AppendLog.empty true
      (AppendLog.empty.append
        (candidates.payload (plainCandidate "candidate" candidateId_isText))) :=
  (registry_readsBack_iff .candidate "candidates.jsonl" (run_append_first _ _)).mpr
    (fun _ _ _ => by simp only [RegistryKind.texts, plainCandidate]; decide)

theorem separated_unreadable (records : List CandidateRecord) :
    candidates.readLines 1 (AppendLog.empty.append
      (candidates.payload (plainCandidate "a\u2028b" separatedId_isText))).lines ≠ .ok records := by
  intro hread
  have hnone : candidates.readLines 1 [] = .ok [] := rfl
  have hlawful : candidates.recordType.Lawful := RegistryKind.lawful .candidate
  have hwhole := ((readLines_written_iff hlawful hnone _ records).mp hread).1
  have hseparated := payload_leavesOnOneLine .candidate "candidates.jsonl"
    (plainCandidate "a\u2028b" separatedId_isText)
  rw [show (candidates.payload _).leavesOnOneLine = _ from hseparated] at hwhole
  revert hwhole
  simp only [RegistryKind.texts, plainCandidate]
  decide

/-- An id with U+2028 in it is accepted and leaves a registry nobody can read. -/
theorem separator_breaks_registry :
    (candidates.append (plainCandidate "a\u2028b" separatedId_isText)).run AppendLog.empty =
        .ok true (AppendLog.empty.append
          (candidates.payload (plainCandidate "a\u2028b" separatedId_isText))) ∧
      ∀ records, candidates.readLines 1 (AppendLog.empty.append
        (candidates.payload (plainCandidate "a\u2028b" separatedId_isText))).lines ≠
          .ok records :=
  ⟨run_append_first _ _, separated_unreadable⟩

end JlensEvolve.Registry
