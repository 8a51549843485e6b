import JlensEvolve.Skills.SkillCandidate
import JlensEvolve.SkillLoop.RevisionReadback

/-!
A valid candidate decodes from its own row, under the disk it is valid on, and
its row stays on one line where no text of it has a line boundary.
-/

namespace JlensEvolve.Skills

open Library Contracts SkillLoop

section Stored

variable {α : Type} {name : String}

theorem lineFields_map {encode : α → Json} {value : α → Json}
    (h : ∀ item, lineField name (some (encode item)) = .ok (value item)) (items : List α) :
    lineFields name (items.map encode) = .ok (items.map value) := by
  rw [lineFields, linesAt_newline]
  induction items with
  | nil => rfl
  | cons item rest ih =>
    rw [List.map_cons, List.map_cons, List.mapM_cons, h, ih]
    rfl

/-- The rows of valid items, no two under one key. -/
structure Stored (encode : α → Json) (key : α → String) (valid : α → Prop) (rows : List Json)
    (accepted : List α) : Prop where
  rows : rows = accepted.map encode
  valid : ∀ item ∈ accepted, valid item
  distinct : (accepted.map key).Nodup

variable {encode : α → Json} {key : α → String} {valid : α → Prop} {rows : List Json}
  {accepted : List α} {item : α}

theorem stored_nil : Stored encode key valid [] [] :=
  ⟨rfl, fun _ hmem => absurd hmem List.not_mem_nil, List.nodup_nil⟩

theorem Stored.concat (h : Stored encode key valid rows accepted) (hvalid : valid item)
    (hnew : key item ∉ accepted.map key) :
    Stored encode key valid (rows ++ [encode item]) (accepted ++ [item]) := by
  refine ⟨?_, ?_, ?_⟩
  · rw [h.rows, List.map_append, List.map_singleton]
  · intro other hother
    rcases List.mem_append.mp hother with hold | hlast
    · exact h.valid other hold
    · rw [List.mem_singleton.mp hlast]
      exact hvalid
  · rw [List.map_append, List.nodup_append]
    refine ⟨h.distinct, List.nodup_singleton _, ?_⟩
    intro first hfirst second hsecond hsame
    rw [List.map_singleton, List.mem_singleton] at hsecond
    rw [hsame, hsecond] at hfirst
    exact hnew hfirst

theorem Stored.mem_lineFields_iff (h : Stored encode key valid rows accepted) (item : α)
    (hname : ∀ item, lineField name (some (encode item)) = .ok (.str (key item))) :
    ∃ existing, lineFields name rows = .ok existing ∧
      (Json.str (key item) ∈ existing ↔ key item ∈ accepted.map key) := by
  refine ⟨accepted.map fun item => .str (key item), ?_, ?_⟩
  · rw [h.rows]
    exact lineFields_map hname accepted
  · simp

theorem Stored.add_ok_iff (h : Stored encode key valid rows accepted)
    (hname : ∀ item, lineField name (some (encode item)) = .ok (.str (key item))) {σ : Type}
    {checked : Except String Unit} {kept next : σ} {result : Bool × σ} :
    (do
      checked
      let existing ← lineFields name rows
      if Json.str (key item) ∈ existing then pure (false, kept) else pure (true, next) :
        Except String (Bool × σ)) = .ok result ↔
      checked = .ok () ∧
        result = if key item ∈ accepted.map key then (false, kept) else (true, next) := by
  obtain ⟨existing, hexisting, hmem⟩ := h.mem_lineFields_iff item hname
  simp only [except_bind_ok_iff, hexisting, hmem]
  constructor
  · intro hrun
    obtain ⟨_, hchecked, _, hsame, hresult⟩ := hrun
    cases hsame
    refine ⟨hchecked, ?_⟩
    split at hresult
    · next hold => rw [if_pos (hmem.mp hold), ← Except.ok.inj hresult]
    · next hnew => rw [if_neg (fun hold => hnew (hmem.mpr hold)), ← Except.ok.inj hresult]
  · intro hboth
    refine ⟨(), hboth.1, existing, rfl, ?_⟩
    rw [hboth.2]
    split
    · next hold => rw [if_pos (hmem.mp hold)]; rfl
    · next hnew => rw [if_neg (fun hold => hnew (hmem.mpr hold))]; rfl

end Stored

theorem SkillEvidenceRef.fromDict_toDict {disk : Disk} {ref : SkillEvidenceRef}
    (h : ref.validate disk = .ok ()) : fromDict disk ref.toDict = .ok ref := by
  unfold toDict fromDict
  simp only [except_bind_ok_iff, require_ok_iff, exists_const]
  exact ⟨fun _ => Iff.rfl, (), h, rfl⟩

theorem textTuple_texts (texts : List String) :
    SkillCandidate.textTuple (.arr (texts.map .str)) = .ok texts := by
  have hstr : (texts.map Json.str).map pyStr = texts := by
    rw [List.map_map]
    exact List.map_id texts
  exact congrArg Except.ok hstr

theorem optionalText_optionText (value : Option String) :
    SkillCandidate.optionalText (optionText value) = .ok value := by
  cases value <;> rfl

namespace SkillCandidate

variable {disk : Disk} {candidate : SkillCandidate}

theorem evidence_of_validate (h : candidate.validate disk = .ok ()) :
    ∀ ref ∈ candidate.evidenceRefs, ref.validate disk = .ok () := by
  simp only [validate, except_bind_ok_iff, require_ok_iff, exists_const] at h
  obtain ⟨-, -, -, -, -, -, -, -, -, -, -, -, done, hevidence, -⟩ := h
  exact (forM_ok_iff done).mp hevidence

def fields (candidate : SkillCandidate) : List (String × Json) :=
  candidate.contentWith (candidate.evidenceRefs.map SkillEvidenceRef.toDict) ++
    [("candidate_fingerprint", .str candidate.candidateFingerprint)]

theorem fromDict_toDict (h : candidate.validate disk = .ok ()) :
    fromDict disk candidate.toDict = .ok candidate := by
  have hevidence : (candidate.evidenceRefs.map SkillEvidenceRef.toDict).mapM
      (SkillEvidenceRef.fromDict disk) = .ok candidate.evidenceRefs :=
    mapM_decode_encode fun ref href =>
      SkillEvidenceRef.fromDict_toDict (evidence_of_validate h ref href)
  have hstatus : SkillStatus.ofText? (pyStr (.str candidate.status.text)) = some candidate.status :=
    SkillStatus.ofText?_text candidate.status
  change fromDict disk (.obj candidate.fields) = .ok candidate
  simp only [fromDict, except_bind_ok_iff, require_ok_iff, exists_const]
  refine ⟨fun _ => Iff.rfl, candidate.content, textTuple_texts _, candidate.sourceTaskIds,
    textTuple_texts _, candidate.counterexamples, textTuple_texts _, candidate.knownFailureModes,
    textTuple_texts _, candidate.parentRevisionId, optionalText_optionText _, _, rfl,
    candidate.evidenceRefs, hevidence, candidate.applicability, rfl, candidate.status, ?_, (), h, rfl,
    rfl, rfl⟩
  rw [show payloadGet candidate.fields "status" = .str candidate.status.text from rfl, hstatus]
  rfl

theorem decodes_of_validate {candidates : List SkillCandidate}
    (h : ∀ candidate ∈ candidates, candidate.validate disk = .ok ()) :
    ∀ candidate ∈ candidates, (candidateFormat disk).decode
      ((candidateFormat disk).encode candidate) = .ok candidate :=
  fun candidate hmem => fromDict_toDict (h candidate hmem)

/-- The row without the digests of its content. -/
def authored (candidate : SkillCandidate) : List (String × Json) :=
  (candidate.contentWith (candidate.evidenceRefs.map SkillEvidenceRef.toDict)).take 16

theorem leavesOnOneLine_toDict (candidate : SkillCandidate) :
    candidate.toDict.leavesOnOneLine = Json.fieldsOnOneLine candidate.authored := by
  have hcontent : onOneLine (Json.quote candidate.contentSha256) = true := by
    rw [Json.onOneLine_quote_eq_lineFree]
    exact Json.lineFree_sha256 (Sha256.hexdigest_isSha256 _)
  have hfingerprint : onOneLine (Json.quote candidate.candidateFingerprint) = true := by
    rw [Json.onOneLine_quote_eq_lineFree]
    exact Json.lineFree_sha256 (Json.contentSha256_isSha256 _)
  have hcontentName : onOneLine (Json.quote "content_sha256") = true := by decide
  have hfingerprintName : onOneLine (Json.quote "candidate_fingerprint") = true := by decide
  simp only [toDict, authored, contentWith, Json.leavesOnOneLine, Json.fieldsOnOneLine,
    List.cons_append, List.nil_append, List.take_succ_cons, List.take_zero, hcontent,
    hfingerprint, hcontentName, hfingerprintName, Bool.and_true]

end SkillCandidate

end JlensEvolve.Skills
