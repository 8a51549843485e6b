import JlensEvolve.Governance.Decisions

/-!
What the decision log's readers and its writer do: a line that reads back was
verified, a constructor-checked decision written on a line of its own reads
back as itself, and an append either finds an equal decision or adds one line.
-/

namespace JlensEvolve.Governance

open Library Contracts

/-- A line of the file holds the decision, in the form the reader accepts. -/
def PromotionDecisionLog.Holds (log : PromotionDecisionLog) (lines : List (Option Json))
    (decision : PromotionDecision) : Prop :=
  ∃ lineNumber, ∃ line ∈ lines, log.readLine lineNumber line = .ok decision

theorem PromotionDecisionLog.Holds.append {log : PromotionDecisionLog}
    {lines : List (Option Json)} {decision : PromotionDecision} (h : log.Holds lines decision)
    (more : List (Option Json)) : log.Holds (lines ++ more) decision := by
  obtain ⟨lineNumber, line, hline, hread⟩ := h
  exact ⟨lineNumber, line, List.mem_append_left more hline, hread⟩

theorem verifyAuthoritative_ok_iff (log : PromotionDecisionLog) (decision : PromotionDecision)
    (u : Unit) : log.verifyAuthoritative decision = .ok u ↔ log.authoritative decision = true :=
  require_ok_iff _ _ u

theorem readLine_eq_ok {log : PromotionDecisionLog} {lineNumber : Nat} {line : Option Json}
    {decision : PromotionDecision} (h : log.readLine lineNumber line = .ok decision) :
    ∃ payload, line = some (.obj payload) ∧
      PromotionDecision.decode (payload.filter (·.1 ≠ "record_sha256")) = some decision ∧
        log.authoritative decision = true := by
  unfold PromotionDecisionLog.readLine at h
  split at h
  · rename_i payload
    dsimp only at h
    split at h
    · rename_i expected found hexpected hfound
      simp only [except_bind_ok_iff, require_ok_iff, verifyAuthoritative_ok_iff] at h
      obtain ⟨-, -, -, hverified, hsame⟩ := h
      cases hsame
      exact ⟨payload, rfl, hfound, hverified⟩
    · cases h
  · cases h

theorem readLines_append {log : PromotionDecisionLog} (lineNumber : Nat)
    (first second : List (Option Json)) :
    log.readLines lineNumber (first ++ second) = (do
      let decisions ← log.readLines lineNumber first
      let others ← log.readLines (lineNumber + first.length) second
      return decisions ++ others) := by
  induction first generalizing lineNumber with
  | nil =>
    simp only [List.nil_append, PromotionDecisionLog.readLines, List.length_nil, Nat.add_zero]
    cases log.readLines lineNumber second <;> rfl
  | cons line rest ih =>
    simp only [List.cons_append, PromotionDecisionLog.readLines, ih, List.length_cons]
    rw [show lineNumber + 1 + rest.length = lineNumber + (rest.length + 1) by omega]
    cases log.readLine lineNumber line with
    | error e => rfl
    | ok decision =>
      cases log.readLines (lineNumber + 1) rest with
      | error e => rfl
      | ok decisions =>
        cases log.readLines (lineNumber + (rest.length + 1)) second <;> rfl

theorem holds_of_mem_readLines {log : PromotionDecisionLog} {lineNumber : Nat}
    {lines : List (Option Json)} {decisions : List PromotionDecision}
    (h : log.readLines lineNumber lines = .ok decisions) {decision : PromotionDecision}
    (hmem : decision ∈ decisions) : log.Holds lines decision := by
  induction lines generalizing lineNumber decisions with
  | nil =>
    cases h
    cases hmem
  | cons line rest ih =>
    simp only [PromotionDecisionLog.readLines, except_bind_ok_iff] at h
    obtain ⟨first, hfirst, others, hothers, hsame⟩ := h
    cases hsame
    rcases List.mem_cons.mp hmem with rfl | hmem
    · exact ⟨lineNumber, line, List.mem_cons_self, hfirst⟩
    · obtain ⟨number, found, hfound, hread⟩ := ih hothers hmem
      exact ⟨number, found, List.mem_cons_of_mem _ hfound, hread⟩

theorem all_eq_ok {log : PromotionDecisionLog} {lines : List (Option Json)}
    {decisions : List PromotionDecision} (h : log.all lines = .ok decisions) :
    log.readLines 1 lines = .ok decisions ∧
      (decisions.map PromotionDecision.decisionId).Nodup := by
  simp only [PromotionDecisionLog.all, except_bind_ok_iff, require_ok_iff] at h
  obtain ⟨found, hfound, -, hnodup, hsame⟩ := h
  cases hsame
  exact ⟨hfound, hnodup⟩

theorem verifiedApproved_eq_ok {log : PromotionDecisionLog} {lines : List (Option Json)}
    {decisionId : String} {decision : PromotionDecision}
    (h : log.verifiedApproved lines decisionId = .ok decision) :
    log.Holds lines decision ∧ decision.decisionId = decisionId ∧
      decision.gateDecision.text = "approved" ∧ log.authoritative decision = true := by
  simp only [PromotionDecisionLog.verifiedApproved, except_bind_ok_iff] at h
  obtain ⟨decisions, hall, h⟩ := h
  split at h
  · rename_i found hfound
    simp only [except_bind_ok_iff, require_ok_iff, verifyAuthoritative_ok_iff] at h
    obtain ⟨-, happroved, -, hverified, hsame⟩ := h
    cases hsame
    have hmem : decision ∈ decisions.filter (fun item => item.decisionId = decisionId) := by
      rw [hfound]
      exact List.mem_cons_self
    obtain ⟨hdecision, hid⟩ := List.mem_filter.mp hmem
    exact ⟨holds_of_mem_readLines (all_eq_ok hall).1 hdecision, by simpa using hid, happroved,
      hverified⟩
  · cases h

theorem authoritative_approved {log : PromotionDecisionLog} {decision : PromotionDecision}
    (h : log.authoritative decision = true) (happroved : decision.gateDecision.text = "approved") :
    ∃ authority, log.authority = some authority ∧ authority.verify decision = true := by
  simp only [PromotionDecisionLog.authoritative, happroved, ne_eq, not_true_eq_false,
    decide_false, Bool.false_or, Bool.and_eq_true, Option.any_eq_true] at h
  obtain ⟨⟨authority, hauthority, hverify⟩, -⟩ := h
  exact ⟨authority, hauthority, hverify⟩

theorem authoritative_of_verify {log : PromotionDecisionLog} {decision : PromotionDecision}
    {authority : GovernanceDecisionAuthority} (hauthority : log.authority = some authority)
    (hverify : authority.verify decision = true)
    (hstate : decision.evidenceStateSha256.isSome = true) : log.authoritative decision = true := by
  simp [PromotionDecisionLog.authoritative, hauthority, hverify, hstate]

theorem textItems_map (texts : List String) : textItems (texts.map .str) = some texts := by
  induction texts with
  | nil => rfl
  | cons text rest ih => simp [textItems, ih]

theorem optionalTextField_of_field {fields : List (String × Json)} {key : String}
    {value : Option String} (h : Json.field? fields key = some (optionText value)) :
    optionalTextField fields key = some value := by
  cases value <;> simp [optionalTextField, payloadGet, h, optionText]

theorem leavesOnOneLine_optionText (text : Option String) :
    (optionText text).leavesOnOneLine = text.toList.all lineFree := by
  cases text with
  | none => rfl
  | some text =>
    rw [optionText, Json.leavesOnOneLine, Json.onOneLine_quote_eq_lineFree]
    simp

/-- The texts of a decision that its constructor does not confine to ASCII. -/
def PromotionDecision.texts (decision : PromotionDecision) : List String :=
  [decision.decisionId, decision.candidateId, decision.candidateRevisionId,
    decision.gateDecision.text, decision.decidedAt, decision.rationale] ++ decision.claimIds ++
      decision.predictionEvidenceIds ++ decision.authorityKeyId.toList

theorem postInit_sha256 {decision : PromotionDecision} (h : decision.postInit = .ok ()) :
    decision.evidenceStateSha256.all isSha256 = true ∧
      decision.authoritySignatureHmacSha256.all isSha256 = true := by
  simp only [PromotionDecision.postInit, literalSha256OrNone, except_bind_ok_iff,
    require_ok_iff] at h
  obtain ⟨-, -, -, -, -, hstate, -, hsignature, -⟩ := h
  exact ⟨hstate, hsignature⟩

theorem lineFree_of_sha256OrNone {value : Option String} (h : value.all isSha256 = true) :
    value.toList.all lineFree = true := by
  cases value with
  | none => rfl
  | some value =>
    have hdigest : isSha256 value = true := by simpa using h
    simpa using Json.lineFree_sha256 hdigest

theorem logPayload_leavesOnOneLine {decision : PromotionDecision}
    (hvalid : decision.postInit = .ok ()) :
    decision.logPayload.leavesOnOneLine =
      (decision.texts.all lineFree && decision.humanApproval.leavesOnOneLine) := by
  have hnames : ∀ name ∈ ["decision_id", "candidate_id", "candidate_revision_id",
      "gate_decision", "evidence_grade", "claim_ids", "prediction_evidence_ids",
      "human_approval", "decided_at", "rationale", "evidence_state_sha256", "authority_key_id",
      "authority_signature_hmac_sha256", "record_sha256"], lineFree name = true := by
    decide
  simp only [List.forall_mem_cons] at hnames
  obtain ⟨hstate, hsignature⟩ := postInit_sha256 hvalid
  have hstate := lineFree_of_sha256OrNone hstate
  have hsignature := lineFree_of_sha256OrNone hsignature
  have hgrade : lineFree decision.evidenceGrade.text = true := by
    cases decision.evidenceGrade <;> decide
  have hdigest : lineFree decision.contentSha256 = true :=
    Json.lineFree_sha256 (Json.contentSha256_isSha256 _)
  have hleaves : decision.logPayload.leavesOnOneLine =
      (lineFree decision.decisionId && (lineFree decision.candidateId &&
        (lineFree decision.candidateRevisionId && (lineFree decision.gateDecision.text &&
          (decision.claimIds.all lineFree && (decision.predictionEvidenceIds.all lineFree &&
            (decision.humanApproval.leavesOnOneLine && (lineFree decision.decidedAt &&
              (lineFree decision.rationale && decision.authorityKeyId.toList.all lineFree)))))))))
      := by
    simp [PromotionDecision.logPayload, PromotionDecision.fields, PromotionDecision.unsignedFields,
      Json.leavesOnOneLine, Json.fieldsOnOneLine, Json.onOneLine_quote_eq_lineFree,
      Json.itemsOnOneLine_texts, leavesOnOneLine_optionText, hnames, hstate, hsignature, hgrade,
      hdigest]
  rw [hleaves, PromotionDecision.texts, Bool.eq_iff_iff]
  simp only [List.all_append, List.all_cons, List.all_nil, Bool.and_eq_true, and_true]
  tauto

theorem decode_fields {decision : PromotionDecision} {gate : GateDecision}
    (hgate : decision.gateDecision = .member gate) (hvalid : decision.postInit = .ok ()) :
    PromotionDecision.decode (decision.fields (.str decision.gateDecision.text)) =
      some decision := by
  obtain ⟨id, candidateId, revision, gateValue, grade, claimIds, predictionIds, human, decidedAt,
    rationale, state, key, signature⟩ := decision
  simp only at hgate
  subst hgate
  set decision : PromotionDecision := ⟨id, candidateId, revision, .member gate, grade, claimIds,
    predictionIds, human, decidedAt, rationale, state, key, signature⟩ with hdecision
  set fields := decision.fields (.str decision.gateDecision.text) with hfields
  have hgateText : textField fields "gate_decision" = some gate.text := rfl
  have hgradeText : textField fields "evidence_grade" = some grade.text := rfl
  have hgrade : gradeOfText? grade.text = some grade := by cases grade <;> rfl
  have hclaims : textListField fields "claim_ids" = some claimIds := textItems_map claimIds
  have hpredictions : textListFieldOrEmpty fields "prediction_evidence_ids" =
      some predictionIds := textItems_map predictionIds
  have hstate : optionalTextField fields "evidence_state_sha256" = some state :=
    optionalTextField_of_field rfl
  have hkey : optionalTextField fields "authority_key_id" = some key :=
    optionalTextField_of_field rfl
  have hsignature : optionalTextField fields "authority_signature_hmac_sha256" = some signature :=
    optionalTextField_of_field rfl
  simp only [PromotionDecision.decode, hgateText, hgradeText, hgrade, hclaims, hpredictions,
    hstate, hkey, hsignature, GateDecision.ofText?_text,
    show textField fields "decision_id" = some id from rfl,
    show textField fields "candidate_id" = some candidateId from rfl,
    show textField fields "candidate_revision_id" = some revision from rfl,
    show Json.field? fields "human_approval" = some human from rfl,
    show textField fields "decided_at" = some decidedAt from rfl,
    show textField fields "rationale" = some rationale from rfl,
    Option.bind_eq_bind, Option.bind_some]
  rw [← hdecision, guard, if_pos hvalid]
  rfl

theorem decode_gate {fields : List (String × Json)} {decision : PromotionDecision}
    (h : PromotionDecision.decode fields = some decision) :
    ∃ gate, decision.gateDecision = .member gate := by
  unfold PromotionDecision.decode at h
  iterate 4 obtain ⟨_, _, h⟩ := Option.bind_eq_some_iff.mp h
  obtain ⟨gate, _, h⟩ := Option.bind_eq_some_iff.mp h
  iterate 11 obtain ⟨_, _, h⟩ := Option.bind_eq_some_iff.mp h
  cases h
  exact ⟨gate, rfl⟩

theorem readLine_logPayload {log : PromotionDecisionLog} {decision : PromotionDecision}
    {gate : GateDecision} (hgate : decision.gateDecision = .member gate)
    (hvalid : decision.postInit = .ok ()) (hverified : log.authoritative decision = true)
    (lineNumber : Nat) :
    log.readLine lineNumber (some decision.logPayload) = .ok decision := by
  have horiginal : (decision.fields (.str decision.gateDecision.text) ++
      [("record_sha256", Json.str decision.contentSha256)]).filter (·.1 ≠ "record_sha256") =
        decision.fields (.str decision.gateDecision.text) := by
    rw [List.filter_append]
    rfl
  have hexpected : Json.field? (decision.fields (.str decision.gateDecision.text) ++
      [("record_sha256", Json.str decision.contentSha256)]) "record_sha256" =
        some (.str decision.contentSha256) := rfl
  have hdigest : isSha256 decision.contentSha256 = true := Json.contentSha256_isSha256 _
  simp only [PromotionDecisionLog.readLine, PromotionDecision.logPayload, horiginal, hexpected,
    decode_fields hgate hvalid, except_bind_ok_iff, require_ok_iff, verifyAuthoritative_ok_iff]
  exact ⟨(), by simp [validRecordSha256, hdigest], (), hverified, rfl⟩

theorem run_alreadyLogged_eq_ok {log : PromotionDecisionLog} {decision : PromotionDecision}
    {file after : AppendLog} {found : Bool}
    (h : (log.alreadyLogged decision).run file = .ok found after) :
    after = file ∧ ∃ decisions, log.all file.lines = .ok decisions ∧
      (found = true ∧ (∃ existing ∈ decisions, existing.same decision = true) ∨
        found = false ∧ ∀ item ∈ decisions, item.decisionId ≠ decision.decisionId) := by
  simp only [PromotionDecisionLog.alreadyLogged, run_bind_ok_iff, EStateM.run_get,
    run_check_ok_iff] at h
  obtain ⟨_, _, hget, decisions, middle, ⟨hall, rfl⟩, h⟩ := h
  cases hget
  split at h
  · rename_i existing hfind
    split at h
    · rename_i hsame
      cases h
      exact ⟨rfl, decisions, hall,
        Or.inl ⟨rfl, existing, List.mem_of_find?_eq_some hfind, hsame⟩⟩
    · cases h
  · rename_i habsent
    cases h
    refine ⟨rfl, decisions, hall, Or.inr ⟨rfl, ?_⟩⟩
    intro item hitem hid
    exact List.find?_eq_none.mp habsent item hitem (by simpa using hid)

theorem run_append_eq_ok {log : PromotionDecisionLog} {decision : PromotionDecision}
    {file after : AppendLog} {written : Bool}
    (h : (log.append decision).run file = .ok written after) :
    log.authoritative decision = true ∧ ∃ decisions, log.all file.lines = .ok decisions ∧
      ((written = false ∧ after.lines = file.lines ∧
          ∃ existing ∈ decisions, existing.same decision = true) ∨
        (written = true ∧ after.lines = file.lines ++ AppendLog.written decision.logPayload ∧
          ∀ item ∈ decisions, item.decisionId ≠ decision.decisionId)) := by
  simp only [PromotionDecisionLog.append, run_bind_ok_iff, run_check_ok_iff] at h
  obtain ⟨_, _, ⟨hverified, rfl⟩, found, middle, hfound, h⟩ := h
  refine ⟨(verifyAuthoritative_ok_iff _ _ _).mp hverified, ?_⟩
  obtain ⟨rfl, decisions, hall, ⟨rfl, hexisting⟩ | ⟨rfl, hfresh⟩⟩ := run_alreadyLogged_eq_ok hfound
  · cases h
    exact ⟨decisions, hall, Or.inl ⟨rfl, rfl, hexisting⟩⟩
  · refine ⟨decisions, hall, ?_⟩
    rw [if_neg (by decide), AppendLog.run_underLease_ok_iff] at h
    obtain ⟨-, held, hbody, rfl⟩ := h
    simp only [run_bind_ok_iff] at hbody
    obtain ⟨again, _, hagain, hbody⟩ := hbody
    obtain ⟨rfl, decisions', hall', hcases⟩ := run_alreadyLogged_eq_ok hagain
    have hsame : decisions' = decisions := by
      have hboth := hall'.symm.trans hall
      exact Except.ok.inj hboth
    subst hsame
    rcases hcases with ⟨rfl, hexisting⟩ | ⟨rfl, -⟩
    · cases hbody
      exact Or.inl ⟨rfl, rfl, hexisting⟩
    · rw [if_neg (by decide)] at hbody
      simp only [run_bind_ok_iff, EStateM.run_modify] at hbody
      obtain ⟨_, _, hmodify, hpure⟩ := hbody
      cases hmodify
      cases hpure
      exact Or.inr ⟨rfl, rfl, hfresh⟩

theorem run_append_empty {log : PromotionDecisionLog} {decision : PromotionDecision}
    (h : log.authoritative decision = true) :
    (log.append decision).run AppendLog.empty =
      .ok true (AppendLog.empty.append decision.logPayload) := by
  have hfresh : ∀ lease : Bool, (log.alreadyLogged decision).run ⟨[], lease⟩ =
      .ok false ⟨[], lease⟩ := fun _ => rfl
  simp only [PromotionDecisionLog.append, run_bind_ok_iff, run_check_ok_iff,
    verifyAuthoritative_ok_iff]
  refine ⟨(), _, ⟨h, rfl⟩, false, _, hfresh false, ?_⟩
  rw [if_neg (by decide), AppendLog.run_underLease_ok_iff]
  refine ⟨rfl, AppendLog.append ⟨[], true⟩ decision.logPayload, ?_, by
    simp [AppendLog.append, AppendLog.empty]⟩
  simp only [run_bind_ok_iff]
  refine ⟨false, ⟨[], true⟩, hfresh true, ?_⟩
  rw [if_neg (by decide)]
  simp only [run_bind_ok_iff, EStateM.run_modify]
  exact ⟨(), _, rfl, rfl⟩

end JlensEvolve.Governance
