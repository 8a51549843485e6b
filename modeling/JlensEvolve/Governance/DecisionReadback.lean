import JlensEvolve.Governance.DecisionLog

/-!
A signed decision through the decision log and back. The signature is over the
text of the gate decision and every other field, so it serves one decision
only; but the constructor takes any gate decision and any text, while the
reader takes the gate decisions of the enumeration, one record a line.
-/

namespace JlensEvolve.Governance

open Library Contracts

/-- One signature for two signing texts. -/
def Collides (authority : GovernanceDecisionAuthority) (first second : PromotionDecision) : Prop :=
  authority.signature first = authority.signature second ∧
    Json.utf8 (decisionSigningPayload first).canonicalJson ≠
      Json.utf8 (decisionSigningPayload second).canonicalJson

/-- Reading the log succeeds and gives an equal decision, which verifies and
whose signature verifies for no other decision. -/
def ReadsBackSigned (log : PromotionDecisionLog) (authority : GovernanceDecisionAuthority)
    (signed : PromotionDecision) (file : AppendLog) : Prop :=
  ∃ decisions, log.all file.lines = .ok decisions ∧ ∃ logged ∈ decisions,
    logged.same signed = true ∧ authority.verify logged = true ∧
      ∀ other : PromotionDecision,
        other.authoritySignatureHmacSha256 = logged.authoritySignatureHmacSha256 →
          authority.verify other = true → ¬ Collides authority other logged →
            other.same logged = true

/-- The reader takes the gate decision and the line of the decision stays whole. -/
def PromotionDecision.Readable (decision : PromotionDecision) : Prop :=
  (∃ gate : GateDecision, decision.gateDecision.toJson = .str gate.text) ∧
    decision.texts.all lineFree = true

/-- A decision stored under the id already has literally the same approval
value; and where none is stored, the decision is readable. -/
def Survives (log : PromotionDecisionLog) (file : AppendLog) (signed : PromotionDecision) : Prop :=
  ∀ decisions, log.all file.lines = .ok decisions →
    (∀ stored ∈ decisions, stored.decisionId = signed.decisionId →
      stored.humanApproval = signed.humanApproval) ∧
    ((∃ stored ∈ decisions, stored.decisionId = signed.decisionId) ∨ signed.Readable)

theorem eq_str_of_pyStr {value : Json} {gate : GateDecision} (h : pyStr value = gate.text) :
    value = .str gate.text := by
  have hnumeral : ¬ Numeral gate.text := by
    cases gate <;> decide
  have hbracket : ∀ c ∈ gate.text.toList.head?, c ≠ '[' ∧ c ≠ '\x7b' := by
    intro c hc
    cases gate <;> (obtain rfl := Option.some.inj hc; decide)
  cases value with
  | null => cases gate <;> exact absurd h (by decide)
  | bool value => cases value <;> cases gate <;> exact absurd h (by decide)
  | int value => exact absurd (h ▸ numeral_intRepr value) hnumeral
  | float value => exact absurd (h ▸ Json.numeral_floatRepr value) hnumeral
  | str value => rw [← h]; rfl
  | arr items =>
    change pyRepr (.arr items) = gate.text at h
    rw [← h, pyRepr, String.toList_append, String.toList_append] at hbracket
    exact absurd rfl (hbracket '[' rfl).1
  | obj fields =>
    change pyRepr (.obj fields) = gate.text at h
    rw [← h, pyRepr, String.toList_append, String.toList_append] at hbracket
    exact absurd rfl (hbracket '\x7b' rfl).2

theorem toJson_eq_iff_text {value : GateValue} {gate : GateDecision} :
    value.toJson = .str gate.text ↔ value.text = gate.text := by
  cases value with
  | member other => exact ⟨Json.str.inj, congrArg Json.str⟩
  | other value =>
    constructor
    · rintro hvalue
      rw [GateValue.text, show value = .str gate.text from hvalue]
      rfl
    · exact eq_str_of_pyStr

def PromotionDecision.withGate (decision : PromotionDecision) (gate : GateDecision) :
    PromotionDecision :=
  { decision with gateDecision := .member gate }

section WithGate

variable {decision : PromotionDecision} {gate : GateDecision}
  (hgate : decision.gateDecision.toJson = .str gate.text)

include hgate

theorem signature_withGate (authority : GovernanceDecisionAuthority) :
    authority.signature (decision.withGate gate) = authority.signature decision := by
  have htext : (decision.withGate gate).gateDecision.text = decision.gateDecision.text :=
    (toJson_eq_iff_text.mp hgate).symm
  unfold GovernanceDecisionAuthority.signature decisionSigningPayload
  rw [htext]
  rfl

theorem verify_withGate (authority : GovernanceDecisionAuthority) :
    authority.verify (decision.withGate gate) = authority.verify decision := by
  unfold GovernanceDecisionAuthority.verify
  rw [signature_withGate hgate]
  rfl

theorem authoritative_withGate (log : PromotionDecisionLog) :
    log.authoritative (decision.withGate gate) = log.authoritative decision := by
  have htext : (decision.withGate gate).gateDecision.text = decision.gateDecision.text :=
    (toJson_eq_iff_text.mp hgate).symm
  unfold PromotionDecisionLog.authoritative
  simp only [verify_withGate hgate, htext]
  rfl

theorem logPayload_withGate : (decision.withGate gate).logPayload = decision.logPayload := by
  have htext : (decision.withGate gate).gateDecision.text = decision.gateDecision.text :=
    (toJson_eq_iff_text.mp hgate).symm
  have hjson : (decision.withGate gate).gateDecision.toJson = decision.gateDecision.toJson :=
    hgate.symm
  have hdigest : (decision.withGate gate).contentSha256 = decision.contentSha256 := by
    unfold PromotionDecision.contentSha256
    rw [hjson]
    rfl
  unfold PromotionDecision.logPayload
  rw [hdigest, htext]
  rfl

theorem same_withGate : (decision.withGate gate).same decision = true := by
  have hjson : (decision.withGate gate).gateDecision.toJson = decision.gateDecision.toJson :=
    hgate.symm
  simp only [PromotionDecision.same, hjson, Json.pyEq_self]
  simp [PromotionDecision.withGate]

end WithGate

theorem sorted_texts (texts : List String) :
    (Json.arr (texts.map .str)).sorted = .arr (texts.map .str) := by
  rw [Json.sorted, Json.sortedItems_eq_map, List.map_map]
  rfl

theorem sorted_optionText (text : Option String) : (optionText text).sorted = optionText text := by
  cases text <;> rfl

theorem optionText_injective {first second : Option String}
    (h : optionText first = optionText second) : first = second := by
  cases first <;> cases second <;> simp_all [optionText]

theorem eq_bool_of_sorted {value : Json} {approval : Bool}
    (h : value.sorted = Json.sorted (.bool approval)) : value = .bool approval := by
  cases value <;> simp_all [Json.sorted]

theorem itemsFloatFree_texts (texts : List String) :
    Json.itemsFloatFree (texts.map .str) = true := by
  induction texts with
  | nil => rfl
  | cons text rest ih => simpa [Json.itemsFloatFree, Json.floatFree] using ih

theorem floatFree_optionText (text : Option String) : (optionText text).floatFree = true := by
  cases text <;> rfl

theorem floatFree_signingPayload {decision : PromotionDecision} {approval : Bool}
    (hhuman : decision.humanApproval = .bool approval) :
    (decisionSigningPayload decision).floatFree = true := by
  simp [decisionSigningPayload, PromotionDecision.unsignedFields, Json.floatFree,
    Json.fieldsFloatFree, itemsFloatFree_texts, floatFree_optionText, hhuman]

theorem same_of_signingText {first second : PromotionDecision} {approval : Bool}
    {gate : GateDecision} (hhuman : second.humanApproval = .bool approval)
    (hgate : second.gateDecision.toJson = .str gate.text)
    (hsignature : first.authoritySignatureHmacSha256 = second.authoritySignatureHmacSha256)
    (htext : (decisionSigningPayload first).canonicalJson =
      (decisionSigningPayload second).canonicalJson) :
    first.same second = true ∧ first.humanApproval = second.humanApproval := by
  have hsorted := Json.sorted_eq_of_canonicalJson_eq (floatFree_signingPayload hhuman) htext.symm
  have hfield := fun key => Json.field?_map_sorted_eq hsorted.symm key
  have hid : first.decisionId = second.decisionId :=
    Json.str.inj (Option.some.inj (hfield "decision_id"))
  have hcandidate : first.candidateId = second.candidateId :=
    Json.str.inj (Option.some.inj (hfield "candidate_id"))
  have hrevision : first.candidateRevisionId = second.candidateRevisionId :=
    Json.str.inj (Option.some.inj (hfield "candidate_revision_id"))
  have hgateText : first.gateDecision.text = second.gateDecision.text :=
    Json.str.inj (Option.some.inj (hfield "gate_decision"))
  have hgrade : first.evidenceGrade.text = second.evidenceGrade.text :=
    Json.str.inj (Option.some.inj (hfield "evidence_grade"))
  have hclaims : (Json.arr (first.claimIds.map .str)).sorted =
      (Json.arr (second.claimIds.map .str)).sorted := Option.some.inj (hfield "claim_ids")
  have hpredictions : (Json.arr (first.predictionEvidenceIds.map .str)).sorted =
      (Json.arr (second.predictionEvidenceIds.map .str)).sorted :=
    Option.some.inj (hfield "prediction_evidence_ids")
  have happroval : first.humanApproval.sorted = second.humanApproval.sorted :=
    Option.some.inj (hfield "human_approval")
  have hdecidedAt : first.decidedAt = second.decidedAt :=
    Json.str.inj (Option.some.inj (hfield "decided_at"))
  have hrationale : first.rationale = second.rationale :=
    Json.str.inj (Option.some.inj (hfield "rationale"))
  have hstate : (optionText first.evidenceStateSha256).sorted =
      (optionText second.evidenceStateSha256).sorted :=
    Option.some.inj (hfield "evidence_state_sha256")
  have hkey : (optionText first.authorityKeyId).sorted =
      (optionText second.authorityKeyId).sorted := Option.some.inj (hfield "authority_key_id")
  rw [sorted_texts, sorted_texts] at hclaims hpredictions
  rw [sorted_optionText, sorted_optionText] at hstate hkey
  rw [hhuman] at happroval
  have htexts : Function.Injective (List.map Json.str) :=
    List.map_injective_iff.mpr fun _ _ => Json.str.inj
  have hgateJson : first.gateDecision.toJson = second.gateDecision.toJson := by
    rw [hgate, toJson_eq_iff_text, hgateText, ← toJson_eq_iff_text, hgate]
  have hhuman' : first.humanApproval = second.humanApproval :=
    (eq_bool_of_sorted happroval).trans hhuman.symm
  refine ⟨?_, hhuman'⟩
  have hgradeEq : first.evidenceGrade = second.evidenceGrade := by
    cases hfirst : first.evidenceGrade <;> cases hsecond : second.evidenceGrade <;>
      simp_all [ClaimGrade.text]
  simp only [PromotionDecision.same, hid, hcandidate, hrevision, hgateJson, hgradeEq,
    htexts (Json.arr.inj hclaims), htexts (Json.arr.inj hpredictions), hhuman', hdecidedAt,
    hrationale, optionText_injective hstate, optionText_injective hkey, hsignature,
    Json.pyEq_self]
  simp

theorem verify_eq_true_iff {authority : GovernanceDecisionAuthority}
    {decision : PromotionDecision} :
    authority.verify decision = true ↔ decision.authorityKeyId = some authority.keyId ∧
      decision.authoritySignatureHmacSha256 = some (authority.signature decision) := by
  unfold GovernanceDecisionAuthority.verify
  cases decision.authoritySignatureHmacSha256 with
  | none => simp
  | some signature => simp

theorem same_of_verify {authority : GovernanceDecisionAuthority}
    {first second : PromotionDecision} {approval : Bool} {gate : GateDecision}
    (hhuman : second.humanApproval = .bool approval)
    (hgate : second.gateDecision.toJson = .str gate.text)
    (hsignature : first.authoritySignatureHmacSha256 = second.authoritySignatureHmacSha256)
    (hfirst : authority.verify first = true) (hsecond : authority.verify second = true)
    (hfree : ¬ Collides authority first second) :
    first.same second = true ∧ first.humanApproval = second.humanApproval := by
  apply same_of_signingText hhuman hgate hsignature
  apply Json.utf8_injective
  by_contra hne
  apply hfree
  refine ⟨?_, hne⟩
  rw [(verify_eq_true_iff.mp hfirst).2, (verify_eq_true_iff.mp hsecond).2] at hsignature
  exact Option.some.inj hsignature

theorem toJson_eq_of_pyEq {value : Json} {gate : GateDecision}
    (h : Json.pyEq (.str gate.text) value = true) : value = .str gate.text := by
  cases value <;> simp_all [Json.pyEq, Json.comparable]

theorem eq_of_same {logged signed : PromotionDecision} {gate : GateDecision}
    (hmember : logged.gateDecision = .member gate) (hsame : logged.same signed = true) :
    signed.gateDecision.toJson = .str gate.text ∧
      logged.decisionId = signed.decisionId ∧
      logged.authoritySignatureHmacSha256 = signed.authoritySignatureHmacSha256 ∧
      (logged.humanApproval = signed.humanApproval → logged = signed.withGate gate) := by
  obtain ⟨id, candidateId, revision, gateValue, grade, claimIds, predictionIds, human, decidedAt,
    rationale, state, key, signature⟩ := logged
  simp only at hmember
  subst hmember
  simp only [PromotionDecision.same, decide_eq_true_eq] at hsame
  obtain ⟨rfl, rfl, rfl, hgate, rfl, rfl, rfl, -, rfl, rfl, rfl, rfl, rfl⟩ := hsame
  refine ⟨toJson_eq_of_pyEq hgate, rfl, rfl, ?_⟩
  rintro rfl
  rfl

theorem postInit_withGate (decision : PromotionDecision) (gate : GateDecision) :
    (decision.withGate gate).postInit = decision.postInit := rfl

theorem postInit_sign {authority : GovernanceDecisionAuthority} {decision : PromotionDecision}
    (hvalid : decision.postInit = .ok ()) : (authority.sign decision).postInit = .ok () := by
  have hstate := (postInit_sha256 hvalid).1
  simp only [PromotionDecision.postInit, literalSha256OrNone, except_bind_ok_iff, require_ok_iff]
    at hvalid ⊢
  obtain ⟨_, htexts, _, hclaims, -⟩ := hvalid
  exact ⟨(), htexts, (), hclaims, (), hstate, (),
    authority.signature_isSha256 _, authority.keyId_text⟩

theorem gate_of_readLine {log : PromotionDecisionLog} {decision found : PromotionDecision}
    {lineNumber : Nat} (h : log.readLine lineNumber (some decision.logPayload) = .ok found) :
    ∃ gate : GateDecision, decision.gateDecision.toJson = .str gate.text := by
  obtain ⟨payload, hpayload, hdecode, -⟩ := readLine_eq_ok h
  cases hpayload
  unfold PromotionDecision.decode at hdecode
  iterate 3 obtain ⟨_, _, hdecode⟩ := Option.bind_eq_some_iff.mp hdecode
  obtain ⟨text, htext, hdecode⟩ := Option.bind_eq_some_iff.mp hdecode
  obtain ⟨gate, hgate, -⟩ := Option.bind_eq_some_iff.mp hdecode
  refine ⟨gate, toJson_eq_iff_text.mpr ?_⟩
  have hsame : decision.gateDecision.text = text := Option.some.inj htext
  rw [hsame, GateDecision.ofText?_eq_some hgate]

theorem readLines_written_eq_ok {log : PromotionDecisionLog} {lines : List (Option Json)}
    {payload : Json} {decisions : List PromotionDecision}
    (h : log.all (lines ++ AppendLog.written payload) = .ok decisions) :
    payload.leavesOnOneLine = true ∧
      ∃ lineNumber found, log.readLine lineNumber (some payload) = .ok found := by
  have hread := (all_eq_ok h).1
  rw [readLines_append] at hread
  simp only [except_bind_ok_iff] at hread
  obtain ⟨_, -, others, hothers, -⟩ := hread
  rw [AppendLog.written_eq] at hothers
  cases hline : payload.leavesOnOneLine with
  | false =>
    rw [hline] at hothers
    cases hothers
  | true =>
    rw [hline, if_pos rfl] at hothers
    simp only [PromotionDecisionLog.readLines, except_bind_ok_iff] at hothers
    obtain ⟨found, hfound, -⟩ := hothers
    exact ⟨rfl, _, found, hfound⟩

theorem all_written {log : PromotionDecisionLog} {lines : List (Option Json)}
    {decisions : List PromotionDecision} {payload : Json} {decision : PromotionDecision}
    (hall : log.all lines = .ok decisions) (hline : payload.leavesOnOneLine = true)
    (hread : ∀ lineNumber, log.readLine lineNumber (some payload) = .ok decision)
    (hfresh : ∀ item ∈ decisions, item.decisionId ≠ decision.decisionId) :
    log.all (lines ++ AppendLog.written payload) = .ok (decisions ++ [decision]) := by
  obtain ⟨hlines, hnodup⟩ := all_eq_ok hall
  have hnew : ((decisions ++ [decision]).map PromotionDecision.decisionId).Nodup := by
    rw [List.map_append, List.nodup_append]
    refine ⟨hnodup, List.nodup_singleton _, ?_⟩
    intro id hid other hother
    obtain ⟨item, hitem, rfl⟩ := List.mem_map.mp hid
    rw [List.mem_singleton.mp hother]
    exact hfresh item hitem
  have hone : ∀ lineNumber, log.readLines lineNumber [some payload] = .ok [decision] := by
    intro lineNumber
    rw [PromotionDecisionLog.readLines, hread]
    rfl
  rw [AppendLog.written_eq, hline, if_pos rfl, PromotionDecisionLog.all, readLines_append, hlines]
  simp only [except_bind_ok_iff, require_ok_iff]
  refine ⟨decisions ++ [decision], ?_, (), hnew, rfl⟩
  exact ⟨decisions, rfl, [decision], hone _, rfl⟩

section RoundTrip

variable {log : PromotionDecisionLog} {authority : GovernanceDecisionAuthority}
  {signed : PromotionDecision} {approval : Bool} {file after : AppendLog} {written : Bool}

theorem eq_of_decisionId {lines : List (Option Json)} {decisions : List PromotionDecision}
    (hall : log.all lines = .ok decisions) {first second : PromotionDecision}
    (hfirst : first ∈ decisions) (hsecond : second ∈ decisions)
    (hid : first.decisionId = second.decisionId) : first = second :=
  List.inj_on_of_nodup_map (all_eq_ok hall).2 hfirst hsecond hid

theorem gate_of_mem_all {lines : List (Option Json)} {decisions : List PromotionDecision}
    (hall : log.all lines = .ok decisions) {decision : PromotionDecision}
    (hmem : decision ∈ decisions) : ∃ gate, decision.gateDecision = .member gate := by
  obtain ⟨number, line, -, hread⟩ := holds_of_mem_readLines (all_eq_ok hall).1 hmem
  obtain ⟨payload, -, hdecode, -⟩ := readLine_eq_ok hread
  exact decode_gate hdecode

theorem readsBackSigned_of_mem {decisions : List PromotionDecision} {gate : GateDecision}
    (hhuman : signed.humanApproval = .bool approval) (hverify : authority.verify signed = true)
    (hall : log.all after.lines = .ok decisions) (hmem : signed.withGate gate ∈ decisions)
    (hgate : signed.gateDecision.toJson = .str gate.text) :
    ReadsBackSigned log authority signed after := by
  have hlogged : authority.verify (signed.withGate gate) = true :=
    (verify_withGate hgate authority).trans hverify
  have hloggedHuman : (signed.withGate gate).humanApproval = .bool approval := hhuman
  have hloggedGate : (signed.withGate gate).gateDecision.toJson = .str gate.text := rfl
  refine ⟨decisions, hall, signed.withGate gate, hmem, same_withGate hgate, hlogged, ?_⟩
  intro other hsignature hother hfree
  exact (same_of_verify hloggedHuman hloggedGate hsignature hother hlogged hfree).1

theorem readsBackSigned_iff_of_stored (hhuman : signed.humanApproval = .bool approval)
    (hverify : authority.verify signed = true) {decisions : List PromotionDecision}
    (hall : log.all after.lines = .ok decisions)
    (hfree : ∀ stored ∈ decisions, ¬ Collides authority stored signed)
    {existing : PromotionDecision} (hexisting : existing ∈ decisions)
    (hsame : existing.same signed = true) :
    ReadsBackSigned log authority signed after ↔
      existing.humanApproval = signed.humanApproval := by
  obtain ⟨gate, hmember⟩ := gate_of_mem_all hall hexisting
  obtain ⟨hgate, hid, hsignature, hstored⟩ := eq_of_same hmember hsame
  constructor
  · rintro ⟨decisions', hall', logged, hlogged, hloggedSame, hloggedVerify, -⟩
    rw [hall] at hall'
    cases hall'
    obtain ⟨loggedGate, hloggedMember⟩ := gate_of_mem_all hall hlogged
    have hloggedId := (eq_of_same hloggedMember hloggedSame).2.1
    have heq : logged = existing := eq_of_decisionId hall hlogged hexisting
      (hloggedId.trans hid.symm)
    subst heq
    exact (same_of_verify hhuman hgate hsignature hloggedVerify hverify (hfree _ hlogged)).2
  · intro hhumanSame
    have heq := hstored hhumanSame
    rw [heq] at hexisting
    exact readsBackSigned_of_mem hhuman hverify hall hexisting hgate

theorem readsBackSigned_iff_of_written (hvalid : signed.postInit = .ok ())
    (hhuman : signed.humanApproval = .bool approval) (hverify : authority.verify signed = true)
    (hauthoritative : log.authoritative signed = true) {decisions : List PromotionDecision}
    (hall : log.all file.lines = .ok decisions)
    (hlines : after.lines = file.lines ++ AppendLog.written signed.logPayload)
    (hfresh : ∀ item ∈ decisions, item.decisionId ≠ signed.decisionId) :
    ReadsBackSigned log authority signed after ↔ signed.Readable := by
  have hwhole : signed.logPayload.leavesOnOneLine = signed.texts.all lineFree := by
    rw [logPayload_leavesOnOneLine hvalid, hhuman]
    exact Bool.and_true _
  constructor
  · rintro ⟨decisions', hall', -⟩
    rw [hlines] at hall'
    obtain ⟨hline, number, found, hread⟩ := readLines_written_eq_ok hall'
    exact ⟨gate_of_readLine hread, hwhole ▸ hline⟩
  · rintro ⟨⟨gate, hgate⟩, htexts⟩
    have hread : ∀ number,
        log.readLine number (some signed.logPayload) = .ok (signed.withGate gate) := by
      intro number
      rw [← logPayload_withGate hgate]
      exact readLine_logPayload rfl ((postInit_withGate signed gate).trans hvalid)
        ((authoritative_withGate hgate log).trans hauthoritative) number
    have hwritten := all_written hall (hwhole.trans htexts) hread hfresh
    rw [← hlines] at hwritten
    exact readsBackSigned_of_mem hhuman hverify hwritten
      (List.mem_append_right _ List.mem_cons_self) hgate

end RoundTrip

namespace PlainDecision

def authority : GovernanceDecisionAuthority where
  keyId := "governance"
  secretKey := List.replicate 32 7
  keyId_text := by decide
  secretKey_length := by decide

/-- A log that no key was configured for. -/
def log : PromotionDecisionLog := ⟨none⟩

def decision (gate : GateValue) : PromotionDecision where
  decisionId := "decision-1"
  candidateId := "candidate-1"
  candidateRevisionId := "revision-1"
  gateDecision := gate
  evidenceGrade := .E1
  claimIds := ["claim-1"]
  predictionEvidenceIds := []
  humanApproval := .bool false
  decidedAt := "2026-01-01T00:00:00Z"
  rationale := "below the required grade"
  evidenceStateSha256 := none
  authorityKeyId := none
  authoritySignatureHmacSha256 := none

theorem decision_valid (gate : GateValue) : (decision gate).postInit = .ok () := by
  have htexts : [(decision gate).decisionId, (decision gate).candidateId,
      (decision gate).candidateRevisionId, (decision gate).decidedAt,
      (decision gate).rationale].all isText = true := by
    change ["decision-1", "candidate-1", "revision-1", "2026-01-01T00:00:00Z",
      "below the required grade"].all isText = true
    decide
  simp only [PromotionDecision.postInit, literalSha256OrNone, except_bind_ok_iff, require_ok_iff]
  exact ⟨(), htexts, (), List.cons_ne_nil _ _, (), rfl, (), rfl, rfl⟩

theorem authoritative_of_unapproved {gate : GateValue} (h : gate.text ≠ "approved") :
    log.authoritative (authority.sign (decision gate)) = true := by
  apply Bool.or_eq_true_iff.mpr
  exact Or.inl (decide_eq_true h)

end PlainDecision

/-- After an append of a signed decision that returned, reading the log gives
the decision back under its signature exactly when a decision stored under its
id has literally the same approval value and, where none is stored, the gate
decision is one of the enumeration and no text breaks the line. -/
theorem signed_readsBack_iff {log : PromotionDecisionLog}
    {authority : GovernanceDecisionAuthority} {decision : PromotionDecision} {approval : Bool}
    {file after : AppendLog} {written : Bool} (hvalid : decision.postInit = .ok ())
    (hhuman : decision.humanApproval = .bool approval)
    (hfree : ∀ decisions, log.all file.lines = .ok decisions → ∀ stored ∈ decisions,
      ¬ Collides authority stored (authority.sign decision))
    (h : (log.append (authority.sign decision)).run file = .ok written after) :
    ReadsBackSigned log authority (authority.sign decision) after ↔
      Survives log file (authority.sign decision) := by
  have hsignedHuman : (authority.sign decision).humanApproval = .bool approval := hhuman
  have hverify := authority.verify_sign decision
  obtain ⟨hauthoritative, decisions, hall, hcases⟩ := run_append_eq_ok h
  rcases hcases with ⟨-, hlines, existing, hexisting, hsame⟩ | ⟨-, hlines, hfresh⟩
  · have hafter : log.all after.lines = .ok decisions := by rw [hlines, hall]
    obtain ⟨gate, hmember⟩ := gate_of_mem_all hall hexisting
    have hid := (eq_of_same hmember hsame).2.1
    rw [readsBackSigned_iff_of_stored hsignedHuman hverify hafter (hfree _ hall) hexisting hsame]
    constructor
    · intro happroval decisions' hall'
      rw [hall] at hall'
      cases hall'
      refine ⟨?_, Or.inl ⟨existing, hexisting, hid⟩⟩
      intro stored hstored hstoredId
      rw [eq_of_decisionId hall hstored hexisting (hstoredId.trans hid.symm), happroval]
    · intro hsurvives
      exact (hsurvives decisions hall).1 existing hexisting hid
  · rw [readsBackSigned_iff_of_written (postInit_sign hvalid) hsignedHuman hverify hauthoritative
      hall hlines hfresh]
    constructor
    · intro hreadable decisions' hall'
      rw [hall] at hall'
      cases hall'
      exact ⟨fun stored hstored hid => absurd hid (hfresh stored hstored), Or.inr hreadable⟩
    · intro hsurvives
      rcases (hsurvives decisions hall).2 with ⟨stored, hstored, hid⟩ | hreadable
      · exact absurd hid (hfresh stored hstored)
      · exact hreadable

/-- A rejection survives the trip. -/
theorem signed_readsBack_rejection :
    ReadsBackSigned PlainDecision.log PlainDecision.authority
      (PlainDecision.authority.sign (PlainDecision.decision (.member .rejected)))
      (AppendLog.empty.append
        (PlainDecision.authority.sign (PlainDecision.decision (.member .rejected))).logPayload) := by
  have hauthoritative : PlainDecision.log.authoritative
      (PlainDecision.authority.sign (PlainDecision.decision (.member .rejected))) = true :=
    PlainDecision.authoritative_of_unapproved (by decide)
  apply (signed_readsBack_iff (PlainDecision.decision_valid _) rfl ?_
    (run_append_empty hauthoritative)).mpr
  · intro decisions hall
    cases hall
    refine ⟨fun stored hstored => absurd hstored List.not_mem_nil, Or.inr ⟨⟨.rejected, rfl⟩, ?_⟩⟩
    change ["decision-1", "candidate-1", "revision-1", "rejected", "2026-01-01T00:00:00Z",
      "below the required grade", "claim-1", "governance"].all lineFree = true
    decide
  · intro decisions hall stored hstored
    cases hall
    cases hstored

/-- The constructor takes a gate decision that is not in the enumeration, the
log appends it, and from then on nothing in the log can be read. -/
theorem unknown_gate_unreadable :
    (PlainDecision.decision (.other (.str "maybe"))).postInit = .ok () ∧
      (PlainDecision.log.append
          (PlainDecision.authority.sign (PlainDecision.decision (.other (.str "maybe"))))).run
        AppendLog.empty = .ok true (AppendLog.empty.append
          (PlainDecision.authority.sign
            (PlainDecision.decision (.other (.str "maybe")))).logPayload) ∧
      ¬ ∃ decisions, PlainDecision.log.all (AppendLog.empty.append
          (PlainDecision.authority.sign
            (PlainDecision.decision (.other (.str "maybe")))).logPayload).lines =
        .ok decisions := by
  refine ⟨PlainDecision.decision_valid _,
    run_append_empty (PlainDecision.authoritative_of_unapproved (by decide)), ?_⟩
  rintro ⟨decisions, hall⟩
  obtain ⟨-, number, found, hread⟩ := @readLines_written_eq_ok _ [] _ _ hall
  obtain ⟨gate, hgate⟩ := gate_of_readLine hread
  have htext : "maybe" = gate.text := Json.str.inj hgate
  revert htext
  cases gate <;> decide

end JlensEvolve.Governance
