import JlensEvolve.Evidence.GradeSoundness
import JlensEvolve.Governance.DecisionLog
import JlensEvolve.Governance.GovernanceService

/-!
What an approved decision of `decide` stands for: the gates it passed, the
signature it carries and the line it left in the decision log.
-/

namespace JlensEvolve.Governance

open Library Contracts Evidence Registry

theorem contractIf_ok_iff (condition : Prop) [Decidable condition] (message : String) (u : Unit) :
    contractIf condition message = .ok u ↔ ¬ condition :=
  require_ok_iff _ _ u

theorem sortedTexts_perm (texts : List String) : (sortedTexts texts).Perm texts :=
  List.perm_insertionSort _ texts

theorem sign_postInit (authority : GovernanceDecisionAuthority) {decision : PromotionDecision}
    (h : decision.postInit = .ok ()) : (authority.sign decision).postInit = .ok () := by
  simp only [PromotionDecision.postInit, literalSha256OrNone, except_bind_ok_iff,
    require_ok_iff] at h ⊢
  obtain ⟨-, htexts, -, hclaims, -, hstate, -, -, -⟩ := h
  refine ⟨(), htexts, (), hclaims, (), hstate, (), ?_, authority.keyId_text⟩
  rw [GovernanceDecisionAuthority.sign, Option.all_some]
  exact authority.signature_isSha256 _

namespace ApprovedCandidate

theorem governance_isText : isText "governance" = true := by decide

def authority : GovernanceDecisionAuthority :=
  ⟨"governance", List.replicate 32 0, governance_isText, by decide⟩

def claimIds : List String := ["claim-task-1", "claim-task-2", "claim-task-3"]

def candidate : CandidateRecord :=
  ⟨"candidate", "revision-1", "skill", claimIds, SupportedCandidate.digest, false, by
    decide⟩

def state : CandidateEvidenceState :=
  SupportedCandidate.aggregated.state "candidate" (some "mechanism")

def rows : List Claim := SupportedCandidate.tasks.map SupportedCandidate.claimOf

def service : GovernanceService := ⟨some authority⟩

def log : PromotionDecisionLog := ⟨some authority⟩

def decision : PromotionDecision :=
  authority.sign (service.draft candidate state claimIds .approved true "now")

theorem state_valid : validateEvidenceState state rows = .ok () := by
  decide

theorem gate_approved :
    evaluate "candidate" rows false true (some state.grade) = .ok .approved := by
  rw [show state.grade = .E3 from SupportedCandidate.grade_ok]
  decide

theorem draft_valid :
    (service.draft candidate state claimIds .approved true "now").postInit = .ok () := by
  have hid : isText (service.draft candidate state claimIds .approved true "now").decisionId =
      true := isText_append_left (by decide)
  have hrationale : isText (service.draft candidate state claimIds .approved true
      "now").rationale = true :=
    isText_append_left (by decide)
  have hstate : (service.draft candidate state claimIds .approved true
      "now").evidenceStateSha256.all isSha256 = true := by
    rw [show (service.draft candidate state claimIds .approved true "now").evidenceStateSha256 =
      some (evidenceStateJson state).contentSha256 from rfl, Option.all_some]
    exact Json.contentSha256_isSha256 _
  have hkey : isText "governance" = true := by decide
  have hcandidate : isText "candidate" = true := by decide
  have hrevision : isText "revision-1" = true := by decide
  have hnow : isText "now" = true := by decide
  simp only [PromotionDecision.postInit, literalSha256OrNone, except_bind_ok_iff, require_ok_iff]
  refine ⟨(), ?_, (), List.cons_ne_nil _ _, (), hstate, (), rfl, hkey⟩
  rw [List.all_eq_true]
  intro text htext
  simp only [List.mem_cons, List.not_mem_nil, or_false] at htext
  rcases htext with rfl | rfl | rfl | rfl | rfl
  · exact hid
  · exact hcandidate
  · exact hrevision
  · exact hnow
  · exact hrationale

theorem decision_ok : service.decision candidate state rows true "now" = .ok decision := by
  have hrows : sortedTexts (rows.map Claim.claimId) = claimIds := by decide
  have hstate : sortedTexts state.claimIds = claimIds := by decide
  simp only [GovernanceService.decision, except_bind_ok_iff, contractIf_ok_iff, hrows, hstate]
  have hset : sameSet candidate.sourceClaimIds claimIds := fun _ => Iff.rfl
  refine ⟨(), by decide, (), by simp, (), not_not.mpr hset, (), state_valid, .approved,
    gate_approved, (), draft_valid, ?_⟩
  rw [if_pos rfl]
  rfl

theorem decision_authoritative : log.authoritative decision = true :=
  authoritative_of_verify rfl (authority.verify_sign _) rfl

theorem decide_ok : (service.decide candidate state rows true "now" log).run AppendLog.empty =
    .ok decision (AppendLog.empty.append decision.logPayload) := by
  simp only [GovernanceService.decide, run_bind_ok_iff, run_check_ok_iff]
  refine ⟨decision, AppendLog.empty, ⟨decision_ok, rfl⟩, true, _,
    run_append_empty decision_authoritative, ?_⟩
  rw [EStateM.run_pure]

end ApprovedCandidate

end JlensEvolve.Governance
