import JlensEvolve.Evidence.ClaimClosure
import JlensEvolve.Library.Replacement

/-!
Supersession over whole runs of `append_claim`. An append asks that the
superseded claim is about the same candidate and nothing about its tasks, so
every claim lives on in a latest claim of its candidate, but a task does so
only when the claims that supersede it keep it.
-/

namespace JlensEvolve.Evidence

open Library Contracts

/-- The arguments of a call; the claim has passed its constructor. -/
structure ClaimAppend where
  claim : Claim
  counterfactualPair : Option MatchedCounterfactualPair
  constructed : claim.postInit true = true

/-- A call that raises writes nothing. -/
def EvidenceGraph.afterAppend (graph : EvidenceGraph) (call : ClaimAppend) : EvidenceGraph :=
  match graph.appendClaim call.claim call.counterfactualPair with
  | .ok after => after
  | .error _ => graph

theorem afterAppend_of_ok {graph after : EvidenceGraph} {claim : Claim}
    {pair : Option MatchedCounterfactualPair} (constructed : claim.postInit true = true)
    (h : graph.appendClaim claim pair = .ok after) :
    graph.afterAppend ⟨claim, pair, constructed⟩ = after := by
  rw [EvidenceGraph.afterAppend, h]

def EvidenceGraph.withoutClaims (evidenceLines : List (StoredLine EvidenceEnvelope))
    (allowLegacyUnboundClaims : Bool) : EvidenceGraph :=
  ⟨evidenceLines, [], allowLegacyUnboundClaims⟩

def SameCandidate (old new : Claim) : Prop := old.candidateId = new.candidateId

abbrev AppendedClaims : List Claim → Prop :=
  Replacement.Appended Claim.claimId Claim.supersedesClaimId SameCandidate

/-- `new` supersedes `old`, both being in the file. -/
abbrev Supersedes : List Claim → Claim → Claim → Prop :=
  Replacement.Replaces Claim.claimId Claim.supersedesClaimId

theorem mem_latestOf {claims : List Claim} {claim : Claim} :
    claim ∈ latestOf claims ↔
      claim ∈ Replacement.latest Claim.claimId Claim.supersedesClaimId claims := by
  simp [latestOf, Replacement.latest]

theorem postInit_of_checkNewBinding {graph : EvidenceGraph} {claim : Claim}
    {counterfactualPair : Option MatchedCounterfactualPair} (hvalid : claim.postInit true = true)
    (h : graph.checkNewBinding claim counterfactualPair = .ok ()) :
    claim.postInit false = true := by
  simp only [Claim.postInit, Bool.and_eq_true] at hvalid ⊢
  refine ⟨hvalid.1, ?_⟩
  by_cases hrank : 2 ≤ claim.grade.rank
  · have hgrade := hvalid.2
    rw [if_pos hrank] at hgrade ⊢
    cases counterfactualPair with
    | none =>
      simp only [EvidenceGraph.checkNewBinding, if_pos hrank] at h
      cases h
    | some pair =>
      simp only [EvidenceGraph.checkNewBinding, if_pos hrank, validateAppendedCounterfactual,
        except_bind_ok_iff, require_ok_iff] at h
      obtain ⟨_, _, _, ⟨_, hbound, _⟩, _⟩ := h
      have hsome : ¬claim.counterfactualPairSha256.isNone = true := by
        rw [← hbound]
        simp
      rw [if_neg hsome] at hgrade ⊢
      exact hgrade
  · rw [if_neg hrank]

theorem appendClaim_new {graph : EvidenceGraph} {existing : List Claim} {claim : Claim}
    {counterfactualPair : Option MatchedCounterfactualPair}
    (hexisting : graph.listClaims = .ok existing)
    (hbinding : graph.checkNewBinding claim counterfactualPair = .ok ())
    (hsupersession : checkSupersession existing claim = .ok ())
    (hnew : claim.claimId ∉ existing.map Claim.claimId) :
    graph.appendClaim claim counterfactualPair = .ok (graph.withClaim claim) := by
  have hnone : existing.find? (fun item => item.claimId = claim.claimId) = none := by
    rw [List.find?_eq_none]
    intro item hitem hid
    exact hnew (List.mem_map.mpr ⟨item, hitem, by simpa using hid⟩)
  simp only [EvidenceGraph.appendClaim, except_bind_ok_iff]
  exact ⟨existing, hexisting, (), hbinding, (), hsupersession, by rw [hnone]; rfl⟩

/-- The graph reads back a claims file that appends can write. -/
def EvidenceGraph.Consistent (graph : EvidenceGraph) : Prop :=
  ∃ claims, graph.listClaims = .ok claims ∧ AppendedClaims claims

theorem consistent_afterAppend (graph : EvidenceGraph) (call : ClaimAppend)
    (h : graph.Consistent) : (graph.afterAppend call).Consistent := by
  unfold EvidenceGraph.afterAppend
  cases happend : graph.appendClaim call.claim call.counterfactualPair with
  | error e => exact h
  | ok after =>
    obtain ⟨claims, hclaims, happended⟩ := h
    obtain ⟨existing, hexisting, hsupersession, hafter⟩ := appendClaim_eq_ok happend
    obtain rfl := Except.ok.inj (hexisting.symm.trans hclaims)
    rcases hafter with ⟨rfl, -⟩ | ⟨hnew, rfl⟩
    · exact ⟨existing, hclaims, happended⟩
    · have hbinding : graph.checkNewBinding call.claim call.counterfactualPair = .ok () := by
        simp only [EvidenceGraph.appendClaim, except_bind_ok_iff] at happend
        obtain ⟨_, _, _, hbinding, _⟩ := happend
        exact hbinding
      have hvalid := postInit_of_checkNewBinding call.constructed hbinding
      rw [checkSupersession_ok_iff _ _ happended.nodup] at hsupersession
      exact ⟨_, listClaims_withClaim hclaims hvalid hnew, happended.snoc hnew hsupersession⟩

/-- Every task a claim binds is bound by a latest claim of its candidate. -/
def NothingHidden (evidence : List EvidenceEnvelope) (claims : List Claim) : Prop :=
  ∀ claim ∈ claims, ∀ task ∈ boundTasks evidence claim,
    ∃ last ∈ latestOf claims, last.candidateId = claim.candidateId ∧
      task ∈ boundTasks evidence last

/-- A claim binds every task of the claim it supersedes. -/
def KeepsTasks (evidence : List EvidenceEnvelope) (claims : List Claim) : Prop :=
  ∀ old new, Supersedes claims old new →
    ∀ task ∈ boundTasks evidence old, task ∈ boundTasks evidence new

theorem latest_of_appended {claims : List Claim} (happended : AppendedClaims claims)
    {claim : Claim} (hclaim : claim ∈ claims) :
    ∃ last ∈ latestOf claims, last.candidateId = claim.candidateId ∧
      Relation.ReflTransGen (Supersedes claims) claim last := by
  obtain ⟨last, hlast, hchain⟩ := happended.exists_latest hclaim
  refine ⟨last, mem_latestOf.mpr hlast, ?_, hchain⟩
  apply Replacement.kept_along (P := fun other => other.candidateId = claim.candidateId) _ hchain rfl
  intro old new hsupersedes hold
  rw [← hold]
  exact (happended.replaces_allowed hsupersedes).symm

theorem nothingHidden_of_keepsTasks {claims : List Claim} (happended : AppendedClaims claims)
    {evidence : List EvidenceEnvelope} (hkeeps : KeepsTasks evidence claims) :
    NothingHidden evidence claims := by
  intro claim hclaim task htask
  obtain ⟨last, hlast, hcandidate, hchain⟩ := latest_of_appended happended hclaim
  refine ⟨last, hlast, hcandidate, ?_⟩
  exact Replacement.kept_along (P := fun other => task ∈ boundTasks evidence other)
    (fun old new hsupersedes hold => hkeeps old new hsupersedes task hold) hchain htask

namespace Correction

/-- Evidence about one task. -/
def row (task : String) : EvidenceEnvelope :=
  { evidenceId := "evidence-" ++ task, receiptIds := ["receipt"], observerId := "native-v1"
    grade := .E1, payload := [("task_revision_id", .str task)]
    artifactSha256 := SupportedCandidate.digest }

def evidence : List EvidenceEnvelope := [row "task-a", row "task-b"]

def evidenceLines : List (StoredLine EvidenceEnvelope) :=
  evidence.map fun row => .record row row.contentSha256

def regression : Claim :=
  { claimId := "claim-1", candidateId := "candidate", grade := .E1
    classification := .regression, evidenceIds := ["evidence-task-a"]
    rationale := "baseline resolved and taught failed", supersedesClaimId := none
    counterfactualPairSha256 := none, counterfactualReceiptIds := [] }

/-- A later claim that supersedes it, about a task of its own. -/
def correction (task : String) : Claim :=
  { claimId := "claim-2", candidateId := "candidate", grade := .E1, classification := .neutral
    evidenceIds := ["evidence-" ++ task], rationale := "baseline and taught both resolved"
    supersedesClaimId := some "claim-1", counterfactualPairSha256 := none
    counterfactualReceiptIds := [] }

theorem regression_valid : regression.postInit false = true := by decide

theorem correction_valid (task : String) : (correction task).postInit false = true := by
  have hid : isText "claim-2" = true := by decide
  have hcandidate : isText "candidate" = true := by decide
  have hrationale : isText "baseline and taught both resolved" = true := by decide
  simp [Claim.postInit, correction, hid, hcandidate, hrationale, ClaimGrade.rank]

def appends (task : String) : List ClaimAppend :=
  [⟨regression, none, postInit_legacy regression_valid⟩,
    ⟨correction task, none, postInit_legacy (correction_valid task)⟩]

def start : EvidenceGraph := .withoutClaims evidenceLines false

theorem appended (task : String) :
    start.appendClaim regression none = .ok (start.withClaim regression) ∧
      (start.withClaim regression).appendClaim (correction task) none =
        .ok ((start.withClaim regression).withClaim (correction task)) ∧
      ((start.withClaim regression).withClaim (correction task)).listClaims =
        .ok [regression, correction task] := by
  have hempty : start.listClaims = .ok [] := rfl
  have hfirst : (start.withClaim regression).listClaims = .ok [regression] :=
    listClaims_withClaim hempty regression_valid (by simp)
  have hnew : (correction task).claimId ∉ [regression].map Claim.claimId := by
    simp [correction, regression]
  refine ⟨appendClaim_new hempty rfl rfl (by simp), appendClaim_new hfirst rfl ?_ hnew,
    listClaims_withClaim hfirst (correction_valid task) hnew⟩
  rw [checkSupersession_ok_iff _ _ (listClaims_nodup hfirst)]
  rintro _ ⟨⟩
  exact ⟨regression, by simp, rfl, rfl⟩

theorem run_appends (task : String) :
    (run EvidenceGraph.afterAppend start (appends task)).listClaims =
      .ok [regression, correction task] := by
  obtain ⟨hfirst, hsecond, hlisted⟩ := appended task
  rw [appends, run_cons, run_cons, run_nil, afterAppend_of_ok _ hfirst,
    afterAppend_of_ok _ hsecond]
  exact hlisted

theorem boundTasks_regression : boundTasks evidence regression = ["task-a"] := by
  decide

theorem boundTasks_correction :
    boundTasks evidence (correction "task-a") = ["task-a"] ∧
      boundTasks evidence (correction "task-b") = ["task-b"] := by
  decide

theorem latestOf_appends (task : String) :
    latestOf [regression, correction task] = [correction task] := by
  simp [latestOf, regression, correction]

theorem listEvidence_ok : start.listEvidence = .ok evidence := by
  apply EvidenceGraph.listEvidence_wellFormed rfl
  · simp only [evidence, List.mem_cons, List.not_mem_nil, or_false, forall_eq_or_imp, forall_eq]
    decide
  · decide

end Correction

/-- After any sequence of appends, each claim is superseded, in any number of
steps, by a latest claim of its candidate; and no task is hidden when each
superseding claim binds the tasks of the claim it supersedes. -/
theorem latestClaims_after_appends (evidenceLines : List (StoredLine EvidenceEnvelope))
    (allowLegacyUnboundClaims : Bool) (calls : List ClaimAppend) :
    ∃ claims, (run EvidenceGraph.afterAppend
          (.withoutClaims evidenceLines allowLegacyUnboundClaims) calls).listClaims = .ok claims ∧
      (run EvidenceGraph.afterAppend
          (.withoutClaims evidenceLines allowLegacyUnboundClaims) calls).latestClaims =
        .ok (latestOf claims) ∧
      (∀ claim ∈ claims, ∃ last ∈ latestOf claims, last.candidateId = claim.candidateId ∧
        Relation.ReflTransGen (Supersedes claims) claim last) ∧
      ∀ evidence, KeepsTasks evidence claims → NothingHidden evidence claims := by
  have hstart : (EvidenceGraph.withoutClaims evidenceLines allowLegacyUnboundClaims).Consistent :=
    ⟨[], rfl, .nil⟩
  obtain ⟨claims, hclaims, happended⟩ :=
    run_invariant consistent_afterAppend _ calls hstart
  refine ⟨claims, hclaims, ?_, ?_, ?_⟩
  · rw [EvidenceGraph.latestClaims, hclaims]
    rfl
  · intro claim hclaim
    exact latest_of_appended happended hclaim
  · intro evidence hkeeps
    exact nothingHidden_of_keepsTasks happended hkeeps

namespace Correction

/-- A correction about the same task hides nothing. -/
theorem latestClaims_same_task : NothingHidden evidence [regression, correction "task-a"] := by
  obtain ⟨claims, hclaims, -, -, hhidden⟩ :=
    latestClaims_after_appends evidenceLines false (appends "task-a")
  obtain rfl := Except.ok.inj (hclaims.symm.trans (run_appends "task-a"))
  apply hhidden
  rintro old new ⟨hold, hnew, -⟩ task htask
  have htasks : ∀ claim ∈ [regression, correction "task-a"],
      boundTasks evidence claim = ["task-a"] := by
    simp [boundTasks_regression, boundTasks_correction.1]
  rw [htasks old hold] at htask
  rw [htasks new hnew]
  exact htask

/-- Two appends that succeed, after which the regression on its task is bound
by no latest claim. -/
theorem latestClaims_other_task :
    start.listEvidence = .ok evidence ∧
      start.appendClaim regression none = .ok (start.withClaim regression) ∧
      (start.withClaim regression).appendClaim (correction "task-b") none =
        .ok ((start.withClaim regression).withClaim (correction "task-b")) ∧
      ((start.withClaim regression).withClaim (correction "task-b")).latestClaims =
        .ok [correction "task-b"] ∧
      "task-a" ∈ boundTasks evidence regression ∧
      "task-a" ∉ boundTasks evidence (correction "task-b") ∧
      ¬NothingHidden evidence [regression, correction "task-b"] := by
  obtain ⟨hfirst, hsecond, hlisted⟩ := appended "task-b"
  have hregression : "task-a" ∈ boundTasks evidence regression := by simp [boundTasks_regression]
  have hcorrection : "task-a" ∉ boundTasks evidence (correction "task-b") := by
    simp [boundTasks_correction.2]
  refine ⟨listEvidence_ok, hfirst, hsecond, ?_, hregression, hcorrection, ?_⟩
  · rw [EvidenceGraph.latestClaims, hlisted, Except.map, latestOf_appends]
  · intro hnothing
    obtain ⟨last, hlast, -, hbound⟩ := hnothing regression (by simp) "task-a" hregression
    rw [latestOf_appends, List.mem_singleton] at hlast
    exact hcorrection (hlast ▸ hbound)

end Correction

end JlensEvolve.Evidence
