import JlensEvolve.Governance.DecideSoundness

/-!
The state that the grade machine computes from a graph, put before governance
together with the claims it was computed from: counts, grade and E3 gates all
agree, so `decide` has nothing to reject as inconsistent.
-/

namespace JlensEvolve.Governance

open Library Contracts Evidence Registry

theorem taskPredictionEvidence_length {machine : EvidenceGradeMachine} {receipts : List Receipt}
    {evidence : List EvidenceEnvelope} {task : String} {mechanismId : Option String}
    {claimEvidenceIds ids : List String}
    (h : taskPredictionEvidence machine receipts evidence task mechanismId claimEvidenceIds =
      some ids) : ids.length = 6 := by
  unfold taskPredictionEvidence at h
  iterate 5 obtain ⟨_, _, h⟩ := Option.bind_eq_some_iff.mp h
  split at h
  · iterate 4 obtain ⟨_, _, h⟩ := Option.bind_eq_some_iff.mp h
    cases h
    rfl
  · cases h

theorem length_le_flatten {rows : List (List String)} {count : Nat}
    (h : ∀ ids ∈ rows, count ≤ ids.length) : rows.length * count ≤ rows.flatten.length := by
  induction rows with
  | nil => simp
  | cons ids rest ih =>
    have hfirst := h ids List.mem_cons_self
    have hrest := ih fun other hother => h other (List.mem_cons_of_mem _ hother)
    rw [List.length_cons, List.flatten_cons, List.length_append, Nat.succ_mul]
    omega

section Aggregated

variable {machine : EvidenceGradeMachine} {candidateId : String}
  {taskProjects : Dict String String} {mechanismId : Option String}
  {evidence : List EvidenceEnvelope} {claims : List Claim} {tasks : List String}
  {receipts : List Receipt} {row : Aggregation}

theorem taskCount_of_aggregated
    (h : AggregatedFrom machine candidateId taskProjects mechanismId evidence claims tasks
      receipts row) : row.taskCount = claims.length := by
  rw [← h.values, Aggregation.claims, Dict.values, List.length_map]
  rfl

theorem enough_prediction_evidence
    (h : AggregatedFrom machine candidateId taskProjects mechanismId evidence claims tasks
      receipts row) (hall : row.predictionConsistent = row.taskCount) :
    row.taskCount * 2 ≤ (row.state candidateId mechanismId).predictionEvidenceIds.length := by
  have hanswers := answered_of_consistent h.predictionEvidence hall
  have hcount : row.predictionEvidence.length = row.taskCount := by
    rw [h.predictionEvidence, List.length_map]
    rfl
  have hsix : ∀ ids ∈ row.predictionEvidence, 2 ≤ ids.length := by
    intro ids hids
    rw [h.predictionEvidence] at hids
    obtain ⟨entry, hentry, rfl⟩ := List.mem_map.mp hids
    obtain ⟨answer, hanswer⟩ := hanswers entry hentry
    rw [hanswer, Option.getD_some, taskPredictionEvidence_length hanswer]
    omega
  have hflat := length_le_flatten hsix
  rw [hcount] at hflat
  rw [Aggregation.state, List.length_insertionSort]
  exact hflat

theorem e3GatesMet_of_aggregated
    (h : AggregatedFrom machine candidateId taskProjects mechanismId evidence claims tasks
      receipts row) (heligible : row.e3Eligible mechanismId = true) :
    e3GatesMet (row.state candidateId mechanismId) = true := by
  have hgates := heligible
  simp only [Aggregation.e3Eligible, Bool.and_eq_true, decide_eq_true_eq] at hgates
  obtain ⟨⟨⟨⟨⟨⟨⟨⟨hmechanism, hthree⟩, htwo⟩, hgains⟩, hregression⟩, hinfra⟩, -⟩, -⟩,
    hconsistent⟩ := hgates
  have henough := enough_prediction_evidence h hconsistent
  have hnamed : mechanismId.any (· ≠ "") = true := by
    cases mechanismId with
    | none => exact hmechanism
    | some mechanism =>
      apply decide_eq_true
      rintro rfl
      cases hmechanism
  have hstate : (row.state candidateId mechanismId).e3Eligible = true := heligible
  have hcounts : (row.state candidateId mechanismId).mechanismId = mechanismId := rfl
  unfold e3GatesMet
  rw [hstate, hcounts, hnamed]
  simp only [Bool.and_eq_true, decide_eq_true_eq, Bool.true_and, and_true]
  exact ⟨⟨⟨⟨⟨⟨hthree, htwo⟩, hgains⟩, hregression⟩, hinfra⟩, hconsistent⟩, henough⟩

theorem validateEvidenceState_of_aggregated
    (h : AggregatedFrom machine candidateId taskProjects mechanismId evidence claims tasks
      receipts row) : validateEvidenceState (row.state candidateId mechanismId) claims = .ok () := by
  have hvalues := h.values
  have hcount := taskCount_of_aggregated h
  simp only [validateEvidenceState, except_bind_ok_iff, contractIf_ok_iff]
  refine ⟨(), ?_, (), ?_, ?_⟩
  · rw [← hvalues] at hcount ⊢
    simp only [Aggregation.state, hcount]
    simp
  · rintro ⟨hinfra, hgrade⟩
    apply hgrade
    simp only [Aggregation.state, Aggregation.grade]
    exact if_pos hinfra
  · rintro ⟨hgrade, hgates⟩
    rw [e3GatesMet_of_aggregated h (Aggregation.grade_eq_E3 hgrade)] at hgates
    cases hgates

end Aggregated

theorem validateEvidenceState_perm {evidence : CandidateEvidenceState} {first second : List Claim}
    (hperm : first.Perm second) (h : validateEvidenceState evidence second = .ok ()) :
    validateEvidenceState evidence first = .ok () := by
  simp only [validateEvidenceState, except_bind_ok_iff, contractIf_ok_iff] at h ⊢
  simp only [countOf, hperm.length_eq, hperm.countP_eq] at h ⊢
  exact h

theorem sortedTexts_eq_of_perm {first second : List String} (h : first.Perm second) :
    sortedTexts first = sortedTexts second := by
  have hsorted : ∀ texts : List String, (sortedTexts texts).Pairwise (· ≤ ·) :=
    fun texts => List.pairwise_insertionSort _ _
  have hperm := (sortedTexts_perm first).trans (h.trans (sortedTexts_perm second).symm)
  exact hperm.eq_of_pairwise' (hsorted first) (hsorted second)

/-- What `decide` compares before it evaluates the gates holds of an aggregated
state and the claims of the graph it came from, in whatever order they come. -/
theorem aggregate_accepted {machine : EvidenceGradeMachine} {candidateId : String}
    {taskProjects : Dict String String} {mechanismId : Option String}
    {state : CandidateEvidenceState} {latest rows : List Claim}
    (h : machine.aggregate candidateId taskProjects mechanismId = .ok state)
    (hlatest : machine.graph.latestClaims = .ok latest)
    (hrows : rows.Perm (latest.filter (fun claim => claim.candidateId = candidateId))) :
    validateEvidenceState state rows = .ok () ∧ state.candidateId = candidateId ∧
      sortedTexts (rows.map Claim.claimId) = sortedTexts state.claimIds := by
  have hread : machine.graph.latestClaims.map
      (List.filter (fun claim => claim.candidateId = candidateId)) =
        .ok (latest.filter (fun claim => claim.candidateId = candidateId)) := by
    rw [hlatest]
    rfl
  rw [sortedTexts_eq_of_perm (hrows.map Claim.claimId)]
  rcases aggregate_eq_ok h with ⟨rfl, hnone⟩ | ⟨evidence, claims, tasks, receipts, row, rfl, hrow⟩
  · rw [hread] at hnone
    rw [Except.ok.inj hnone] at hrows ⊢
    exact ⟨validateEvidenceState_perm hrows rfl, rfl, rfl⟩
  · have hclaims := hrow.claimsRead
    rw [hread] at hclaims
    rw [Except.ok.inj hclaims] at hrows ⊢
    refine ⟨validateEvidenceState_perm hrows (validateEvidenceState_of_aggregated hrow), rfl, ?_⟩
    rw [Aggregation.state, hrow.values]
    exact sortedTexts_eq_of_perm (List.perm_insertionSort _ _).symm

/-- An E3 state is accepted with its claims. -/
theorem aggregate_accepted_candidate :
    validateEvidenceState ApprovedCandidate.state ApprovedCandidate.rows = .ok () ∧
      ApprovedCandidate.state.candidateId = "candidate" ∧
      sortedTexts (ApprovedCandidate.rows.map Claim.claimId) =
        sortedTexts ApprovedCandidate.state.claimIds :=
  aggregate_accepted SupportedCandidate.aggregate_ok SupportedCandidate.latestClaims_ok
    (List.Perm.refl _)

end JlensEvolve.Governance
