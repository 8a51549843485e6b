import JlensEvolve.Evidence.ObservedExecution
import JlensEvolve.Library.Transition

/-!
Runs of the claim engine. A claim that `classify_pair` appends is read back and
rebuilt, unless a counterfactual pair came with an infrastructure failure or
rests on a receipt that names another plan: the append takes these claims, and
every later rebuild refuses the graph.
-/

namespace JlensEvolve.Evidence

open Library Contracts

theorem constructClaim_eq_ok {claim constructed : Claim}
    (h : constructClaim claim = .ok constructed) :
    constructed = claim ∧ claim.postInit false = true := by
  simp only [constructClaim, requireText, except_bind_ok_iff, requireContract_ok_iff] at h
  obtain ⟨_, hid, _, hcandidate, _, hrationale, _, hevidence, _, hsha, _, hreceipts, h⟩ := h
  have hshaAll : claim.counterfactualPairSha256.all isSha256 = true := by
    cases hpair : claim.counterfactualPairSha256 with
    | none => rfl
    | some sha256 =>
      rw [hpair] at hsha
      exact (requireContract_ok_iff _ _ _).mp hsha
  have hreceiptsAll : claim.counterfactualReceiptIds.all isText = true := by
    rw [List.all_eq_true]
    intro id hid
    obtain ⟨u, hu⟩ := mapM_ok_mem hreceipts hid
    exact (requireContract_ok_iff _ _ u).mp hu
  have hsome : claim.evidenceIds.isEmpty = false := by
    rw [List.isEmpty_eq_false_iff]
    exact hevidence
  split at h
  · rename_i hgrade
    simp only [except_bind_ok_iff, requireContract_ok_iff] at h
    obtain ⟨_, hpair, _, hlengths, hsame⟩ := h
    cases hsame
    refine ⟨rfl, ?_⟩
    have hbound : claim.counterfactualPairSha256.isNone = false := by
      rw [Option.isNone_eq_false_iff, Option.isSome_iff_ne_none]
      exact hpair
    simp [Claim.postInit, hid, hcandidate, hrationale, hsome, hshaAll, hreceiptsAll, hgrade, hbound,
      hlengths.1, hlengths.2]
  · rename_i hgrade
    cases h
    exact ⟨rfl, by simp [Claim.postInit, hid, hcandidate, hrationale, hsome, hshaAll, hreceiptsAll,
      hgrade]⟩

theorem constructClaim_of_postInit {claim : Claim} (h : claim.postInit false = true) :
    constructClaim claim = .ok claim := by
  simp only [Claim.postInit, Bool.and_eq_true] at h
  obtain ⟨⟨⟨⟨⟨⟨hid, hcandidate⟩, hrationale⟩, hevidence⟩, hsha⟩, hreceipts⟩, hgrade⟩ := h
  have hshaOk : requireOptionalSha256 "counterfactual_pair_sha256"
      claim.counterfactualPairSha256 = .ok () := by
    cases hpair : claim.counterfactualPairSha256 with
    | none => rfl
    | some sha256 =>
      rw [hpair] at hsha
      exact (requireContract_ok_iff _ _ _).mpr hsha
  obtain ⟨answers, hanswers⟩ := mapM_ok_of_forall (f := requireText "counterfactual receipt id")
    fun id hid => ⟨(), (requireContract_ok_iff _ _ _).mpr (List.all_eq_true.mp hreceipts id hid)⟩
  have hsome : claim.evidenceIds ≠ [] := by
    intro hnil
    simp [hnil] at hevidence
  simp only [constructClaim, requireText, except_bind_ok_iff, requireContract_ok_iff]
  refine ⟨(), hid, (), hcandidate, (), hrationale, (), hsome, (), hshaOk, answers, hanswers, ?_⟩
  split at hgrade
  · rename_i hrank
    split at hgrade
    · cases hgrade
    · rename_i hbound
      rw [if_pos hrank]
      simp only [Bool.and_eq_true, beq_iff_eq] at hgrade
      simp only [except_bind_ok_iff, requireContract_ok_iff]
      refine ⟨(), ?_, (), hgrade, rfl⟩
      simpa using hbound
  · rename_i hrank
    rw [if_neg hrank]
    rfl

def EvidenceGraph.withClaim (graph : EvidenceGraph) (claim : Claim) : EvidenceGraph :=
  { graph with claimLines := graph.claimLines ++ [.record ⟨claim, true⟩ claim.contentSha256] }

theorem checkSupersession_ok_iff (existing : List Claim) (claim : Claim)
    (hnodup : (existing.map Claim.claimId).Nodup) :
    checkSupersession existing claim = .ok () ↔
      ∀ supersedes, claim.supersedesClaimId = some supersedes →
        ∃ prior ∈ existing, prior.claimId = supersedes ∧ prior.candidateId = claim.candidateId := by
  unfold checkSupersession
  cases claim.supersedesClaimId with
  | none => simp
  | some supersedes =>
    simp only [Option.some.injEq, forall_eq']
    cases hfind : existing.find? (fun item => item.claimId = supersedes) with
    | none =>
      simp only [reduceCtorEq, false_iff, not_exists, not_and]
      intro prior hprior hid
      exact absurd hid (by simpa using List.find?_eq_none.mp hfind prior hprior)
    | some found =>
      have hmem := List.mem_of_find?_eq_some hfind
      have hid : found.claimId = supersedes := by simpa using List.find?_some hfind
      simp only [require_ok_iff]
      constructor
      · intro hcandidate
        exact ⟨found, hmem, hid, hcandidate⟩
      · rintro ⟨prior, hprior, hpriorId, hcandidate⟩
        rw [List.inj_on_of_nodup_map hnodup hmem hprior (hid.trans hpriorId.symm)]
        exact hcandidate

/-- What an append that returns did: it found the same claim, or wrote a line
under a new id. -/
theorem appendClaim_eq_ok {graph after : EvidenceGraph} {claim : Claim}
    {counterfactualPair : Option MatchedCounterfactualPair}
    (h : graph.appendClaim claim counterfactualPair = .ok after) :
    ∃ existing, graph.listClaims = .ok existing ∧ checkSupersession existing claim = .ok () ∧
      ((after = graph ∧ claim ∈ existing) ∨
        (claim.claimId ∉ existing.map Claim.claimId ∧ after = graph.withClaim claim)) := by
  simp only [EvidenceGraph.appendClaim, except_bind_ok_iff] at h
  obtain ⟨existing, hexisting, _, _, _, hsupersession, h⟩ := h
  refine ⟨existing, hexisting, hsupersession, ?_⟩
  split at h
  · rename_i prior hprior
    simp only [except_bind_ok_iff, require_ok_iff] at h
    obtain ⟨_, hsame, hafter⟩ := h
    cases hafter
    exact Or.inl ⟨rfl, hsame ▸ List.mem_of_find?_eq_some hprior⟩
  · rename_i hnone
    cases h
    refine Or.inr ⟨?_, rfl⟩
    intro hmem
    obtain ⟨prior, hprior, hid⟩ := List.mem_map.mp hmem
    exact absurd hid (by simpa using List.find?_eq_none.mp hnone prior hprior)

theorem listClaims_nodup {graph : EvidenceGraph} {claims : List Claim}
    (h : graph.listClaims = .ok claims) : (claims.map Claim.claimId).Nodup :=
  readGraphLines_nodup _ _ _ _ (by simp) h

theorem listEvidence_nodup {graph : EvidenceGraph} {evidence : List EvidenceEnvelope}
    (h : graph.listEvidence = .ok evidence) :
    (evidence.map EvidenceEnvelope.evidenceId).Nodup :=
  readGraphLines_nodup _ _ _ _ (by simp) h

theorem readGraphLines_append {ρ α : Type} {file : String} {construct : ρ → Option α}
    {idOf : α → String} {contentSha256 : α → String} {same : α → α → Bool}
    (lines : List (StoredLine ρ)) (lineNumber : Nat) (acc output : List α) (raw : ρ) (item : α)
    (h : readGraphLines file construct idOf contentSha256 same lines lineNumber acc = .ok output)
    (hconstruct : construct raw = some item) (hnew : idOf item ∉ output.map idOf) :
    readGraphLines file construct idOf contentSha256 same
      (lines ++ [.record raw (contentSha256 item)]) lineNumber acc = .ok (output ++ [item]) := by
  induction lines generalizing lineNumber acc with
  | nil =>
    cases h
    have hfind : output.find? (fun prior => idOf prior = idOf item) = none := by
      rw [List.find?_eq_none]
      intro prior hprior hid
      exact hnew (List.mem_map.mpr ⟨prior, hprior, by simpa using hid⟩)
    simp [readGraphLines, hconstruct, hfind]
  | cons line rest ih =>
    cases line with
    | malformed => cases h
    | record first expected =>
      simp only [List.cons_append, readGraphLines] at h ⊢
      split at h
      · cases h
      · split at h
        · cases h
        · rename_i hhash
          rw [if_neg hhash]
          split at h
          · split at h
            · rename_i hsame
              rw [if_pos hsame]
              exact ih _ _ h
            · cases h
          · exact ih _ _ h

theorem listClaims_withClaim {graph : EvidenceGraph} {claims : List Claim} {claim : Claim}
    (h : graph.listClaims = .ok claims) (hvalid : claim.postInit false = true)
    (hnew : claim.claimId ∉ claims.map Claim.claimId) :
    (graph.withClaim claim).listClaims = .ok (claims ++ [claim]) := by
  apply readGraphLines_append _ _ _ _ _ _ h
  · simp [EvidenceGraph.constructClaim, hvalid]
  · exact hnew

/-- Neither native row reports an evaluator error. -/
def MatchedNativePair.Evaluated (pair : MatchedNativePair) : Prop :=
  reportsEvaluatorError pair.baseline.payload = false ∧
    reportsEvaluatorError pair.taught.payload = false

theorem payloadAt_eq_ok {payload : List (String × Json)} {key : String} {value : Json}
    (h : payloadAt payload key = .ok value) : payloadGet payload key = value := by
  unfold payloadAt at h
  unfold payloadGet
  cases hfield : Json.field? payload key with
  | none => simp [hfield, violation] at h
  | some found =>
    rw [hfield] at h
    cases h
    rfl

theorem evaluatorErrors_eq_nil_iff (baseline taught : List (String × Json)) :
    evaluatorErrors (payloadGet baseline "evaluator_error") (payloadGet taught "evaluator_error") =
        [] ↔
      reportsEvaluatorError baseline = false ∧ reportsEvaluatorError taught = false := by
  simp [evaluatorErrors, reportsEvaluatorError, List.filter_eq_nil_iff]

/-- An outcome is an infrastructure failure exactly when an evaluator reported
an error; otherwise it stands for the two resolved flags. -/
theorem classifyNative_eq_ok {pair : MatchedNativePair} {outcome : ClaimClassification × String}
    (h : classifyNative pair = .ok outcome) :
    (outcome.1 = .infraFailure ∧ ¬pair.Evaluated) ∨
      (pair.Evaluated ∧ ∃ baselineResolved taughtResolved,
        payloadGet pair.baseline.payload "resolved" = .bool baselineResolved ∧
        payloadGet pair.taught.payload "resolved" = .bool taughtResolved ∧
        outcome.1 = expectedClassification baselineResolved taughtResolved) := by
  simp only [classifyNative, except_bind_ok_iff] at h
  obtain ⟨baselineError, hbaseline, taughtError, htaught, h⟩ := h
  have herrors := payloadAt_eq_ok hbaseline ▸ payloadAt_eq_ok htaught ▸
    evaluatorErrors_eq_nil_iff pair.baseline.payload pair.taught.payload
  split at h
  · rename_i hsome
    cases h
    exact Or.inl ⟨rfl, fun hevaluated => hsome (herrors.mpr hevaluated)⟩
  · rename_i hnone
    simp only [except_bind_ok_iff] at h
    obtain ⟨_, hbaselineResolved, _, htaughtResolved, h⟩ := h
    refine Or.inr ⟨herrors.mp (not_not.mp hnone), ?_⟩
    split at h
    · rename_i baseline taught
      cases h
      exact ⟨baseline, taught, payloadAt_eq_ok hbaselineResolved, payloadAt_eq_ok htaughtResolved,
        rfl⟩
    · cases h

theorem expectedClassification_ne_infraFailure (baselineResolved taughtResolved : Bool) :
    expectedClassification baselineResolved taughtResolved ≠ .infraFailure := by
  cases baselineResolved <;> cases taughtResolved <;> simp [expectedClassification]

theorem classifyPair_eq_ok {graph after : EvidenceGraph} {candidateId : String}
    {nativePair : MatchedNativePair} {counterfactualPair : Option MatchedCounterfactualPair}
    {supersedes : Option Claim} {claim : Claim}
    (h : classifyPair graph candidateId nativePair counterfactualPair supersedes =
      .ok (claim, after)) :
    ∃ outcome, classifyNative nativePair = .ok outcome ∧
      validateClassifiedPair graph candidateId nativePair outcome.1 counterfactualPair = .ok () ∧
      claim = claimFor candidateId nativePair outcome.1 outcome.2 counterfactualPair
        (supersedes.map Claim.claimId) ∧
      claim.postInit false = true ∧ graph.appendClaim claim counterfactualPair = .ok after := by
  simp only [classifyPair, except_bind_ok_iff] at h
  obtain ⟨outcome, houtcome, _, hvalidated, constructed, hconstruct, appended, happend, hresult⟩ :=
    h
  obtain ⟨hsame, hvalid⟩ := constructClaim_eq_ok hconstruct
  cases hresult
  rw [← hsame] at hvalid
  exact ⟨outcome, houtcome, hvalidated, hsame, hvalid, happend⟩

theorem validateClassifiedPair_eq_ok {graph : EvidenceGraph} {candidateId : String}
    {nativePair : MatchedNativePair} {classification : ClaimClassification}
    {pair : MatchedCounterfactualPair} (hclass : classification ≠ .infraFailure)
    (h : validateClassifiedPair graph candidateId nativePair classification (some pair) =
      .ok ()) :
    pair.candidateId = candidateId ∧
      pair.baseline.nativeOutcomeEvidenceId = nativePair.baseline.evidenceId ∧
      pair.taught.nativeOutcomeEvidenceId = nativePair.taught.evidenceId := by
  simp only [validateClassifiedPair, if_pos hclass, validateCounterfactualBinding,
    except_bind_ok_iff, requireContract_ok_iff] at h
  obtain ⟨_, ⟨_, hcandidate, _, hnative, _⟩, _⟩ := h
  exact ⟨hcandidate, hnative⟩

/-- The arguments of a call about two executions whose rows are in the stores,
with the counterfactual pair that was built from stored rows, if one is
supplied. -/
structure StoredCall (receipts : List Receipt) (evidence : List EvidenceEnvelope) where
  candidateId : String
  nativePair : MatchedNativePair
  source : Option BuiltPair
  supersedes : Option Claim
  baselineStored : nativePair.baseline ∈ evidence
  taughtStored : nativePair.taught ∈ evidence
  sourceStored : ∀ pair ∈ source, pair.Stored receipts evidence

section Stores

variable {receipts : List Receipt} {evidence : List EvidenceEnvelope} {graph after : EvidenceGraph}
  {claim : Claim} {source : BuiltPair}

def StoredCall.classify (call : StoredCall receipts evidence) (graph : EvidenceGraph) :
    Checked (Claim × EvidenceGraph) :=
  classifyPair graph call.candidateId call.nativePair (call.source.map BuiltPair.pair)
    call.supersedes

/-- A pair is rebuilt exactly when it came with evaluated executions and rests
on receipts that keep their plan. -/
theorem rebuildCounterfactualBinding_classified (call : StoredCall receipts evidence)
    (hevidence : (evidence.map EvidenceEnvelope.evidenceId).Nodup)
    (hreceipts : (receipts.map Receipt.receiptId).Nodup) (hsource : call.source = some source)
    (h : call.classify graph = .ok (claim, after)) :
    rebuildCounterfactualBinding claim evidence receipts = .ok () ↔
      call.nativePair.Evaluated ∧ source.KeepPlans := by
  obtain ⟨outcome, houtcome, hvalidated, hclaim, -, -⟩ := classifyPair_eq_ok h
  have hstored := call.sourceStored source hsource
  rw [hsource] at hvalidated hclaim
  have hids : claim.evidenceIds = source.pair.evidenceIds := by rw [hclaim]; rfl
  have hclassified : claim.classification = outcome.1 := by rw [hclaim]; rfl
  rw [rebuildCounterfactualBinding_ok_iff]
  rcases classifyNative_eq_ok houtcome with ⟨hinfra, herror⟩ |
    ⟨hevaluated, baselineResolved, taughtResolved, hbaseline, htaught, hclass⟩
  · constructor
    · rintro ⟨_, _, _, _, _, _, _, _, _, baselineResolved, taughtResolved, _, _, hexpected⟩
      exact absurd (hexpected.symm.trans (hclassified.trans hinfra))
        (expectedClassification_ne_infraFailure baselineResolved taughtResolved)
    · intro hboth
      exact absurd hboth.1 herror
  · have hnotInfra : outcome.1 ≠ .infraFailure := by
      rw [hclass]
      exact expectedClassification_ne_infraFailure baselineResolved taughtResolved
    obtain ⟨hcandidate, hbaselineId, htaughtId⟩ := validateClassifiedPair_eq_ok hnotInfra hvalidated
    obtain ⟨hbuiltCandidate, hbuiltBaseline, hbuiltTaught⟩ := buildPair_eq_ok source.built
    -- the rows of the pair and of the native alignment are the same stored rows
    have hbaselineRow : source.baseline.native = call.nativePair.baseline :=
      List.inj_on_of_nodup_map hevidence hstored.baseline.native call.baselineStored
        (hbuiltBaseline.nativeId.symm.trans hbaselineId)
    have htaughtRow : source.taught.native = call.nativePair.taught :=
      List.inj_on_of_nodup_map hevidence hstored.taught.native call.taughtStored
        (hbuiltTaught.nativeId.symm.trans htaughtId)
    have hclaimant : claim.candidateId = source.candidateId := by
      rw [hclaim]
      exact hcandidate.symm.trans hbuiltCandidate
    have hrows := rederivedRows_stored source.built hids hstored.baseline hstored.taught hevidence
    have hderived := rederivePair_stored source.built hids hclaimant hstored.baseline
      hstored.taught hevidence hreceipts
    constructor
    · rintro ⟨_, pair, _, hpair, -⟩
      exact ⟨hevaluated, (hderived pair).mp hpair |>.1, (hderived pair).mp hpair |>.2.1⟩
    · rintro ⟨-, hkeepBaseline, hkeepTaught⟩
      refine ⟨_, source.pair, hrows, (hderived _).mpr ⟨hkeepBaseline, hkeepTaught, rfl⟩, hids.symm,
        ?_, ?_, ?_, ?_, baselineResolved, taughtResolved, ?_, ?_, hclassified.trans hclass⟩
      · rw [hclaim]; rfl
      · rw [hclaim]; rfl
      · exact hbaselineRow ▸ hevaluated.1
      · exact htaughtRow ▸ hevaluated.2
      · exact hbaselineRow ▸ hbaseline
      · exact htaughtRow ▸ htaught

end Stores

namespace ObservedExecution

open SupportedCandidate

variable {error : Json} {strayed : Bool}

def nativePair (error : Json) (strayed : Bool) : MatchedNativePair :=
  { baseline := nativeRow error strayed false, taught := nativeRow error strayed true
    matchedIdentity := [("task_revision_id", .str task), ("task_source_sha256", .str digest),
      ("model_identity", .str "provider/model@1"), ("native_evaluator_id", .str "evaluator"),
      ("execution_config_sha256", .str digest)] }

def call (error : Json) (strayed : Bool) :
    StoredCall (receipts error strayed) (evidence error strayed) where
  candidateId := "candidate"
  nativePair := nativePair error strayed
  source := some (builtPair error strayed)
  supersedes := none
  baselineStored := (row_mem false).2
  taughtStored := (row_mem true).2
  sourceStored := by
    rintro _ ⟨⟩
    exact builtPair_stored

theorem evidenceById_row {row : EvidenceEnvelope} (h : row ∈ evidence error strayed) :
    evidenceById (evidence error strayed) row.evidenceId = some row :=
  find?_of_nodup evidence_nodup h

theorem expectedRows_frozen {row : String × String × String × String}
    (h : row ∈ (pairOf error strayed).expectedRows) :
    ∃ envelope, evidenceById (evidence error strayed) row.1 = some envelope ∧
      envelope.contentSha256 = row.2.1 ∧ envelope.receiptIds = [row.2.2.1] ∧
      envelope.artifactSha256 = row.2.2.2 := by
  simp only [MatchedCounterfactualPair.expectedRows, List.mem_cons, List.not_mem_nil,
    or_false] at h
  rcases h with rfl | rfl | rfl | rfl
  · exact ⟨_, evidenceById_row (row_mem false).1, rfl, rfl, rfl⟩
  · exact ⟨_, evidenceById_row (row_mem false).2, rfl, rfl, rfl⟩
  · exact ⟨_, evidenceById_row (row_mem true).1, rfl, rfl, rfl⟩
  · exact ⟨_, evidenceById_row (row_mem true).2, rfl, rfl, rfl⟩

theorem validateCounterfactualBinding_ok :
    validateCounterfactualBinding "candidate" (nativePair error strayed) (pairOf error strayed) =
      .ok () := by
  have hidentity : ∀ field ∈ (nativePair error strayed).matchedIdentity,
      ((pairOf error strayed).attribute field.1).map Json.str = some field.2 := by
    intro field hfield
    simp only [nativePair, List.mem_cons, List.not_mem_nil, or_false] at hfield
    rcases hfield with rfl | rfl | rfl | rfl | rfl <;> rfl
  simp only [validateCounterfactualBinding, except_bind_ok_iff, requireContract_ok_iff]
  refine ⟨(), rfl, (), ⟨rfl, rfl⟩, ?_⟩
  obtain ⟨answers, hanswers⟩ := mapM_ok_of_forall fun field hfield =>
    ⟨(), (requireContract_ok_iff _ ("counterfactual " ++ field.1 ++
      " does not match native alignment") ()).mpr (hidentity field hfield)⟩
  exact ⟨answers, hanswers, rfl⟩

theorem validateGraphBinding_ok :
    validateGraphBinding (evidence error strayed) (pairOf error strayed) = .ok () := by
  have hfrozen : ∀ row ∈ (pairOf error strayed).expectedRows,
      (evidenceById (evidence error strayed) row.1).any (fun envelope =>
        envelope.contentSha256 = row.2.1 ∧ envelope.receiptIds = [row.2.2.1] ∧
          envelope.artifactSha256 = row.2.2.2) = true := by
    intro row hrow
    obtain ⟨envelope, hfound, hsha256, hreceipt, hartifact⟩ := expectedRows_frozen hrow
    simp [hfound, hsha256, hreceipt, hartifact]
  simp only [validateGraphBinding, except_bind_ok_iff]
  obtain ⟨answers, hanswers⟩ := mapM_ok_of_forall fun row hrow =>
    ⟨(), (requireContract_ok_iff _ ("counterfactual evidence " ++ row.1 ++
      " is not frozen in EvidenceGraph") ()).mpr (hfrozen row hrow)⟩
  exact ⟨answers, hanswers, rfl⟩

theorem validateClassifiedPair_ok (classification : ClaimClassification) :
    validateClassifiedPair (graph error strayed) "candidate" (nativePair error strayed)
      classification (some (pairOf error strayed)) = .ok () := by
  by_cases hclass : classification ≠ .infraFailure
  · simp only [validateClassifiedPair, if_pos hclass, except_bind_ok_iff]
    exact ⟨(), validateCounterfactualBinding_ok, _, listEvidence_ok, validateGraphBinding_ok⟩
  · simp only [validateClassifiedPair, if_neg hclass]

theorem claim_valid (classification : ClaimClassification) {rationale : String}
    (hrationale : isText rationale = true) :
    (claimFor "candidate" (nativePair error strayed) classification rationale
      (some (pairOf error strayed)) none).postInit false = true := by
  have hcandidate : isText "candidate" = true := by decide
  have hreceipts : ∀ id ∈ (pairOf error strayed).receiptIds, isText id = true := by
    have hids : (pairOf error strayed).receiptIds =
      ["model-baseline-task-1", "external-baseline-task-1", "native-baseline-task-1",
        "model-taught-task-1", "external-taught-task-1", "native-taught-task-1"] := rfl
    rw [hids]
    decide
  exact Claim.postInit_of_bound (isText_append_left (by decide)) hcandidate hrationale rfl
    (Json.contentSha256_isSha256 _) hreceipts rfl rfl

theorem appendClaim_ok (error : Json) (strayed : Bool) (classification : ClaimClassification)
    (rationale : String) :
    ∃ after, (graph error strayed).appendClaim (claimFor "candidate" (nativePair error strayed)
      classification rationale (some (pairOf error strayed)) none) (some (pairOf error strayed)) =
        .ok after := by
  have hfrozen : ∀ row ∈ (pairOf error strayed).expectedRows,
      (evidenceById (evidence error strayed) row.1).map EvidenceEnvelope.contentSha256 =
        some row.2.1 := by
    intro row hrow
    obtain ⟨envelope, hfound, hsha256, -⟩ := expectedRows_frozen hrow
    simp [hfound, hsha256]
  have hchecked : (graph error strayed).checkNewBinding (claimFor "candidate"
      (nativePair error strayed) classification rationale (some (pairOf error strayed)) none)
      (some (pairOf error strayed)) = .ok () := by
    unfold EvidenceGraph.checkNewBinding
    split
    · simp only [except_bind_ok_iff, validateAppendedCounterfactual, require_ok_iff]
      exact ⟨_, listEvidence_ok, (), ⟨rfl, rfl, rfl, rfl⟩, hfrozen⟩
    · rfl
  simp only [EvidenceGraph.appendClaim, except_bind_ok_iff]
  exact ⟨_, [], rfl, (), hchecked, (), rfl, rfl⟩

theorem call_returns {outcome : ClaimClassification × String}
    (houtcome : classifyNative (nativePair error strayed) = .ok outcome)
    (hrationale : isText outcome.2 = true) :
    ∃ claim after, (call error strayed).classify (graph error strayed) = .ok (claim, after) ∧
      claim.classification = outcome.1 := by
  obtain ⟨after, hafter⟩ := appendClaim_ok error strayed outcome.1 outcome.2
  refine ⟨claimFor "candidate" (nativePair error strayed) outcome.1 outcome.2
    (some (pairOf error strayed)) none, after, ?_, rfl⟩
  simp only [StoredCall.classify, classifyPair, except_bind_ok_iff]
  exact ⟨outcome, houtcome, (), validateClassifiedPair_ok outcome.1, _,
    constructClaim_of_postInit (claim_valid outcome.1 hrationale), after, hafter, rfl⟩

theorem nativeRow_field {key : String} {value : Json} (taught : Bool)
    (h : Json.field? (rowPayload "native_evaluation" taught (outcomeFields error taught)) key =
      some value) : payloadAt (nativeRow error strayed taught).payload key = .ok value := by
  rw [payloadAt, nativeRow_payload, h]

theorem nativeRow_error (error : Json) (strayed taught : Bool) :
    payloadAt (nativeRow error strayed taught).payload "evaluator_error" = .ok error :=
  nativeRow_field taught (by cases taught <;> rfl)

theorem nativeRow_resolved (error : Json) (strayed taught : Bool) :
    payloadAt (nativeRow error strayed taught).payload "resolved" = .ok (.bool taught) :=
  nativeRow_field taught (by cases taught <;> rfl)

theorem classifyNative_evaluated (strayed : Bool) :
    classifyNative (nativePair .null strayed) =
      .ok (.gain, "baseline failed and taught resolved") := by
  simp only [classifyNative, nativePair, except_bind_ok_iff, nativeRow_error]
  refine ⟨_, rfl, _, rfl, ?_⟩
  rw [if_neg (by decide)]
  simp only [nativeRow_resolved]
  rfl

end ObservedExecution

section Stores

variable {receipts : List Receipt} {evidence : List EvidenceEnvelope} {graph after : EvidenceGraph}
  {claim : Claim} {source : BuiltPair}

/-- A rebuild over stores that hold the rows of a pair, and whatever else,
derives the digest of a claim bound to it exactly when the receipts keep their
plan. -/
theorem rederived_iff_keepPlans {later : EvidenceGraph} {store : ReceiptStore}
    (hreceipts : store.listReceipts = .ok receipts) (hevidence : later.listEvidence = .ok evidence)
    (call : StoredCall receipts evidence) (hsource : call.source = some source)
    (h : call.classify graph = .ok (claim, after)) (hinfra : claim.classification ≠ .infraFailure) :
    (rebuildCounterfactualBinding claim evidence receipts = .ok () ∧
        ∃ rebuilt, rederivePair claim evidence receipts = .ok rebuilt ∧
          rebuilt.contentSha256 = source.pair.contentSha256) ↔
      source.KeepPlans := by
  have hbinding := rebuildCounterfactualBinding_classified call (listEvidence_nodup hevidence)
    (ReceiptStore.listReceipts_nodup hreceipts) hsource h
  obtain ⟨outcome, houtcome, -, hclaim, -, -⟩ := classifyPair_eq_ok h
  have hevaluated : call.nativePair.Evaluated := by
    rcases classifyNative_eq_ok houtcome with ⟨hfailure, -⟩ | ⟨hevaluated, -⟩
    · rw [hclaim] at hinfra
      exact absurd hfailure hinfra
    · exact hevaluated
  rw [hbinding]
  constructor
  · rintro ⟨⟨-, hkeep⟩, -⟩
    exact hkeep
  · intro hkeep
    refine ⟨⟨hevaluated, hkeep⟩, ?_⟩
    have hbound := hbinding.mpr ⟨hevaluated, hkeep⟩
    obtain ⟨_, rebuilt, -, hrebuilt, -, -, hsha256, -⟩ :=
      (rebuildCounterfactualBinding_ok_iff _ _ _).mp hbound
    refine ⟨rebuilt, hrebuilt, ?_⟩
    rw [hclaim, hsource] at hsha256
    exact Option.some.inj hsha256

end Stores

namespace ObservedExecution

/-- The two executions as they were observed, both evaluated. -/
theorem rederived_evaluated :
    ∃ claim, rebuildCounterfactualBinding claim (evidence .null false) (receipts .null false) =
        .ok () ∧
      ∃ rebuilt, rederivePair claim (evidence .null false) (receipts .null false) = .ok rebuilt ∧
        rebuilt.contentSha256 = (builtPair .null false).pair.contentSha256 := by
  obtain ⟨claim, after, hcall, hclass⟩ := call_returns (classifyNative_evaluated false) (by decide)
  refine ⟨claim, (rederived_iff_keepPlans listReceipts_ok listEvidence_ok (call .null false) rfl
    hcall ?_).mpr (builtPair_keepPlans.mpr rfl)⟩
  simp [hclass]

/-- A native receipt filed under another plan than its payload names: the claim
is appended, and a rebuild over the very stores of the call refuses it. -/
theorem rederived_strayed :
    (store .null true).listReceipts = .ok (receipts .null true) ∧
      (graph .null true).listEvidence = .ok (evidence .null true) ∧
      ∃ claim after, (call .null true).classify (graph .null true) = .ok (claim, after) ∧
        claim.classification = .gain ∧
        ¬∃ rebuilt, rederivePair claim (evidence .null true) (receipts .null true) =
            .ok rebuilt ∧
          rebuilt.contentSha256 = (builtPair .null true).pair.contentSha256 := by
  obtain ⟨claim, after, hcall, hclass⟩ := call_returns (classifyNative_evaluated true) (by decide)
  refine ⟨listReceipts_ok, listEvidence_ok, claim, after, hcall, hclass, ?_⟩
  rintro ⟨rebuilt, hrebuilt, -⟩
  obtain ⟨outcome, -, -, hclaim, -, -⟩ := classifyPair_eq_ok hcall
  have hkeep := (rederivePair_stored (builtPair .null true).built (by rw [hclaim]; rfl)
    (by rw [hclaim]; rfl) (rowsOf_stored false) (rowsOf_stored true) evidence_nodup receipts_nodup
    rebuilt).mp hrebuilt
  exact absurd (builtPair_keepPlans.mp ⟨hkeep.1, hkeep.2.1⟩) (by simp)

end ObservedExecution

theorem rebuild_ok_iff (graph rebuilt : EvidenceGraph) (store : ReceiptStore) (legacy : Bool) :
    graph.rebuild store legacy = .ok rebuilt ↔
      rebuilt = { graph with allowLegacyUnboundClaims := legacy } ∧
        ∃ receipts evidence claims, store.listReceipts = .ok receipts ∧
          graph.listEvidence = .ok evidence ∧ rebuilt.listClaims = .ok claims ∧
          (∀ row ∈ evidence, checkEvidenceReceipts store receipts row = .ok ()) ∧
          ∀ claim ∈ claims, checkClaim evidence claims receipts claim = .ok () := by
  simp only [EvidenceGraph.rebuild, except_bind_ok_iff]
  constructor
  · rintro ⟨receipts, hreceipts, evidence, hevidence, _, hrows, claims, hclaims, _, hchecks, h⟩
    cases h
    refine ⟨rfl, receipts, evidence, claims, hreceipts, hevidence, hclaims, ?_, ?_⟩
    · intro row hrow
      obtain ⟨_, hok⟩ := mapM_ok_mem hrows hrow
      exact hok
    · intro claim hclaim
      obtain ⟨_, hok⟩ := mapM_ok_mem hchecks hclaim
      exact hok
  · rintro ⟨rfl, receipts, evidence, claims, hreceipts, hevidence, hclaims, hrows, hchecks⟩
    obtain ⟨_, hrows⟩ := mapM_ok_of_forall fun row hrow => ⟨(), hrows row hrow⟩
    obtain ⟨_, hchecks⟩ := mapM_ok_of_forall fun claim hclaim => ⟨(), hchecks claim hclaim⟩
    exact ⟨receipts, hreceipts, evidence, hevidence, _, hrows, claims, hclaims, _, hchecks, rfl⟩

theorem postInit_legacy {claim : Claim} {legacyRead : Bool}
    (h : claim.postInit legacyRead = true) : claim.postInit true = true := by
  cases legacyRead with
  | true => exact h
  | false =>
    simp only [Claim.postInit, Bool.and_eq_true] at h ⊢
    refine ⟨h.1, ?_⟩
    have hgrade := h.2
    split at hgrade
    · split at hgrade
      · cases hgrade
      · rename_i hrank hsome
        rw [if_pos hrank, if_neg hsome]
        exact hgrade
    · rename_i hrank
      rw [if_neg hrank]

/-- The graph a sequence of calls has reached and the claims they returned. -/
structure ClaimRun where
  graph : EvidenceGraph
  returned : List Claim

section Runs

variable {receipts : List Receipt} {evidence : List EvidenceEnvelope} {store : ReceiptStore}
  {legacy : Bool}

def ClaimRun.call (state : ClaimRun) (call : StoredCall receipts evidence) : ClaimRun :=
  match call.classify state.graph with
  | .ok (claim, after) => ⟨after, state.returned ++ [claim]⟩
  | .error _ => state

/-- `EvidenceGraph.rebuild` over the same stores succeeds and reproduces every
claim a call returned. -/
def ClaimRun.Rebuilds (store : ReceiptStore) (legacy : Bool) (state : ClaimRun) : Prop :=
  ∃ rebuilt claims, state.graph.rebuild store legacy = .ok rebuilt ∧
    rebuilt.listClaims = .ok claims ∧ ∀ claim ∈ state.returned, claim ∈ claims

/-- The evidence is what it was, and everything so far is rebuilt. -/
structure ClaimRun.Intact (store : ReceiptStore) (legacy : Bool)
    (evidence : List EvidenceEnvelope) (state : ClaimRun) : Prop where
  evidenceRead : state.graph.listEvidence = .ok evidence
  rebuilds : state.Rebuilds store legacy

end Runs

namespace ObservedExecution

variable {error : Json} {strayed : Bool}

theorem rebuild_ok :
    (graph error strayed).rebuild (store error strayed) false = .ok (graph error strayed) := by
  rw [rebuild_ok_iff]
  exact ⟨rfl, _, _, [], listReceipts_ok, listEvidence_ok, rfl, fun row hrow =>
    evidenceReceipts_ok hrow, by simp⟩

end ObservedExecution

end JlensEvolve.Evidence
