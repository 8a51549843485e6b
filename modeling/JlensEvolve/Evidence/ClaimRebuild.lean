import JlensEvolve.Evidence.ClaimEngine

/-!
What a rebuild makes of a claim bound to a counterfactual pair. The rebuild
selects the rows again from whole stores and calls the builder again; for rows
projected from stored receipts it arrives at the same pair, except when the
payload of a receipt names another plan than the receipt itself.
-/

namespace JlensEvolve.Evidence

open Library Contracts

/-- What the builder is given for an arm, with the receipts its evidence was
projected from. -/
structure ArmRows where
  model : Receipt
  external : EvidenceEnvelope
  native : EvidenceEnvelope
  externalReceipt : Receipt
  nativeReceipt : Receipt

structure ArmRows.Stored (rows : ArmRows) (receipts : List Receipt)
    (evidence : List EvidenceEnvelope) : Prop where
  model : rows.model ∈ receipts
  externalReceipt : rows.externalReceipt ∈ receipts
  nativeReceipt : rows.nativeReceipt ∈ receipts
  external : rows.external ∈ evidence
  native : rows.native ∈ evidence
  externalObserved :
    ObservedFrom "external-trace-v1" "external_trace" rows.externalReceipt rows.external
  nativeObserved : ObservedFrom "native-v1" "native_evaluation" rows.nativeReceipt rows.native

/-- A `plan_id` in the payload of the receipt, if there is one, is its own. -/
def KeepsPlan (receipt : Receipt) : Prop :=
  (Json.field? receipt.payload "plan_id").getD (.str receipt.planId) = .str receipt.planId

def ArmRows.KeepPlan (rows : ArmRows) : Prop :=
  KeepsPlan rows.externalReceipt ∧ KeepsPlan rows.nativeReceipt

def buildPair (candidateId candidateRevisionId candidateBundleSha256 : String)
    (baseline taught : ArmRows) : Checked MatchedCounterfactualPair :=
  buildMatchedCounterfactualPair candidateId candidateRevisionId candidateBundleSha256
    baseline.model baseline.external baseline.native taught.model taught.external taught.native

structure BuiltPair where
  candidateId : String
  candidateRevisionId : String
  candidateBundleSha256 : String
  baseline : ArmRows
  taught : ArmRows
  pair : MatchedCounterfactualPair
  built : buildPair candidateId candidateRevisionId candidateBundleSha256 baseline taught = .ok pair

structure BuiltPair.Stored (source : BuiltPair) (receipts : List Receipt)
    (evidence : List EvidenceEnvelope) : Prop where
  baseline : source.baseline.Stored receipts evidence
  taught : source.taught.Stored receipts evidence

def BuiltPair.KeepPlans (source : BuiltPair) : Prop :=
  source.baseline.KeepPlan ∧ source.taught.KeepPlan

theorem payloadGet_observed_plan (receipt : Receipt) :
    payloadGet (observedPayload receipt) "plan_id" =
      (Json.field? receipt.payload "plan_id").getD (.str receipt.planId) := by
  simp [observedPayload, payloadGet_cons]

/-- The part of an arm's checks that a rebuild relies on. -/
structure ArmBuilt (arm candidateRevisionId candidateBundleSha256 : String) (model : Receipt)
    (external native : EvidenceEnvelope) (row : CounterfactualArmEvidence) : Prop where
  modelKind : model.kind = "model"
  externalObserver : external.observerId = "external-trace-v1"
  externalArm : payloadGet external.payload "arm" = .str arm
  externalPlan : payloadGet external.payload "plan_id" = .str model.planId
  externalModel : payloadGet external.payload "model_receipt_id" = .str model.receiptId
  nativeObserver : native.observerId = "native-v1"
  nativeArm : payloadGet native.payload "arm" = .str arm
  nativePlan : payloadGet native.payload "plan_id" = .str model.planId
  candidate : arm ≠ "baseline" →
    payloadGet model.payload "candidate_revision_id" = .str candidateRevisionId ∧
      payloadGet model.payload "candidate_bundle_sha256" = .str candidateBundleSha256
  externalId : row.externalTraceEvidenceId = external.evidenceId
  nativeId : row.nativeOutcomeEvidenceId = native.evidenceId

theorem validateEvidence_eq_ok {arm observerId : String} {envelope : EvidenceEnvelope} {u : Unit}
    (h : validateEvidence arm envelope observerId = .ok u) :
    envelope.observerId = observerId ∧ payloadGet envelope.payload "arm" = .str arm := by
  simp only [validateEvidence, except_bind_ok_iff, requireContract_ok_iff] at h
  obtain ⟨_, hobserver, _, harm, _⟩ := h
  exact ⟨hobserver, harm⟩

theorem bindsModel_eq_ok {arm label : String} {model : Receipt} {envelope : EvidenceEnvelope}
    {u : Unit} (h : bindsModel arm label model envelope = .ok u) :
    payloadGet envelope.payload "plan_id" = .str model.planId ∧
      payloadGet envelope.payload "model_receipt_id" = .str model.receiptId := by
  simp only [bindsModel, except_bind_ok_iff, requireContract_ok_iff] at h
  obtain ⟨_, _, _, hplan, _, hmodel, _⟩ := h
  exact ⟨hplan, hmodel⟩

theorem buildArm_eq_ok {arm candidateRevisionId candidateBundleSha256 : String} {model : Receipt}
    {external native : EvidenceEnvelope} {row : CounterfactualArmEvidence}
    (h : buildArm arm model external native candidateRevisionId candidateBundleSha256 = .ok row) :
    ArmBuilt arm candidateRevisionId candidateBundleSha256 model external native row := by
  unfold buildArm at h
  simp only [except_bind_ok_iff, requireContract_ok_iff] at h
  obtain ⟨_, hkind, _, _, _, hexternal, _, hnative, _, hexternalModel, _, hnativeModel, _, _, _, _,
    _, _, _, _, _, _, _, _, _, _, h⟩ := h
  split at h
  · simp only [except_bind_ok_iff] at h
    obtain ⟨_, _, _, _, _, _, _, _, h⟩ := h
    have hrest : (arm ≠ "baseline" →
        payloadGet model.payload "candidate_revision_id" = .str candidateRevisionId ∧
          payloadGet model.payload "candidate_bundle_sha256" = .str candidateBundleSha256) ∧
        row.externalTraceEvidenceId = external.evidenceId ∧
        row.nativeOutcomeEvidenceId = native.evidenceId := by
      split at h
      · rename_i hbaseline
        simp only [except_bind_ok_iff] at h
        obtain ⟨_, _, _, _, _, _, _, _, hrow⟩ := h
        cases hrow
        exact ⟨fun hne => absurd hbaseline hne, rfl, rfl⟩
      · simp only [except_bind_ok_iff, requireContract_ok_iff] at h
        obtain ⟨_, hcandidate, _, _, _, _, _, _, hrow⟩ := h
        cases hrow
        exact ⟨fun _ => hcandidate.2, rfl, rfl⟩
    obtain ⟨hcandidate, hexternalId, hnativeId⟩ := hrest
    exact
      { modelKind := hkind
        externalObserver := (validateEvidence_eq_ok hexternal).1
        externalArm := (validateEvidence_eq_ok hexternal).2
        externalPlan := (bindsModel_eq_ok hexternalModel).1
        externalModel := (bindsModel_eq_ok hexternalModel).2
        nativeObserver := (validateEvidence_eq_ok hnative).1
        nativeArm := (validateEvidence_eq_ok hnative).2
        nativePlan := (bindsModel_eq_ok hnativeModel).1
        candidate := hcandidate
        externalId := hexternalId
        nativeId := hnativeId }
  · cases h

theorem buildPair_eq_ok {candidateId candidateRevisionId candidateBundleSha256 : String}
    {baseline taught : ArmRows} {pair : MatchedCounterfactualPair}
    (h : buildPair candidateId candidateRevisionId candidateBundleSha256 baseline taught =
      .ok pair) :
    pair.candidateId = candidateId ∧
      ArmBuilt "baseline" candidateRevisionId candidateBundleSha256 baseline.model
        baseline.external baseline.native pair.baseline ∧
      ArmBuilt "taught" candidateRevisionId candidateBundleSha256 taught.model taught.external
        taught.native pair.taught := by
  simp only [buildPair, buildMatchedCounterfactualPair, except_bind_ok_iff] at h
  obtain ⟨baselineRow, hbaseline, taughtRow, htaught, _, _, _, _, _, _, _, _, _, _, _, _, _, _, _,
    _, hpair⟩ := h
  cases hpair
  exact ⟨rfl, buildArm_eq_ok hbaseline, buildArm_eq_ok htaught⟩

def ArmRows.evidenceRows (rows : ArmRows) : List EvidenceEnvelope := [rows.external, rows.native]

theorem evidenceIds_of_build {candidateId candidateRevisionId candidateBundleSha256 : String}
    {baseline taught : ArmRows} {pair : MatchedCounterfactualPair}
    (h : buildPair candidateId candidateRevisionId candidateBundleSha256 baseline taught =
      .ok pair) :
    pair.evidenceIds =
      (baseline.evidenceRows ++ taught.evidenceRows).map EvidenceEnvelope.evidenceId := by
  obtain ⟨-, hbaseline, htaught⟩ := buildPair_eq_ok h
  simp [MatchedCounterfactualPair.evidenceIds, ArmRows.evidenceRows, hbaseline.externalId,
    hbaseline.nativeId, htaught.externalId, htaught.nativeId]

/-- The first half of `_rebuild_counterfactual_binding`: the four rows of a
claim. -/
def rederivedRows (claim : Claim) (evidence : List EvidenceEnvelope) :
    Checked (EvidenceEnvelope × EvidenceEnvelope × EvidenceEnvelope × EvidenceEnvelope) := do
  let selected := claim.evidenceIds.filterMap
    (fun id => evidence.find? (fun row => row.evidenceId = id))
  let baselineExternal ← onlyEvidence claim.claimId selected "baseline" "external-trace-v1"
  let baselineNative ← onlyEvidence claim.claimId selected "baseline" "native-v1"
  let taughtExternal ← onlyEvidence claim.claimId selected "taught" "external-trace-v1"
  let taughtNative ← onlyEvidence claim.claimId selected "taught" "native-v1"
  return (baselineExternal, baselineNative, taughtExternal, taughtNative)

/-- The pair a rebuild derives for a claim from what the stores hold. -/
def rederivePair (claim : Claim) (evidence : List EvidenceEnvelope) (receipts : List Receipt) :
    Checked MatchedCounterfactualPair := do
  let rows ← rederivedRows claim evidence
  asLineageError claim.claimId
    (rebuildPair claim receipts rows.1 rows.2.1 rows.2.2.1 rows.2.2.2)

/-- A binding is rebuilt exactly when the derived pair is the one the claim
names and the native outcomes are the claim's. -/
theorem rebuildCounterfactualBinding_ok_iff (claim : Claim) (evidence : List EvidenceEnvelope)
    (receipts : List Receipt) :
    rebuildCounterfactualBinding claim evidence receipts = .ok () ↔
      ∃ rows pair, rederivedRows claim evidence = .ok rows ∧
        rederivePair claim evidence receipts = .ok pair ∧
        pair.evidenceIds = claim.evidenceIds ∧ pair.receiptIds = claim.counterfactualReceiptIds ∧
        some pair.contentSha256 = claim.counterfactualPairSha256 ∧
        reportsEvaluatorError rows.2.1.payload = false ∧
        reportsEvaluatorError rows.2.2.2.payload = false ∧
        ∃ baselineResolved taughtResolved,
          payloadGet rows.2.1.payload "resolved" = .bool baselineResolved ∧
          payloadGet rows.2.2.2.payload "resolved" = .bool taughtResolved ∧
          claim.classification = expectedClassification baselineResolved taughtResolved := by
  constructor
  · intro h
    simp only [rebuildCounterfactualBinding, except_bind_ok_iff, require_ok_iff] at h
    obtain ⟨be, hbe, bn, hbn, te, hte, tn, htn, pair, hpair, _, hids, _, hreceipts, _, hsha, _,
      hnoError, h⟩ := h
    have hrows : rederivedRows claim evidence = .ok (be, bn, te, tn) := by
      simp only [rederivedRows, except_bind_ok_iff]
      exact ⟨be, hbe, bn, hbn, te, hte, tn, htn, rfl⟩
    refine ⟨(be, bn, te, tn), pair, hrows, ?_, hids, hreceipts, hsha, hnoError.1, hnoError.2, ?_⟩
    · simp only [rederivePair, except_bind_ok_iff]
      exact ⟨_, hrows, hpair⟩
    · split at h
      · rename_i baselineResolved taughtResolved hbaseline htaught
        exact ⟨baselineResolved, taughtResolved, hbaseline, htaught, (require_ok_iff _ _ _).mp h⟩
      · cases h
  · rintro ⟨⟨be, bn, te, tn⟩, pair, hrows, hpair, hids, hreceipts, hsha, hbaselineError,
      htaughtError, baselineResolved, taughtResolved, hbaseline, htaught, hclass⟩
    simp only [rederivePair, except_bind_ok_iff] at hpair
    obtain ⟨again, hagain, hpair⟩ := hpair
    rw [hrows] at hagain
    cases hagain
    simp only [rederivedRows, except_bind_ok_iff] at hrows
    obtain ⟨be', hbe, bn', hbn, te', hte, tn', htn, hsame⟩ := hrows
    cases hsame
    simp only [rebuildCounterfactualBinding, except_bind_ok_iff, require_ok_iff]
    refine ⟨be, hbe, bn, hbn, te, hte, tn, htn, pair, hpair, (), hids, (), hreceipts, (), hsha, (),
      ⟨hbaselineError, htaughtError⟩, ?_⟩
    rw [hbaseline, htaught]
    exact (require_ok_iff _ _ _).mpr hclass

section Stored

variable {candidateId candidateRevisionId candidateBundleSha256 : String}
  {baseline taught : ArmRows} {pair : MatchedCounterfactualPair} {claim : Claim}
  {evidence : List EvidenceEnvelope} {receipts : List Receipt}

theorem rederivedRows_stored
    (hbuild : buildPair candidateId candidateRevisionId candidateBundleSha256 baseline taught =
      .ok pair)
    (hids : claim.evidenceIds = pair.evidenceIds) (hbaseline : baseline.Stored receipts evidence)
    (htaught : taught.Stored receipts evidence)
    (hnodup : (evidence.map EvidenceEnvelope.evidenceId).Nodup) :
    rederivedRows claim evidence =
      .ok (baseline.external, baseline.native, taught.external, taught.native) := by
  obtain ⟨-, hb, ht⟩ := buildPair_eq_ok hbuild
  have hselected : claim.evidenceIds.filterMap
      (fun id => evidence.find? (fun row => row.evidenceId = id)) =
        baseline.evidenceRows ++ taught.evidenceRows := by
    rw [hids, evidenceIds_of_build hbuild]
    apply filterMap_find?_of_nodup hnodup
    intro row hrow
    simp only [ArmRows.evidenceRows, List.cons_append, List.nil_append, List.mem_cons,
      List.not_mem_nil, or_false] at hrow
    rcases hrow with rfl | rfl | rfl | rfl
    · exact hbaseline.external
    · exact hbaseline.native
    · exact htaught.external
    · exact htaught.native
  simp only [rederivedRows, hselected, except_bind_ok_iff]
  refine ⟨baseline.external, ?_, baseline.native, ?_, taught.external, ?_, taught.native, ?_, rfl⟩
  all_goals
    simp [onlyEvidence, ArmRows.evidenceRows, hb.externalObserver, hb.externalArm,
      hb.nativeObserver, hb.nativeArm, ht.externalObserver, ht.externalArm, ht.nativeObserver,
      ht.nativeArm]

/-- The typed receipt behind an observed row is accepted unless the row speaks
of another plan than the receipt. -/
theorem onlyTypedReceipt_observed {observerId kind claimId label : String} {receipt : Receipt}
    {envelope : EvidenceEnvelope} (hobserved : ObservedFrom observerId kind receipt envelope)
    (hstored : receipt ∈ receipts) (hnodup : (receipts.map Receipt.receiptId).Nodup)
    (answer : Receipt) :
    onlyTypedReceipt claimId envelope receipts kind label = .ok answer ↔
      KeepsPlan receipt ∧ answer = receipt := by
  have hfind : receipts.find? (fun other => other.receiptId = receipt.receiptId) = some receipt :=
    find?_of_nodup hnodup hstored
  have hplan : payloadGet envelope.payload "plan_id" =
      (Json.field? receipt.payload "plan_id").getD (.str receipt.planId) := by
    rw [hobserved.payload, payloadGet_observed_plan]
  rw [onlyTypedReceipt, hobserved.receiptIds]
  simp only [hfind, hobserved.kind, hobserved.artifact, hplan, ne_eq, not_true_eq_false, if_false]
  by_cases hkeeps : KeepsPlan receipt
  · have hsame : Json.str receipt.planId =
        (Json.field? receipt.payload "plan_id").getD (.str receipt.planId) := hkeeps.symm
    rw [if_neg (not_not.mpr hsame)]
    simp [hkeeps, eq_comm]
  · have hdiffers : ¬ Json.str receipt.planId =
        (Json.field? receipt.payload "plan_id").getD (.str receipt.planId) :=
      fun h => hkeeps h.symm
    rw [if_pos hdiffers]
    simp [hkeeps]

theorem checkArmReceipts_stored {arm : String} {rows : ArmRows} {row : CounterfactualArmEvidence}
    (hbuilt : ArmBuilt arm candidateRevisionId candidateBundleSha256 rows.model rows.external
      rows.native row)
    (hstored : rows.Stored receipts evidence) (hnodup : (receipts.map Receipt.receiptId).Nodup)
    (claimId : String) :
    checkArmReceipts claimId arm rows.external rows.native receipts = .ok () ↔ rows.KeepPlan := by
  simp only [checkArmReceipts, except_bind_ok_iff, require_ok_iff,
    onlyTypedReceipt_observed hstored.externalObserved hstored.externalReceipt hnodup,
    onlyTypedReceipt_observed hstored.nativeObserved hstored.nativeReceipt hnodup]
  constructor
  · rintro ⟨_, ⟨hexternal, -⟩, _, ⟨hnative, -⟩, -⟩
    exact ⟨hexternal, hnative⟩
  · rintro ⟨hexternal, hnative⟩
    refine ⟨_, ⟨hexternal, rfl⟩, _, ⟨hnative, rfl⟩, ?_⟩
    -- both receipts have the plan their rows name, which is the model's
    have hexternalPlan := hbuilt.externalPlan
    have hnativePlan := hbuilt.nativePlan
    rw [hstored.externalObserved.payload, payloadGet_observed_plan, hexternal] at hexternalPlan
    rw [hstored.nativeObserved.payload, payloadGet_observed_plan, hnative] at hnativePlan
    rw [Json.str.injEq] at hexternalPlan hnativePlan
    exact hexternalPlan.trans hnativePlan.symm

theorem receiptNamed_of_mem {payload : List (String × Json)} {key : String} {receipt : Receipt}
    (hfield : payloadGet payload key = .str receipt.receiptId) (hstored : receipt ∈ receipts)
    (hnodup : (receipts.map Receipt.receiptId).Nodup) :
    receiptNamed receipts payload key = .ok receipt := by
  have hfind : receipts.find? (fun other => other.receiptId = pyStr (.str receipt.receiptId)) =
      some receipt := find?_of_nodup hnodup hstored
  have hvalue : Json.field? payload key = some (.str receipt.receiptId) := by
    unfold payloadGet at hfield
    cases hcase : Json.field? payload key with
    | none => simp [hcase] at hfield
    | some value => simpa [hcase] using hfield
  rw [receiptNamed, hvalue]
  simp only [hfind]

theorem requiredText_of_payloadGet {payload : List (String × Json)} {key text : String}
    (h : payloadGet payload key = .str text) : requiredText payload key = .ok text := by
  unfold payloadGet at h
  unfold requiredText
  cases hcase : Json.field? payload key with
  | none => simp [hcase] at h
  | some value =>
    simp only [hcase, Option.getD_some] at h
    simp only [h]

theorem rebuildPair_stored
    (hbuild : buildPair candidateId candidateRevisionId candidateBundleSha256 baseline taught =
      .ok pair)
    (hcandidate : claim.candidateId = candidateId) (hbaseline : baseline.Stored receipts evidence)
    (htaught : taught.Stored receipts evidence)
    (hnodup : (receipts.map Receipt.receiptId).Nodup) (rebuilt : MatchedCounterfactualPair) :
    rebuildPair claim receipts baseline.external baseline.native taught.external taught.native =
        .ok rebuilt ↔
      baseline.KeepPlan ∧ taught.KeepPlan ∧ rebuilt = pair := by
  obtain ⟨-, hb, ht⟩ := buildPair_eq_ok hbuild
  obtain ⟨hrevision, hbundle⟩ := ht.candidate (by decide)
  have hbaselineModel := receiptNamed_of_mem hb.externalModel hbaseline.model hnodup
  have htaughtModel := receiptNamed_of_mem ht.externalModel htaught.model hnodup
  have hagain : buildMatchedCounterfactualPair claim.candidateId candidateRevisionId
      candidateBundleSha256 baseline.model baseline.external baseline.native taught.model
      taught.external taught.native = .ok pair := by
    rw [hcandidate]
    exact hbuild
  simp only [rebuildPair, except_bind_ok_iff, require_ok_iff, checkArmReceipts_stored hb hbaseline
    hnodup, checkArmReceipts_stored ht htaught hnodup, hbaselineModel, htaughtModel,
    Except.ok.injEq, exists_eq_left', hb.modelKind, ht.modelKind,
    requiredText_of_payloadGet hrevision, requiredText_of_payloadGet hbundle, hagain]
  constructor
  · rintro ⟨_, hkeepBaseline, _, hkeepTaught, _, _, rfl⟩
    exact ⟨hkeepBaseline, hkeepTaught, rfl⟩
  · rintro ⟨hkeepBaseline, hkeepTaught, rfl⟩
    exact ⟨(), hkeepBaseline, (), hkeepTaught, (), ⟨trivial, trivial⟩, rfl⟩

theorem rederivePair_stored
    (hbuild : buildPair candidateId candidateRevisionId candidateBundleSha256 baseline taught =
      .ok pair)
    (hids : claim.evidenceIds = pair.evidenceIds) (hcandidate : claim.candidateId = candidateId)
    (hbaseline : baseline.Stored receipts evidence) (htaught : taught.Stored receipts evidence)
    (hevidence : (evidence.map EvidenceEnvelope.evidenceId).Nodup)
    (hreceipts : (receipts.map Receipt.receiptId).Nodup) (rebuilt : MatchedCounterfactualPair) :
    rederivePair claim evidence receipts = .ok rebuilt ↔
      baseline.KeepPlan ∧ taught.KeepPlan ∧ rebuilt = pair := by
  have hlineage : ∀ result : Checked MatchedCounterfactualPair,
      asLineageError claim.claimId result = .ok rebuilt ↔ result = .ok rebuilt := by
    intro result
    cases result with
    | ok value => rfl
    | error e => cases e <;> simp [asLineageError]
  simp only [rederivePair, rederivedRows_stored hbuild hids hbaseline htaught hevidence,
    except_bind_ok_iff, Except.ok.injEq, exists_eq_left', hlineage,
    rebuildPair_stored hbuild hcandidate hbaseline htaught hreceipts]

end Stored

end JlensEvolve.Evidence
