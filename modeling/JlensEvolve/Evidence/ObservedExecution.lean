import JlensEvolve.Evidence.ClaimRebuild
import JlensEvolve.Evidence.GradeSoundness

/-!
One stored pair of executions with its observed evidence. The evaluator error
of the native outcomes is left open, and so is whether a native receipt strays:
whether it is filed under another plan than the one its payload names. The
digests stay unevaluated.
-/

namespace JlensEvolve.Evidence

open Library Contracts

namespace ObservedExecution

open SupportedCandidate

def task : String := "task-1"

def outcomeFields (error : Json) (taught : Bool) : List (String × Json) :=
  subjectFields task taught ++ [("task_source_sha256", .str digest),
    ("model_identity", .str "provider/model@1"), ("native_evaluator_id", .str "evaluator"),
    ("execution_config_sha256", .str digest), ("resolved", .bool taught),
    ("evaluator_error", error)]

def nativePayload (error : Json) (strayed taught : Bool) : List (String × Json) :=
  if strayed then ("plan_id", .str (planOf task taught)) :: outcomeFields error taught
  else outcomeFields error taught

def native (error : Json) (strayed taught : Bool) : Receipt :=
  { receiptOf "native_evaluation" ("native-" ++ armText taught ++ "-" ++ task)
      (if strayed then "another-plan" else planOf task taught)
      (nativePayload error strayed taught) with
    artifactSha256 := (Json.obj (outcomeFields error taught)).contentSha256 }

def observed (observer : String) (receipt : Receipt) : EvidenceEnvelope :=
  { envelopeOf observer receipt with payload := observedPayload receipt }

def externalRow (taught : Bool) : EvidenceEnvelope :=
  observed "external-trace-v1" (external task taught)

def nativeRow (error : Json) (strayed taught : Bool) : EvidenceEnvelope :=
  observed "native-v1" (native error strayed taught)

/-- Straying or not, a row shows the plan of its model. -/
def rowPayload (kind : String) (taught : Bool) (fields : List (String × Json)) :
    List (String × Json) :=
  ("campaign_id", .str "campaign") :: ("plan_id", .str (planOf task taught)) ::
    ("receipt_kind", .str kind) :: fields

def projectedKeys : List String := ["campaign_id", "plan_id", "receipt_kind"]

theorem field?_plain {fields : List (String × Json)} (h : ∀ field ∈ fields, field.1 ∉ projectedKeys)
    {key : String} (hkey : key ∈ projectedKeys) : Json.field? fields key = none := by
  induction fields with
  | nil => rfl
  | cons field rest ih =>
    obtain ⟨hfield, hrest⟩ := List.forall_mem_cons.mp h
    have hdiffers : field.1 ≠ key := by
      rintro rfl
      exact hfield hkey
    rw [Json.field?_cons, if_neg hdiffers, ih hrest]

theorem filter_plain {fields : List (String × Json)} {p : String × Json → Bool}
    (h : ∀ field ∈ fields, field.1 ∉ projectedKeys)
    (hp : ∀ field, field.1 ∉ projectedKeys → p field = true) : fields.filter p = fields :=
  List.filter_eq_self.mpr fun field hfield => hp field (h field hfield)

theorem observedPayload_plain {receipt : Receipt}
    (h : ∀ field ∈ receipt.payload, field.1 ∉ projectedKeys) :
    observedPayload receipt = ("campaign_id", .str receipt.campaignId) ::
      ("plan_id", .str receipt.planId) :: ("receipt_kind", .str receipt.kind) ::
      receipt.payload := by
  have hcampaign : Json.field? receipt.payload "campaign_id" = none :=
    field?_plain h (by simp [projectedKeys])
  have hplan : Json.field? receipt.payload "plan_id" = none :=
    field?_plain h (by simp [projectedKeys])
  have hkind : Json.field? receipt.payload "receipt_kind" = none :=
    field?_plain h (by simp [projectedKeys])
  rw [observedPayload, filter_plain h (by simp [projectedKeys])]
  simp [hcampaign, hplan, hkind]

theorem observedPayload_strayed {receipt : Receipt} {plan : Json} {fields : List (String × Json)}
    (hpayload : receipt.payload = ("plan_id", plan) :: fields)
    (h : ∀ field ∈ fields, field.1 ∉ projectedKeys) :
    observedPayload receipt = ("campaign_id", .str receipt.campaignId) :: ("plan_id", plan) ::
      ("receipt_kind", .str receipt.kind) :: fields := by
  have hcampaign : Json.field? fields "campaign_id" = none :=
    field?_plain h (by simp [projectedKeys])
  have hkind : Json.field? fields "receipt_kind" = none :=
    field?_plain h (by simp [projectedKeys])
  rw [observedPayload, hpayload, List.filter_cons_of_neg (by simp),
    filter_plain h (by simp [projectedKeys])]
  simp [hcampaign, hkind]

theorem external_plain (taught : Bool) :
    ∀ field ∈ (external task taught).payload, field.1 ∉ projectedKeys := by
  cases taught <;>
    simp [external, receiptOf, subjectFields, promptFields, projectedKeys]

theorem outcome_plain (error : Json) (taught : Bool) :
    ∀ field ∈ outcomeFields error taught, field.1 ∉ projectedKeys := by
  cases taught <;> simp [outcomeFields, subjectFields, projectedKeys]

theorem externalRow_payload (taught : Bool) :
    (externalRow taught).payload =
      rowPayload "external_trace" taught (external task taught).payload :=
  observedPayload_plain (external_plain taught)

theorem nativeRow_payload (error : Json) (strayed taught : Bool) :
    (nativeRow error strayed taught).payload =
      rowPayload "native_evaluation" taught (outcomeFields error taught) := by
  cases strayed with
  | false => exact observedPayload_plain (outcome_plain error taught)
  | true => exact observedPayload_strayed rfl (outcome_plain error taught)

theorem receiptPayload_row {envelope : EvidenceEnvelope} {kind : String} {taught : Bool}
    {fields : List (String × Json)} (hpayload : envelope.payload = rowPayload kind taught fields)
    (h : ∀ field ∈ fields, field.1 ∉ projectedKeys) : receiptPayload envelope = fields := by
  rw [receiptPayload, hpayload, rowPayload, List.filter_cons_of_neg (by simp),
    List.filter_cons_of_neg (by simp), List.filter_cons_of_neg (by simp),
    filter_plain h (by simp [projectedKeys])]

theorem armReady (error : Json) (strayed taught : Bool) :
    ArmReady task taught (externalRow taught) (nativeRow error strayed taught) where
  externalValid := by
    simp only [validateEvidence, except_bind_ok_iff, requireContract_ok_iff,
      receiptPayload_row (externalRow_payload taught) (external_plain taught), externalRow_payload]
    refine ⟨(), rfl, (), ?_, (), rfl, _, rfl, rfl⟩
    cases taught <;> rfl
  nativeValid := by
    simp only [validateEvidence, except_bind_ok_iff, requireContract_ok_iff,
      receiptPayload_row (nativeRow_payload error strayed taught) (outcome_plain error taught),
      nativeRow_payload]
    refine ⟨(), rfl, (), ?_, (), rfl, _, rfl, rfl⟩
    cases taught <;> rfl
  externalBinds := by
    simp only [bindsModel, except_bind_ok_iff, requireContract_ok_iff, externalRow_payload]
    refine ⟨(), ?_, (), ?_, (), ?_, ?_⟩ <;> cases taught <;> rfl
  nativeBinds := by
    simp only [bindsModel, except_bind_ok_iff, requireContract_ok_iff, nativeRow_payload]
    refine ⟨(), ?_, (), ?_, (), ?_, ?_⟩ <;> cases taught <;> rfl
  sameTask := by
    rw [externalRow_payload, nativeRow_payload]
    cases taught <;> rfl
  identity := by
    rw [nativeRow_payload]
    cases taught <;> rfl
  externalPrediction := by
    rw [externalRow_payload]
    cases taught <;> rfl
  nativePrediction := by
    rw [nativeRow_payload]
    cases taught <;> rfl
  repeats := by
    intro field hfield
    rw [externalRow_payload]
    simp only [externalLineageFields, List.mem_cons, List.not_mem_nil, or_false] at hfield
    rcases hfield with rfl | rfl | rfl | rfl | rfl | rfl | rfl | rfl <;> cases taught <;> rfl
  externalParent := by
    intro label
    rw [externalRow_payload]
    cases taught <;> rfl
  nativeParent := by
    intro label
    rw [nativeRow_payload]
    cases taught <;> rfl

theorem text_id {kind : String} (h : isText kind = true) (taught : Bool) :
    isText (kind ++ armText taught ++ "-" ++ task) = true :=
  isText_append_left (isText_append_left (isText_append_left h))

theorem observed_valid {observer : String} (hobserver : isText observer = true)
    (receipt : Receipt) (hsha256 : isSha256 receipt.artifactSha256 = true) :
    (observed observer receipt).postInit = true := by
  have hid : isText ("evidence-" ++ receipt.receiptId) = true := isText_append_left (by decide)
  simp [EvidenceEnvelope.postInit, observed, envelopeOf, hid, hobserver, hsha256]

theorem externalRow_valid (taught : Bool) : (externalRow taught).postInit = true :=
  observed_valid (by decide) _ (Json.contentSha256_isSha256 _)

theorem nativeRow_valid (error : Json) (strayed taught : Bool) :
    (nativeRow error strayed taught).postInit = true :=
  observed_valid (by decide) _ (Json.contentSha256_isSha256 _)

def rowsOf (error : Json) (strayed taught : Bool) : ArmRows :=
  { model := model task taught, external := externalRow taught
    native := nativeRow error strayed taught, externalReceipt := external task taught
    nativeReceipt := native error strayed taught }

def armOf (error : Json) (strayed taught : Bool) : CounterfactualArmEvidence :=
  armRowOf task taught (externalRow taught) (nativeRow error strayed taught)
    (external task taught).receiptId (native error strayed taught).receiptId

theorem armOf_built (error : Json) (strayed taught : Bool) :
    buildArm (armText taught) (model task taught) (externalRow taught)
      (nativeRow error strayed taught) "revision-1" digest = .ok (armOf error strayed taught) :=
  build_arm_of (armReady error strayed taught) rfl rfl
    (armRowOf_valid task taught (externalRow_valid taught) (nativeRow_valid error strayed taught)
      (text_id (by decide) taught) (text_id (by decide) taught))

def pairOf (error : Json) (strayed : Bool) : MatchedCounterfactualPair :=
  { pairRow task with baseline := armOf error strayed false, taught := armOf error strayed true }

theorem pairOf_valid (error : Json) (strayed : Bool) : (pairOf error strayed).postInit = .ok () := by
  have hevaluator : isText "evaluator" = true := by decide
  have hidentity : isText "provider/model@1" = true := by decide
  have hcandidate : isText "candidate" = true := by decide
  have htask : isText task = true := by decide
  have hevidence : (pairOf error strayed).evidenceIds =
      ["evidence-external-baseline-task-1", "evidence-native-baseline-task-1",
        "evidence-external-taught-task-1", "evidence-native-taught-task-1"] := rfl
  have hreceipts : (pairOf error strayed).receiptIds =
      ["model-baseline-task-1", "external-baseline-task-1", "native-baseline-task-1",
        "model-taught-task-1", "external-taught-task-1", "native-taught-task-1"] := rfl
  simp only [MatchedCounterfactualPair.postInit, requireText, requireSha256, except_bind_ok_iff,
    requireContract_ok_iff, hevidence, hreceipts]
  refine ⟨(), hcandidate, (), text_revision, (), text_campaign, (), htask, (), hidentity, (),
    hevaluator, (), digest_isSha256, (), digest_isSha256, (), digest_isSha256, (), ⟨rfl, rfl⟩,
    (), rfl, (), rfl, (), rfl, (), rfl, (), rfl, (), ⟨rfl, rfl⟩, (), ?_, ?_⟩
  · simp [pairOf, armOf, armRowOf, armRow, model, receiptOf, planOf, armText]
  · decide

def builtPair (error : Json) (strayed : Bool) : BuiltPair where
  candidateId := "candidate"
  candidateRevisionId := "revision-1"
  candidateBundleSha256 := digest
  baseline := rowsOf error strayed false
  taught := rowsOf error strayed true
  pair := pairOf error strayed
  built := by
    simp only [buildPair, buildMatchedCounterfactualPair, except_bind_ok_iff,
      requireContract_ok_iff]
    refine ⟨_, armOf_built error strayed false, _, armOf_built error strayed true, .str task, ?_,
      .str digest, ?_, .str "provider/model@1", ?_, .str "evaluator", ?_, .str digest, ?_, (), rfl,
      (), rfl, (), pairOf_valid error strayed, rfl⟩
    all_goals
      apply matchedIdentity_same <;> rw [rowsOf, nativeRow_payload] <;> rfl

def receipts (error : Json) (strayed : Bool) : List Receipt :=
  [false, true].flatMap fun taught =>
    [model task taught, external task taught, native error strayed taught]

def evidence (error : Json) (strayed : Bool) : List EvidenceEnvelope :=
  [false, true].flatMap fun taught => [externalRow taught, nativeRow error strayed taught]

def contents (error : Json) : List (List Nat) :=
  [false, true].flatMap fun taught =>
    [(model task taught).payload, (external task taught).payload, outcomeFields error taught].map
      fun fields => Json.utf8 (Json.obj fields).canonicalJson

def store (error : Json) (strayed : Bool) : ReceiptStore :=
  { lines := (receipts error strayed).map fun receipt => .record receipt receipt.contentSha256
    artifacts := artifactsOf (contents error) }

def graph (error : Json) (strayed : Bool) : EvidenceGraph :=
  { evidenceLines := (evidence error strayed).map fun row => .record row row.contentSha256
    claimLines := []
    allowLegacyUnboundClaims := false }

section

variable {error : Json} {strayed : Bool}

theorem mem_receipts {receipt : Receipt} (h : receipt ∈ receipts error strayed) :
    ∃ taught, receipt = model task taught ∨ receipt = external task taught ∨
      receipt = native error strayed taught := by
  obtain ⟨taught, -, h⟩ := List.mem_flatMap.mp h
  exact ⟨taught, by simpa using h⟩

theorem receipt_mem (taught : Bool) :
    model task taught ∈ receipts error strayed ∧ external task taught ∈ receipts error strayed ∧
      native error strayed taught ∈ receipts error strayed := by
  have hmem : ∀ receipt ∈ [model task taught, external task taught, native error strayed taught],
      receipt ∈ receipts error strayed := fun receipt hreceipt =>
    List.mem_flatMap.mpr ⟨taught, by cases taught <;> simp, hreceipt⟩
  exact ⟨hmem _ (by simp), hmem _ (by simp), hmem _ (by simp)⟩

theorem receipt_stored {receipt : Receipt} (h : receipt ∈ receipts error strayed) :
    receipt.postInit = true ∧
      ∃ content, (store error strayed).readArtifact receipt.artifactSha256 = .ok content := by
  have hplan : ∀ taught, isText (planOf task taught) = true := fun taught =>
    text_id (by decide) taught
  have hstored : ∀ taught, ∀ fields ∈ [(model task taught).payload, (external task taught).payload,
      outcomeFields error taught], ∃ content, (store error strayed).readArtifact
        (Json.obj fields).contentSha256 = .ok content := fun taught fields hfields =>
    readArtifact_artifactsOf _ (List.mem_flatMap.mpr
      ⟨taught, by cases taught <;> simp, List.mem_map_of_mem hfields⟩)
  obtain ⟨taught, rfl | rfl | rfl⟩ := mem_receipts h
  · exact ⟨receiptOf_valid (by decide) (text_id (by decide) taught) (hplan taught) _,
      hstored taught (model task taught).payload (by simp)⟩
  · exact ⟨receiptOf_valid (by decide) (text_id (by decide) taught) (hplan taught) _,
      hstored taught (external task taught).payload (by simp)⟩
  · refine ⟨?_, hstored taught (outcomeFields error taught) (by simp)⟩
    have hkind : isText "native_evaluation" = true := by decide
    have hnow : isText "now" = true := by decide
    have hfiled : isText (if strayed then "another-plan" else planOf task taught) = true := by
      cases strayed
      · exact hplan taught
      · exact (by decide : isText "another-plan" = true)
    have hid : isText ("native-" ++ armText taught ++ "-" ++ task) = true :=
      text_id (by decide) taught
    have hsha256 : isSha256 (Json.obj (outcomeFields error taught)).contentSha256 = true :=
      Json.contentSha256_isSha256 _
    simp [Receipt.postInit, native, receiptOf, hkind, hnow, hfiled, hid, hsha256, text_campaign]

theorem receipts_nodup : ((receipts error strayed).map Receipt.receiptId).Nodup := by
  have hids : (receipts error strayed).map Receipt.receiptId =
      [false, true].flatMap (fun taught => ["model-", "external-", "native-"].map
        (fun kind => kind ++ armText taught ++ "-" ++ task)) := rfl
  rw [hids]
  decide

theorem listReceipts_ok : (store error strayed).listReceipts = .ok (receipts error strayed) := by
  apply (store error strayed).listFrom_wellFormed (receipts error strayed) 1 []
  · intro receipt h
    exact receipt_stored h
  · exact receipts_nodup

theorem mem_evidence {row : EvidenceEnvelope} (h : row ∈ evidence error strayed) :
    ∃ taught, row = externalRow taught ∨ row = nativeRow error strayed taught := by
  obtain ⟨taught, -, h⟩ := List.mem_flatMap.mp h
  exact ⟨taught, by simpa using h⟩

theorem row_mem (taught : Bool) :
    externalRow taught ∈ evidence error strayed ∧
      nativeRow error strayed taught ∈ evidence error strayed := by
  have hmem : ∀ row ∈ [externalRow taught, nativeRow error strayed taught],
      row ∈ evidence error strayed := fun row hrow =>
    List.mem_flatMap.mpr ⟨taught, by cases taught <;> simp, hrow⟩
  exact ⟨hmem _ (by simp), hmem _ (by simp)⟩

theorem evidence_nodup : ((evidence error strayed).map EvidenceEnvelope.evidenceId).Nodup := by
  have hids : (evidence error strayed).map EvidenceEnvelope.evidenceId =
      [false, true].flatMap (fun taught => ["external-", "native-"].map
        (fun kind => "evidence-" ++ (kind ++ armText taught ++ "-" ++ task))) := rfl
  rw [hids]
  decide

theorem listEvidence_ok : (graph error strayed).listEvidence = .ok (evidence error strayed) := by
  apply EvidenceGraph.listEvidence_wellFormed rfl _ evidence_nodup
  intro row hrow
  obtain ⟨taught, rfl | rfl⟩ := mem_evidence hrow
  · exact externalRow_valid taught
  · exact nativeRow_valid error strayed taught

theorem checkEvidenceReceipts_observed {observer : String} {receipt : Receipt}
    (h : receipt ∈ receipts error strayed) :
    checkEvidenceReceipts (store error strayed) (receipts error strayed)
      (observed observer receipt) = .ok () := by
  obtain ⟨-, content, hcontent⟩ := receipt_stored h
  have hmem : receipt.receiptId ∈ (receipts error strayed).map Receipt.receiptId :=
    List.mem_map_of_mem h
  have hnone : (observed observer receipt).receiptIds.find? (fun receiptId =>
      receiptId ∉ (receipts error strayed).map Receipt.receiptId) = none := by
    simpa [observed, envelopeOf] using ⟨receipt, h, rfl⟩
  unfold checkEvidenceReceipts
  rw [hnone]
  simp only [except_bind_ok_iff, require_ok_iff]
  refine ⟨(), ?_, content, hcontent, rfl⟩
  rw [List.any_eq_true]
  exact ⟨receipt, h, by simp [observed, envelopeOf]⟩

theorem evidenceReceipts_ok {row : EvidenceEnvelope} (h : row ∈ evidence error strayed) :
    checkEvidenceReceipts (store error strayed) (receipts error strayed) row = .ok () := by
  obtain ⟨taught, rfl | rfl⟩ := mem_evidence h
  · exact checkEvidenceReceipts_observed (receipt_mem taught).2.1
  · exact checkEvidenceReceipts_observed (receipt_mem taught).2.2

theorem observed_from (observer : String) (receipt : Receipt) :
    ObservedFrom observer receipt.kind receipt (observed observer receipt) :=
  ⟨rfl, rfl, rfl, rfl, rfl⟩

theorem rowsOf_stored (taught : Bool) :
    (rowsOf error strayed taught).Stored (receipts error strayed) (evidence error strayed) where
  model := (receipt_mem taught).1
  externalReceipt := (receipt_mem taught).2.1
  nativeReceipt := (receipt_mem taught).2.2
  external := (row_mem taught).1
  native := (row_mem taught).2
  externalObserved := observed_from "external-trace-v1" (external task taught)
  nativeObserved := observed_from "native-v1" (native error strayed taught)

theorem builtPair_stored :
    (builtPair error strayed).Stored (receipts error strayed) (evidence error strayed) :=
  ⟨rowsOf_stored false, rowsOf_stored true⟩

theorem builtPair_keepPlans : (builtPair error strayed).KeepPlans ↔ strayed = false := by
  have hplain : ∀ receipt : Receipt, (∀ field ∈ receipt.payload, field.1 ∉ projectedKeys) →
      KeepsPlan receipt := by
    intro receipt h
    rw [KeepsPlan, field?_plain h (by simp [projectedKeys]), Option.getD_none]
  cases strayed with
  | false =>
    refine iff_of_true ⟨⟨?_, ?_⟩, ?_, ?_⟩ rfl
    · exact hplain (external task false) (external_plain false)
    · exact hplain (native error false false) (outcome_plain error false)
    · exact hplain (external task true) (external_plain true)
    · exact hplain (native error false true) (outcome_plain error true)
  | true =>
    refine iff_of_false ?_ (by simp)
    intro hkeep
    have hplan : Json.str (planOf task false) = .str "another-plan" := hkeep.1.2
    simp [planOf, armText, task] at hplan

end

end ObservedExecution

end JlensEvolve.Evidence
