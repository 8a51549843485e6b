import JlensEvolve.Evidence.GradeSoundness

/-!
What a matched pair says about the prompts and the digests of its arms. The
baseline check runs over all prompts joined, so it holds of each of them; the
taught check asks for one prompt that carries the candidate's, and leaves the
others free.
-/

namespace JlensEvolve.Evidence

open Library Contracts

theorem contains_joinLines {texts : List String} {text part : String} (htext : text ∈ texts)
    (h : contains text part = true) : contains (joinLines texts) part = true := by
  refine contains_trans ?_ h
  clear h
  rw [contains, decide_eq_true_eq]
  induction texts with
  | nil => cases htext
  | cons first rest ih =>
    cases rest with
    | nil =>
      rw [List.mem_singleton.mp htext]
      simp [joinLines]
    | cons next others =>
      rw [joinLines, String.intercalate_cons_cons, String.toList_append, String.toList_append]
      rcases List.mem_cons.mp htext with rfl | hrest
      · exact ⟨[], _, by rw [List.nil_append, List.append_assoc]⟩
      · exact (ih hrest).trans (List.suffix_append _ _).isInfix

/-- A prompt without the candidate's ids and without the marker of a compiled
candidate. -/
def CandidateFree (candidateRevisionId candidateBundleSha256 prompt : String) : Prop :=
  contains prompt "COMPILED-CANDIDATE:" = false ∧ contains prompt candidateRevisionId = false ∧
    contains prompt candidateBundleSha256 = false

/-- The recorded candidate prompt names both ids of the candidate, and one of
the prompts contains it. -/
structure CarriesCandidate (payload : List (String × Json))
    (candidateRevisionId candidateBundleSha256 : String) (prompts : List String)
    (candidatePrompt : String) : Prop where
  recorded : payloadGet payload "candidate_prompt" = .str candidatePrompt
  revision : contains candidatePrompt candidateRevisionId = true
  bundle : contains candidatePrompt candidateBundleSha256 = true
  consumed : ∃ prompt ∈ prompts, contains prompt candidatePrompt = true

theorem nonEmptyTexts_eq_some {value : Json} {texts : List String}
    (h : nonEmptyTexts? value = some texts) : value = .arr (texts.map .str) := by
  cases value with
  | arr items =>
    rw [nonEmptyTexts?] at h
    congr 1
    induction items generalizing texts with
    | nil =>
      cases h
      rfl
    | cons item rest ih =>
      rw [List.mapM_cons] at h
      obtain ⟨text, htext, h⟩ := Option.bind_eq_some_iff.mp h
      obtain ⟨others, hothers, h⟩ := Option.bind_eq_some_iff.mp h
      cases h
      rw [List.map_cons, ← ih hothers]
      cases item with
      | str found =>
        by_cases hempty : found = ""
        · simp [hempty] at htext
        · simp only [hempty, if_false, Option.some.injEq] at htext
          rw [htext]
      | _ => cases htext
  | _ => cases h

theorem truthyText_eq_some {value : Json} {text : String} (h : truthyText value = some text) :
    value = .str text := by
  cases value with
  | str found =>
    by_cases hempty : found = ""
    · simp [truthyText, hempty] at h
    · simp only [truthyText, hempty, if_false, Option.some.injEq] at h
      rw [h]
  | _ => cases h

section Lineage

variable {payload : List (String × Json)} {candidateRevisionId candidateBundleSha256 : String}
  {prompts : List String}

theorem candidateFree_of_validateBaselinePrompt {u : Unit}
    (h : validateBaselinePrompt payload prompts candidateRevisionId candidateBundleSha256 = .ok u) :
    ∀ prompt ∈ prompts, CandidateFree candidateRevisionId candidateBundleSha256 prompt := by
  simp only [validateBaselinePrompt, except_bind_ok_iff, requireContract_ok_iff, exists_const] at h
  obtain ⟨-, -, ⟨hmarker, hrevision, hbundle⟩, -⟩ := h
  intro prompt hprompt
  have habsent : ∀ part, ¬ contains (joinLines prompts) part = true →
      contains prompt part = false := by
    intro part hpart
    rw [← Bool.not_eq_true]
    exact fun hfound => hpart (contains_joinLines hprompt hfound)
  exact ⟨habsent _ hmarker, habsent _ hrevision, habsent _ hbundle⟩

theorem carriesCandidate_of_validateTaughtPrompt {digest : String}
    (h : validateTaughtPrompt payload prompts candidateRevisionId candidateBundleSha256 =
      .ok digest) :
    ∃ candidatePrompt, digest = sha256Text candidatePrompt ∧
      CarriesCandidate payload candidateRevisionId candidateBundleSha256 prompts
        candidatePrompt := by
  rw [validateTaughtPrompt] at h
  cases hprompt : truthyText (payloadGet payload "candidate_prompt") with
  | none =>
    rw [hprompt] at h
    cases h
  | some candidatePrompt =>
    rw [hprompt] at h
    simp only [except_bind_ok_iff, requireContract_ok_iff, exists_const] at h
    obtain ⟨-, ⟨hrevision, hbundle⟩, ⟨-, hconsumed⟩, -, h⟩ := h
    have hdigest : digest = sha256Text candidatePrompt := by
      split at h
      · simp only [except_bind_ok_iff] at h
        obtain ⟨_, -, h⟩ := h
        cases h
        rfl
      · cases h
    exact ⟨candidatePrompt, hdigest, truthyText_eq_some hprompt, hrevision, hbundle,
      List.any_eq_true.mp hconsumed⟩

structure PromptsChecked (arm : String) (payload : List (String × Json))
    (candidateRevisionId candidateBundleSha256 : String) (prompts : List String)
    (bundleDigest : String) (candidateDigest : Option String) : Prop where
  recorded : payloadGet payload "prompt_texts" = .arr (prompts.map .str)
  hashed : payloadGet payload "prompt_sha256" =
    .arr (prompts.map fun prompt => .str (sha256Text prompt))
  bundle : bundleDigest = (Json.arr (prompts.map .str)).contentSha256
  baseline : arm = "baseline" → candidateDigest = none ∧
    ∀ prompt ∈ prompts, CandidateFree candidateRevisionId candidateBundleSha256 prompt
  taught : arm ≠ "baseline" → ∃ candidatePrompt,
    candidateDigest = some (sha256Text candidatePrompt) ∧
      CarriesCandidate payload candidateRevisionId candidateBundleSha256 prompts candidatePrompt

theorem promptsChecked_of_validate {arm bundleDigest : String} {candidateDigest : Option String}
    (h : validatePromptLineage arm payload candidateRevisionId candidateBundleSha256 =
      .ok (bundleDigest, candidateDigest)) :
    ∃ prompts, PromptsChecked arm payload candidateRevisionId candidateBundleSha256 prompts
      bundleDigest candidateDigest := by
  unfold validatePromptLineage at h
  split at h
  · rename_i first rest hashes htexts hhashes
    simp only [except_bind_ok_iff, requireContract_ok_iff, exists_const] at h
    obtain ⟨-, hbind, h⟩ := h
    refine ⟨first :: rest, ?_⟩
    have hrecorded := nonEmptyTexts_eq_some htexts
    have hhashed : payloadGet payload "prompt_sha256" =
        .arr ((first :: rest).map fun prompt => .str (sha256Text prompt)) := by
      rw [hhashes, hbind]
    split at h
    · rename_i harm
      simp only [except_bind_ok_iff] at h
      obtain ⟨_, hbaseline, h⟩ := h
      cases h
      exact ⟨hrecorded, hhashed, rfl,
        fun _ => ⟨rfl, candidateFree_of_validateBaselinePrompt hbaseline⟩,
        fun htaught => absurd harm htaught⟩
    · rename_i harm
      simp only [except_bind_ok_iff] at h
      obtain ⟨digest, htaught, h⟩ := h
      cases h
      obtain ⟨candidatePrompt, hdigest, hcarries⟩ :=
        carriesCandidate_of_validateTaughtPrompt htaught
      exact ⟨hrecorded, hhashed, rfl, fun hbaseline => absurd hbaseline harm,
        fun _ => ⟨candidatePrompt, congrArg some hdigest, hcarries⟩⟩
  · cases h

end Lineage

theorem eq_texts_of_pyEq {value : Json} {texts : List String}
    (h : Json.pyEq value (.arr (texts.map .str)) = true) : value = .arr (texts.map .str) := by
  rw [Json.pyEq, decide_eq_true_eq] at h
  cases value with
  | arr items =>
    simp only [Json.comparable, Json.arr.injEq] at h
    congr 1
    induction items generalizing texts with
    | nil =>
      cases texts with
      | nil => rfl
      | cons text rest => cases h
    | cons item rest ih =>
      cases texts with
      | nil => cases h
      | cons text others =>
        simp only [List.map_cons, Json.comparableItems, List.cons.injEq] at h ⊢
        refine ⟨?_, ih h.2⟩
        cases item <;> simp_all [Json.comparable]
  | _ => simp [Json.comparable] at h

/-- Every digest of an arm is taken from the row whose id stands beside it, and
that row's artifact is the digest of its own payload. -/
structure ArmDigests (model : Receipt) (external native : EvidenceEnvelope)
    (row : CounterfactualArmEvidence) : Prop where
  modelId : row.modelReceiptId = model.receiptId
  modelSha256 : row.modelReceiptSha256 = model.contentSha256
  modelArtifact : row.modelArtifactSha256 = model.artifactSha256 ∧
    model.artifactSha256 = (Json.obj model.payload).contentSha256
  externalId : row.externalTraceEvidenceId = external.evidenceId
  externalSha256 : row.externalTraceEvidenceSha256 = external.contentSha256
  externalReceipt : external.receiptIds = [row.externalTraceReceiptId]
  externalArtifact : row.externalTraceArtifactSha256 = external.artifactSha256 ∧
    external.artifactSha256 = (Json.obj (receiptPayload external)).contentSha256
  nativeId : row.nativeOutcomeEvidenceId = native.evidenceId
  nativeSha256 : row.nativeOutcomeEvidenceSha256 = native.contentSha256
  nativeReceipt : native.receiptIds = [row.nativeOutcomeReceiptId]
  nativeArtifact : row.nativeOutcomeArtifactSha256 = native.artifactSha256 ∧
    native.artifactSha256 = (Json.obj (receiptPayload native)).contentSha256
  prediction : ∀ payload ∈ [model.payload, external.payload, native.payload],
    ∃ label, predictionSha256 payload label = .ok row.predictionSha256
  parentHarness : ∀ payload ∈ [model.payload, external.payload, native.payload],
    ∃ label, payloadParentHarness payload label = .ok row.parentHarness

/-- What is known of an arm that was built. -/
structure ArmSeparated (arm candidateRevisionId candidateBundleSha256 : String) (model : Receipt)
    (external native : EvidenceEnvelope) (row : CounterfactualArmEvidence) : Prop where
  prompts : ∃ prompts, PromptsChecked arm model.payload candidateRevisionId candidateBundleSha256
    prompts row.promptBundleSha256 row.candidatePromptSha256
  repeated : payloadGet external.payload "prompt_texts" = payloadGet model.payload "prompt_texts"
  digests : ArmDigests model external native row

theorem onlyReceiptId_eq_ok {envelope : EvidenceEnvelope} {arm label receiptId : String}
    (h : onlyReceiptId envelope arm label = .ok receiptId) : envelope.receiptIds = [receiptId] := by
  unfold onlyReceiptId at h
  split at h
  · rename_i found hids
    cases h
    exact hids
  · cases h

theorem artifact_of_validateEvidence {arm observerId : String} {envelope : EvidenceEnvelope}
    {u : Unit} (h : validateEvidence arm envelope observerId = .ok u) :
    envelope.artifactSha256 = (Json.obj (receiptPayload envelope)).contentSha256 := by
  simp only [validateEvidence, except_bind_ok_iff, requireContract_ok_iff, exists_const] at h
  exact h.2.2.1

theorem parentHarness_of_repeats {arm label : String} {lineage : ParentLineage}
    {envelope : EvidenceEnvelope} {u : Unit}
    (h : repeatsParentHarness arm label lineage envelope = .ok u) :
    ∃ label, payloadParentHarness envelope.payload label = .ok lineage := by
  simp only [repeatsParentHarness, except_bind_ok_iff, requireContract_ok_iff] at h
  obtain ⟨parent, hparent, hsame⟩ := h
  rw [← hsame]
  exact ⟨_, hparent⟩

theorem armSeparated_of_buildArm {arm candidateRevisionId candidateBundleSha256 : String}
    {model : Receipt} {external native : EvidenceEnvelope} {row : CounterfactualArmEvidence}
    (h : buildArm arm model external native candidateRevisionId candidateBundleSha256 = .ok row) :
    ArmSeparated arm candidateRevisionId candidateBundleSha256 model external native row := by
  unfold buildArm at h
  simp only [except_bind_ok_iff, requireContract_ok_iff, exists_const] at h
  obtain ⟨-, hartifact, _, hexternal, _, hnative, _, -, _, -, -, -, modelPrediction, hmodelPrediction,
    externalPrediction, hexternalPrediction, nativePrediction, hnativePrediction,
    ⟨hsameExternal, hsameNative⟩, ⟨bundleDigest, candidateDigest⟩, hprompts, h⟩ := h
  obtain ⟨prompts, hchecked⟩ := promptsChecked_of_validate hprompts
  split at h
  · simp only [except_bind_ok_iff] at h
    obtain ⟨answers, hrepeats, parent, hparent, _, hexternalParent, _, hnativeParent, h⟩ := h
    have hrow : ∃ externalReceiptId nativeReceiptId consumed revision bundle,
        external.receiptIds = [externalReceiptId] ∧ native.receiptIds = [nativeReceiptId] ∧
        row = ⟨arm, model.campaignId, model.planId, model.receiptId, model.contentSha256,
          model.artifactSha256, external.evidenceId, external.contentSha256, externalReceiptId,
          external.artifactSha256, native.evidenceId, native.contentSha256, nativeReceiptId,
          native.artifactSha256, modelPrediction, bundleDigest, candidateDigest, consumed,
          revision, bundle, parent⟩ := by
      split at h
      · simp only [except_bind_ok_iff] at h
        obtain ⟨_, -, _, hexternalId, _, hnativeId, _, -, h⟩ := h
        cases h
        exact ⟨_, _, _, _, _, onlyReceiptId_eq_ok hexternalId, onlyReceiptId_eq_ok hnativeId, rfl⟩
      · simp only [except_bind_ok_iff] at h
        obtain ⟨_, -, _, hexternalId, _, hnativeId, _, -, h⟩ := h
        cases h
        exact ⟨_, _, _, _, _, onlyReceiptId_eq_ok hexternalId, onlyReceiptId_eq_ok hnativeId, rfl⟩
    obtain ⟨externalReceiptId, nativeReceiptId, consumed, revision, bundle, hexternalId, hnativeId,
      rfl⟩ := hrow
    have hfield : "prompt_texts" ∈ externalLineageFields := by simp [externalLineageFields]
    obtain ⟨_, hrepeated⟩ := mapM_ok_mem hrepeats hfield
    rw [repeatsModelField, requireContract_ok_iff] at hrepeated
    subst hsameExternal
    subst hsameNative
    rw [hchecked.recorded] at hrepeated
    refine ⟨⟨prompts, hchecked⟩, ?_, ?_⟩
    · rw [hchecked.recorded]
      exact eq_texts_of_pyEq hrepeated
    · exact
        { modelId := rfl
          modelSha256 := rfl
          modelArtifact := ⟨rfl, hartifact⟩
          externalId := rfl
          externalSha256 := rfl
          externalReceipt := hexternalId
          externalArtifact := ⟨rfl, artifact_of_validateEvidence hexternal⟩
          nativeId := rfl
          nativeSha256 := rfl
          nativeReceipt := hnativeId
          nativeArtifact := ⟨rfl, artifact_of_validateEvidence hnative⟩
          prediction := by
            simp only [List.mem_cons, List.not_mem_nil, or_false, forall_eq_or_imp, forall_eq]
            exact ⟨⟨_, hmodelPrediction⟩, ⟨_, hexternalPrediction⟩, ⟨_, hnativePrediction⟩⟩
          parentHarness := by
            simp only [List.mem_cons, List.not_mem_nil, or_false, forall_eq_or_imp, forall_eq]
            exact ⟨⟨_, hparent⟩, parentHarness_of_repeats hexternalParent,
              parentHarness_of_repeats hnativeParent⟩ }
  · cases h

theorem matchedIdentity_eq_ok {baseline taught : EvidenceEnvelope} {field : String} {value : Json}
    (h : matchedIdentity baseline taught field = .ok value) :
    ∃ other, Json.field? baseline.payload field = some value ∧
      Json.field? taught.payload field = some other ∧ Json.pyEq value other = true := by
  unfold matchedIdentity at h
  split at h
  · rename_i left right hleft hright
    simp only [except_bind_ok_iff, requireContract_ok_iff] at h
    obtain ⟨_, hequal, hvalue⟩ := h
    cases hvalue
    exact ⟨right, hleft, hright, hequal⟩
  · cases h

/-- Every returned pair: equal identity and parent lineage, no trace of the
candidate in any baseline prompt, the candidate's own prompt in some taught
prompt, and digests of the rows that were given. -/
theorem pair_separated {candidateId candidateRevisionId candidateBundleSha256 : String}
    {baselineModel taughtModel : Receipt}
    {baselineExternal baselineNative taughtExternal taughtNative : EvidenceEnvelope}
    {pair : MatchedCounterfactualPair}
    (h : buildMatchedCounterfactualPair candidateId candidateRevisionId candidateBundleSha256
      baselineModel baselineExternal baselineNative taughtModel taughtExternal taughtNative =
        .ok pair) :
    (∀ field ∈ matchedIdentityFields, ∃ left right,
      Json.field? baselineNative.payload field = some left ∧
        Json.field? taughtNative.payload field = some right ∧ Json.pyEq left right = true) ∧
    (pair.baseline.parentHarness = pair.parentHarness ∧
      pair.taught.parentHarness = pair.parentHarness) ∧
    (∃ prompts : List String,
      payloadGet baselineModel.payload "prompt_texts" = .arr (prompts.map .str) ∧
      payloadGet baselineExternal.payload "prompt_texts" = .arr (prompts.map .str) ∧
      ∀ prompt ∈ prompts, CandidateFree candidateRevisionId candidateBundleSha256 prompt) ∧
    (∃ (prompts : List String) (candidatePrompt : String),
      payloadGet taughtModel.payload "prompt_texts" = .arr (prompts.map .str) ∧
      payloadGet taughtExternal.payload "prompt_texts" = .arr (prompts.map .str) ∧
      pair.taught.candidatePromptSha256 = some (sha256Text candidatePrompt) ∧
      CarriesCandidate taughtModel.payload candidateRevisionId candidateBundleSha256 prompts
        candidatePrompt ∧
      ∃ prompt ∈ prompts, contains prompt candidateRevisionId = true ∧
        contains prompt candidateBundleSha256 = true) ∧
    ArmDigests baselineModel baselineExternal baselineNative pair.baseline ∧
    ArmDigests taughtModel taughtExternal taughtNative pair.taught := by
  simp only [buildMatchedCounterfactualPair, except_bind_ok_iff, requireContract_ok_iff] at h
  obtain ⟨baseline, hbaseline, taught, htaught, _, htask, _, hsource, _, hidentity, _, hevaluator, _,
    hconfig, _, -, _, hparent, _, -, hpair⟩ := h
  cases hpair
  have hbase := armSeparated_of_buildArm hbaseline
  have htau := armSeparated_of_buildArm htaught
  obtain ⟨prompts, hprompts⟩ := hbase.prompts
  obtain ⟨taughtPrompts, htaughtPrompts⟩ := htau.prompts
  obtain ⟨candidatePrompt, hdigest, hcarries⟩ := htaughtPrompts.taught (by decide)
  obtain ⟨prompt, hprompt, hconsumed⟩ := hcarries.consumed
  refine ⟨?_, ⟨rfl, hparent.symm⟩, ⟨prompts, hprompts.recorded, ?_, (hprompts.baseline rfl).2⟩,
    ⟨taughtPrompts, candidatePrompt, htaughtPrompts.recorded, ?_, hdigest, hcarries, prompt,
      hprompt, contains_trans hconsumed hcarries.revision,
      contains_trans hconsumed hcarries.bundle⟩, hbase.digests, htau.digests⟩
  · simp only [matchedIdentityFields, List.mem_cons, List.not_mem_nil, or_false,
      forall_eq_or_imp, forall_eq]
    exact ⟨⟨_, matchedIdentity_eq_ok htask⟩, ⟨_, matchedIdentity_eq_ok hsource⟩,
      ⟨_, matchedIdentity_eq_ok hidentity⟩, ⟨_, matchedIdentity_eq_ok hevaluator⟩,
      ⟨_, matchedIdentity_eq_ok hconfig⟩⟩
  · rw [hbase.repeated, hprompts.recorded]
  · rw [htau.repeated, htaughtPrompts.recorded]

open SupportedCandidate in
/-- The pair of the supported candidate. -/
theorem supported_separated :
    (pairRow "task-1").taught.parentHarness = (pairRow "task-1").parentHarness ∧
      ArmDigests (model "task-1" false)
        (envelopeOf "external-trace-v1" (external "task-1" false))
        (envelopeOf "native-v1" (native "task-1" false)) (pairRow "task-1").baseline := by
  obtain ⟨-, ⟨-, htaught⟩, -, -, hdigests, -⟩ := pair_separated (build_pair "task-1" (by decide))
  exact ⟨htaught, hdigests⟩

namespace RemindedCandidate

open SupportedCandidate

def reminder : String := "Work in small steps."

/-- The prompt fields of the taught arm, with a second prompt that says nothing
of the candidate. -/
def promptFields : List (String × Json) :=
  [("prompt_texts", .arr [.str taughtPrompt, .str reminder]),
    ("prompt_sha256", .arr [.str (sha256Text taughtPrompt), .str (sha256Text reminder)]),
    ("candidate_consumed", .bool true), ("candidate_revision_id", .str "revision-1"),
    ("candidate_bundle_sha256", .str digest), ("candidate_prompt", .str lesson),
    ("candidate_prompt_sha256", .str (sha256Text lesson)),
    ("compiled_artifact_sha256", .obj [("prompt", .str digest)])]

def model : Receipt :=
  receiptOf "model" "model-taught-task-1" (planOf "task-1" true)
    ([("provider", .str "provider"), ("model", .str "model"), ("revision", .str "1"),
      ("prediction_sha256", .str digest)] ++ promptFields)

def subjectFields : List (String × Json) :=
  [("task_revision_id", .str "task-1"), ("arm", .str "taught"),
    ("model_receipt_id", .str model.receiptId),
    ("model_artifact_sha256", .str model.artifactSha256), ("prediction_sha256", .str digest)]

def external : EvidenceEnvelope :=
  envelopeOf "external-trace-v1" (receiptOf "external_trace" "external-taught-task-1"
    (planOf "task-1" true) (subjectFields ++ promptFields))

def native : EvidenceEnvelope :=
  envelopeOf "native-v1" (receiptOf "native_evaluation" "native-taught-task-1"
    (planOf "task-1" true) (subjectFields ++ [("task_source_sha256", .str digest),
      ("model_identity", .str "provider/model@1"), ("native_evaluator_id", .str "evaluator"),
      ("execution_config_sha256", .str digest), ("resolved", .bool true)]))

def reading : ArmReading :=
  { externalReceiptId := "external-taught-task-1"
    nativeReceiptId := "native-taught-task-1"
    prediction := digest
    promptBundleSha256 := (Json.arr [.str taughtPrompt, .str reminder]).contentSha256
    candidatePromptSha256 := some (sha256Text lesson)
    consumed := true
    parentHarness := (none, none, none) }

theorem prompts_ok : validatePromptLineage "taught" model.payload "revision-1" digest =
    .ok (reading.promptBundleSha256, reading.candidatePromptSha256) := by
  have htaught : validateTaughtPrompt model.payload [taughtPrompt, reminder] "revision-1" digest =
      .ok (sha256Text lesson) := by
    have hmarker : contains taughtPrompt "COMPILED-CANDIDATE:" = true := by decide
    have hcarried : contains taughtPrompt lesson = true := by decide
    unfold validateTaughtPrompt
    rw [show truthyText (payloadGet model.payload "candidate_prompt") = some lesson from rfl]
    simp only [except_bind_ok_iff, requireContract_ok_iff]
    refine ⟨(), rfl, (), ?_, (), ⟨contains_joinLines List.mem_cons_self hmarker, ?_⟩, (), ?_, ?_⟩
    · decide
    · rw [List.any_cons, hcarried, Bool.true_or]
    · decide +kernel
    · rw [show payloadGet model.payload "compiled_artifact_sha256" =
        .obj [("prompt", .str digest)] from rfl]
      simp [literalSha256, digest_isSha256, bind, Except.bind, pure, Except.pure]
  unfold validatePromptLineage
  rw [show nonEmptyTexts? (payloadGet model.payload "prompt_texts") =
      some [taughtPrompt, reminder] from rfl,
    show payloadGet model.payload "prompt_sha256" =
      .arr [.str (sha256Text taughtPrompt), .str (sha256Text reminder)] from rfl]
  simp only [except_bind_ok_iff, requireContract_ok_iff, exists_const]
  refine ⟨rfl, rfl, ?_⟩
  rw [if_neg (by decide)]
  simp only [except_bind_ok_iff]
  exact ⟨_, htaught, rfl⟩

theorem accepted : ArmAccepted "taught" "revision-1" digest model external native reading where
  kind := rfl
  artifact := rfl
  externalValid := by
    refine validate_envelopeOf ?_ rfl rfl
    simp [receiptOf, subjectFields, promptFields]
  nativeValid := by
    refine validate_envelopeOf ?_ rfl rfl
    simp [receiptOf, subjectFields]
  externalBinds := by
    simp only [bindsModel, except_bind_ok_iff, requireContract_ok_iff]
    exact ⟨(), rfl, (), rfl, (), rfl, rfl⟩
  nativeBinds := by
    simp only [bindsModel, except_bind_ok_iff, requireContract_ok_iff]
    exact ⟨(), rfl, (), rfl, (), rfl, rfl⟩
  sameTask := rfl
  identity := rfl
  modelPrediction := predictionSha256_of_field rfl
  externalPrediction := predictionSha256_of_field rfl
  nativePrediction := predictionSha256_of_field rfl
  prompts := prompts_ok
  consumed := rfl
  repeats := by
    intro field hfield
    simp only [externalLineageFields, List.mem_cons, List.not_mem_nil, or_false] at hfield
    rcases hfield with rfl | rfl | rfl | rfl | rfl | rfl | rfl | rfl <;> rfl
  modelParent := fun _ => rfl
  externalParent := fun _ => rfl
  nativeParent := fun _ => rfl
  candidate := ⟨rfl, rfl, rfl⟩
  externalReceipt := rfl
  nativeReceipt := rfl

def row : CounterfactualArmEvidence := reading.row "taught" model external native

theorem row_valid : row.postInit = .ok () := by
  have hhash : ∀ value : Json, isSha256 value.contentSha256 = true :=
    fun value => Json.contentSha256_isSha256 value
  have htext : ∀ text ∈ [row.planId, row.modelReceiptId, row.externalTraceEvidenceId,
      row.externalTraceReceiptId, row.nativeOutcomeEvidenceId, row.nativeOutcomeReceiptId],
      isText text = true := by
    decide
  simp only [List.mem_cons, List.not_mem_nil, or_false, forall_eq_or_imp, forall_eq] at htext
  obtain ⟨hplan, hmodel, hexternal, hexternalReceipt, hnative, hnativeReceipt⟩ := htext
  simp only [CounterfactualArmEvidence.postInit, requireText, requireSha256, except_bind_ok_iff,
    requireContract_ok_iff, exists_const]
  refine ⟨Or.inr rfl, text_campaign, hplan, hmodel, hexternal, hexternalReceipt, hnative,
    hnativeReceipt, hhash _, hhash _, hhash _, hhash _, hhash _, hhash _, digest_isSha256,
    hhash _, ?_⟩
  rw [if_neg (by decide)]
  simp only [except_bind_ok_iff, requireContract_ok_iff, exists_const]
  exact ⟨rfl, text_revision, digest_isSha256, isSha256_hexdigest _, rfl⟩

def pair : MatchedCounterfactualPair := { pairRow "task-1" with taught := row }

theorem pair_valid : pair.postInit = .ok () := by
  have htexts : ∀ text ∈ ["candidate", "revision-1", "campaign", "task-1", "provider/model@1",
      "evaluator"], isText text = true := by decide
  simp only [List.mem_cons, List.not_mem_nil, or_false, forall_eq_or_imp, forall_eq] at htexts
  obtain ⟨hcandidate, hrevision, hcampaign, htask, hmodel, hevaluator⟩ := htexts
  have hevidence : pair.evidenceIds =
      ["evidence-external-baseline-task-1", "evidence-native-baseline-task-1",
        "evidence-external-taught-task-1", "evidence-native-taught-task-1"] := rfl
  have hreceipts : pair.receiptIds =
      ["model-baseline-task-1", "external-baseline-task-1", "native-baseline-task-1",
        "model-taught-task-1", "external-taught-task-1", "native-taught-task-1"] := rfl
  simp only [MatchedCounterfactualPair.postInit, requireText, requireSha256, except_bind_ok_iff,
    requireContract_ok_iff, exists_const, hevidence, hreceipts]
  refine ⟨hcandidate, hrevision, hcampaign, htask, hmodel, hevaluator, digest_isSha256,
    digest_isSha256, digest_isSha256, ⟨rfl, rfl⟩, rfl, rfl, rfl, rfl, (), rfl, ⟨rfl, rfl⟩, ?_, ?_⟩
  · decide
  · decide

theorem built : buildMatchedCounterfactualPair "candidate" "revision-1" digest
    (SupportedCandidate.model "task-1" false)
    (envelopeOf "external-trace-v1" (SupportedCandidate.external "task-1" false))
    (envelopeOf "native-v1" (SupportedCandidate.native "task-1" false))
    model external native = .ok pair := by
  simp only [buildMatchedCounterfactualPair, except_bind_ok_iff, requireContract_ok_iff]
  refine ⟨_, build_arm "task-1" false, _, buildArm_of_accepted accepted row_valid, .str "task-1",
    ?_, .str digest, ?_, .str "provider/model@1", ?_, .str "evaluator", ?_, .str digest, ?_, (),
    rfl, (), rfl, (), pair_valid, rfl⟩
  all_goals exact matchedIdentity_same rfl rfl

/-- A receipt that is stored under the id the taught arm names as that of its
external trace. -/
def otherReceipt (artifactSha256 : String) : Receipt :=
  { receiptId := "external-taught-task-1", campaignId := "campaign"
    planId := planOf "task-1" true, sequence := 1, kind := "external_trace"
    createdAt := "now", payload := [], artifactSha256 := artifactSha256
    supersedesReceiptId := none }

theorem otherReceipt_valid {artifactSha256 : String} (h : isSha256 artifactSha256 = true) :
    (otherReceipt artifactSha256).postInit = true := by
  have htexts : ∀ text ∈ ["external-taught-task-1", "campaign", planOf "task-1" true,
      "external_trace", "now"], isText text = true := by decide
  simp only [List.mem_cons, List.not_mem_nil, or_false, forall_eq_or_imp, forall_eq] at htexts
  obtain ⟨hid, hcampaign, hplan, hkind, hcreated⟩ := htexts
  simp [Receipt.postInit, otherReceipt, hid, hcampaign, hplan, hkind, hcreated, h]

end RemindedCandidate

open RemindedCandidate in
/-- The second taught prompt says nothing of the candidate; and the builder is
not given the receipts it names beside the evidence rows. -/
theorem reminder_omits_candidate :
    buildMatchedCounterfactualPair "candidate" "revision-1" SupportedCandidate.digest
      (SupportedCandidate.model "task-1" false)
      (SupportedCandidate.envelopeOf "external-trace-v1"
        (SupportedCandidate.external "task-1" false))
      (SupportedCandidate.envelopeOf "native-v1" (SupportedCandidate.native "task-1" false))
      model external native = .ok pair ∧
    payloadGet model.payload "prompt_texts" =
      .arr [.str SupportedCandidate.taughtPrompt, .str reminder] ∧
    contains reminder "revision-1" = false ∧
    contains reminder SupportedCandidate.digest = false ∧
    ∃ receipt : Receipt, receipt.postInit = true ∧
      receipt.receiptId = pair.taught.externalTraceReceiptId ∧
      receipt.artifactSha256 ≠ pair.taught.externalTraceArtifactSha256 := by
  refine ⟨built, rfl, by decide, by decide, ?_⟩
  -- one of two digests is not that of the trace
  let zeros := "0000000000000000000000000000000000000000000000000000000000000000"
  by_cases hsame : pair.taught.externalTraceArtifactSha256 = SupportedCandidate.digest
  · refine ⟨otherReceipt zeros, otherReceipt_valid (by decide), rfl, ?_⟩
    rw [hsame]
    decide
  · exact ⟨otherReceipt SupportedCandidate.digest,
      otherReceipt_valid SupportedCandidate.digest_isSha256, rfl, fun h => hsame h.symm⟩

end JlensEvolve.Evidence
