import Mathlib.Data.List.Dedup
import JlensEvolve.Evidence.Counterfactual

/-!
The receipt store and the evidence graph as their readers see them: the logs
are lists of decoded records with the digest written beside each, the artifact
directory maps a digest to the bytes stored under it. A line that does not
decode, that lacks a field or whose ids are not texts is `malformed`.
-/

namespace JlensEvolve.Evidence

open Library Contracts

inductive StoredLine (ρ : Type) where
  | record (value : ρ) (contentSha256 : String)
  | malformed

structure ReceiptStore where
  lines : List (StoredLine Receipt)
  artifacts : String → Option (List Nat)

/-- `_verify_artifact`: the stored bytes, if they hash to their own name. -/
def ReceiptStore.readArtifact (store : ReceiptStore) (digest : String) :
    Checked (List Nat) :=
  match store.artifacts digest with
  | none => .error (.integrity s!"missing artifact {digest}")
  | some content =>
    let actual := Sha256.hexdigest content
    if actual = digest then .ok content
    else .error (.integrity
      s!"artifact hash mismatch for {digest}: stored content is {actual}")

def Receipt.same (first second : Receipt) : Bool := Json.pyEq first.toJson second.toJson

/-- The loop of `list_receipts`. A line that repeats a receipt is skipped; a
line that gives a known id other content is a conflict. -/
def ReceiptStore.listFrom (store : ReceiptStore) :
    List (StoredLine Receipt) → Nat → List Receipt → Checked (List Receipt)
  | [], _, receipts => .ok receipts
  | .malformed :: _, lineNumber, _ =>
    .error (.integrity s!"invalid receipt record at line {lineNumber}")
  | .record receipt expected :: rest, lineNumber, receipts =>
    if receipt.postInit = false then
      .error (.integrity s!"invalid receipt record at line {lineNumber}")
    else if receipt.contentSha256 ≠ expected then
      .error (.integrity
        (s!"receipt hash mismatch at line {lineNumber}: " ++ receipt.receiptId))
    else
      match receipts.find? (fun prior => prior.receiptId = receipt.receiptId) with
      | some prior =>
        if Receipt.same prior receipt then
          store.listFrom rest (lineNumber + 1) receipts
        else .error (.receiptConflict
          ("receipt " ++ receipt.receiptId ++ " appears with conflicting content"))
      | none =>
        match store.readArtifact receipt.artifactSha256 with
        | .error e => .error e
        | .ok _ => store.listFrom rest (lineNumber + 1) (receipts ++ [receipt])

def ReceiptStore.listReceipts (store : ReceiptStore) : Checked (List Receipt) :=
  store.listFrom store.lines 1 []

theorem ReceiptStore.listFrom_nodup (store : ReceiptStore) (lines : List (StoredLine Receipt))
    (lineNumber : Nat) (receipts result : List Receipt)
    (hreceipts : (receipts.map Receipt.receiptId).Nodup)
    (h : store.listFrom lines lineNumber receipts = .ok result) :
    (result.map Receipt.receiptId).Nodup := by
  induction lines generalizing lineNumber receipts with
  | nil =>
    cases h
    exact hreceipts
  | cons line rest ih =>
    cases line with
    | malformed => cases h
    | record receipt expected =>
      simp only [ReceiptStore.listFrom] at h
      split at h
      · cases h
      · split at h
        · cases h
        · split at h
          · split at h
            · exact ih _ _ hreceipts h
            · cases h
          · rename_i hfind
            split at h
            · cases h
            · refine ih _ _ ?_ h
              rw [List.map_append, List.nodup_append]
              refine ⟨hreceipts, by simp, ?_⟩
              rintro a ha b hb rfl
              obtain ⟨prior, hprior, rfl⟩ := List.mem_map.mp ha
              have hid : prior.receiptId = receipt.receiptId := by simpa using hb
              exact List.find?_eq_none.mp hfind prior hprior (by simpa using hid)

theorem ReceiptStore.listReceipts_nodup {store : ReceiptStore} {receipts : List Receipt}
    (h : store.listReceipts = .ok receipts) : (receipts.map Receipt.receiptId).Nodup :=
  store.listFrom_nodup _ _ [] _ (by simp) h

/-- A claim line, and whether its object has the key `counterfactual_pair_sha256`
at all; only a line without it counts as a legacy read. -/
structure ClaimRow where
  claim : Claim
  pairKeyPresent : Bool

structure EvidenceGraph where
  evidenceLines : List (StoredLine EvidenceEnvelope)
  claimLines : List (StoredLine ClaimRow)
  allowLegacyUnboundClaims : Bool

/-- The loop of `_read`. -/
def readGraphLines {ρ α : Type} (file : String) (construct : ρ → Option α) (idOf : α → String)
    (contentSha256 : α → String) (same : α → α → Bool) :
    List (StoredLine ρ) → Nat → List α → Checked (List α)
  | [], _, output => .ok output
  | .malformed :: _, lineNumber, _ =>
    .error (.integrity s!"invalid graph record at {file}:{lineNumber}")
  | .record raw expected :: rest, lineNumber, output =>
    match construct raw with
    | none => .error (.integrity s!"invalid graph record at {file}:{lineNumber}")
    | some item =>
      if contentSha256 item ≠ expected then
        .error (.integrity s!"graph record hash mismatch at {file}:{lineNumber}")
      else
        match output.find? (fun prior => idOf prior = idOf item) with
        | some prior =>
          if same prior item then
            readGraphLines file construct idOf contentSha256 same rest (lineNumber + 1) output
          else .error (.receiptConflict ("immutable graph record conflict: " ++ idOf item))
        | none =>
          readGraphLines file construct idOf contentSha256 same rest (lineNumber + 1)
            (output ++ [item])

def EvidenceEnvelope.same (first second : EvidenceEnvelope) : Bool :=
  Json.pyEq first.toJson second.toJson

def EvidenceGraph.listEvidence (graph : EvidenceGraph) : Checked (List EvidenceEnvelope) :=
  readGraphLines "evidence.jsonl"
    (fun envelope => if envelope.postInit then some envelope else none)
    EvidenceEnvelope.evidenceId EvidenceEnvelope.contentSha256 EvidenceEnvelope.same
    graph.evidenceLines 1 []

def EvidenceGraph.constructClaim (graph : EvidenceGraph) (row : ClaimRow) : Option Claim :=
  if row.claim.postInit (graph.allowLegacyUnboundClaims && !row.pairKeyPresent) then
    some row.claim
  else none

def EvidenceGraph.listClaims (graph : EvidenceGraph) : Checked (List Claim) :=
  readGraphLines "claims.jsonl" graph.constructClaim Claim.claimId Claim.contentSha256
    (fun first second => decide (first = second)) graph.claimLines 1 []

/-- The claims no other claim supersedes. -/
def latestOf (claims : List Claim) : List Claim :=
  claims.filter (fun claim => some claim.claimId ∉ claims.map Claim.supersedesClaimId)

def EvidenceGraph.latestClaims (graph : EvidenceGraph) : Checked (List Claim) :=
  graph.listClaims.map latestOf

theorem readGraphLines_nodup {ρ α : Type} {file : String} {construct : ρ → Option α}
    {idOf : α → String} {contentSha256 : α → String} {same : α → α → Bool}
    (lines : List (StoredLine ρ)) (lineNumber : Nat) (output result : List α)
    (houtput : (output.map idOf).Nodup)
    (h : readGraphLines file construct idOf contentSha256 same lines lineNumber output =
      .ok result) : (result.map idOf).Nodup := by
  induction lines generalizing lineNumber output with
  | nil =>
    cases h
    exact houtput
  | cons line rest ih =>
    cases line with
    | malformed => cases h
    | record raw expected =>
      simp only [readGraphLines] at h
      split at h
      · cases h
      · rename_i item hitem
        split at h
        · cases h
        · split at h
          · split at h
            · exact ih _ _ houtput h
            · cases h
          · rename_i hfind
            refine ih _ _ ?_ h
            rw [List.map_append, List.nodup_append]
            refine ⟨houtput, by simp, ?_⟩
            rintro a ha b hb rfl
            obtain ⟨prior, hprior, rfl⟩ := List.mem_map.mp ha
            have hid : idOf prior = idOf item := by simpa using hb
            exact List.find?_eq_none.mp hfind prior hprior (by simpa using hid)

/-- An artifact directory that holds some contents under their digests. -/
def artifactsOf (contents : List (List Nat)) (digest : String) : Option (List Nat) :=
  contents.find? (fun content => Sha256.hexdigest content = digest)

theorem readArtifact_artifactsOf (lines : List (StoredLine Receipt)) {contents : List (List Nat)}
    {content : List Nat} (h : content ∈ contents) :
    ∃ found, (ReceiptStore.mk lines (artifactsOf contents)).readArtifact
      (Sha256.hexdigest content) = .ok found := by
  have hfound : (artifactsOf contents (Sha256.hexdigest content)).isSome = true := by
    rw [artifactsOf, List.find?_isSome]
    exact ⟨content, h, by simp⟩
  obtain ⟨found, hfound⟩ := Option.isSome_iff_exists.mp hfound
  have hhash : Sha256.hexdigest found = Sha256.hexdigest content := by
    simpa using List.find?_some hfound
  exact ⟨found, by simp [ReceiptStore.readArtifact, hfound, hhash]⟩

theorem ReceiptStore.listFrom_wellFormed (store : ReceiptStore) (receipts : List Receipt)
    (lineNumber : Nat) (acc : List Receipt)
    (hvalid : ∀ receipt ∈ receipts, receipt.postInit = true ∧
      ∃ content, store.readArtifact receipt.artifactSha256 = .ok content)
    (hnodup : ((acc ++ receipts).map Receipt.receiptId).Nodup) :
    store.listFrom (receipts.map fun receipt => .record receipt receipt.contentSha256)
        lineNumber acc =
      .ok (acc ++ receipts) := by
  induction receipts generalizing lineNumber acc with
  | nil => simp [ReceiptStore.listFrom]
  | cons receipt rest ih =>
    obtain ⟨hpost, content, hcontent⟩ := hvalid receipt List.mem_cons_self
    have hfind := find?_none_of_append hnodup
    simp only [List.map_cons, ReceiptStore.listFrom, hpost, hfind, hcontent]
    rw [if_neg (by simp), if_neg (by simp), ih]
    · simp
    · exact fun other hother => hvalid other (List.mem_cons_of_mem _ hother)
    · simpa using hnodup

theorem readGraphLines_wellFormed {ρ α : Type} {file : String} {construct : ρ → Option α}
    {idOf : α → String} {contentSha256 : α → String} {same : α → α → Bool} (raw : α → ρ)
    (items : List α) (lineNumber : Nat) (acc : List α)
    (hvalid : ∀ item ∈ items, construct (raw item) = some item)
    (hnodup : ((acc ++ items).map idOf).Nodup) :
    readGraphLines file construct idOf contentSha256 same
      (items.map fun item => .record (raw item) (contentSha256 item)) lineNumber acc =
        .ok (acc ++ items) := by
  induction items generalizing lineNumber acc with
  | nil => simp [readGraphLines]
  | cons item rest ih =>
    have hfind := find?_none_of_append hnodup
    simp only [List.map_cons, readGraphLines, hvalid item List.mem_cons_self, hfind]
    rw [if_neg (by simp), ih]
    · simp
    · exact fun other hother => hvalid other (List.mem_cons_of_mem _ hother)
    · simpa using hnodup

theorem EvidenceGraph.listEvidence_wellFormed {graph : EvidenceGraph}
    {evidence : List EvidenceEnvelope}
    (hlines : graph.evidenceLines = evidence.map fun row => .record row row.contentSha256)
    (hvalid : ∀ row ∈ evidence, row.postInit = true)
    (hnodup : (evidence.map EvidenceEnvelope.evidenceId).Nodup) :
    graph.listEvidence = .ok evidence := by
  rw [EvidenceGraph.listEvidence, hlines]
  apply readGraphLines_wellFormed (fun row => row) evidence 1 []
  · intro row hrow
    rw [if_pos (hvalid row hrow)]
  · exact hnodup

theorem EvidenceGraph.listClaims_wellFormed {graph : EvidenceGraph} {claims : List Claim}
    (hlines : graph.claimLines = claims.map fun claim => .record ⟨claim, true⟩ claim.contentSha256)
    (hvalid : ∀ claim ∈ claims, claim.postInit false = true)
    (hnodup : (claims.map Claim.claimId).Nodup) : graph.listClaims = .ok claims := by
  rw [EvidenceGraph.listClaims, hlines]
  apply readGraphLines_wellFormed (fun claim => (⟨claim, true⟩ : ClaimRow)) claims 1 []
  · intro claim hclaim
    simp [EvidenceGraph.constructClaim, hvalid claim hclaim]
  · exact hnodup

/-- `sorted(set(texts))`. -/
def sortedSet (texts : List String) : List String := texts.dedup.insertionSort (· ≤ ·)

/-- The single receipt of a typed evidence row, with its bindings checked. -/
def onlyTypedReceipt (claimId : String) (envelope : EvidenceEnvelope) (receipts : List Receipt)
    (expectedKind label : String) : Checked Receipt :=
  match envelope.receiptIds with
  | [receiptId] =>
    match receipts.find? (fun receipt => receipt.receiptId = receiptId) with
    | none => .error (.integrity s!"claim {claimId} {label} receipt is missing")
    | some receipt =>
      if receipt.kind ≠ expectedKind then
        .error (.integrity s!"claim {claimId} {label} receipt kind mismatch")
      else if receipt.artifactSha256 ≠ envelope.artifactSha256 then
        .error (.integrity s!"claim {claimId} {label} artifact binding mismatch")
      else if .str receipt.planId ≠ payloadGet envelope.payload "plan_id" then
        .error (.integrity s!"claim {claimId} {label} plan binding mismatch")
      else .ok receipt
  | _ => .error (.integrity s!"claim {claimId} {label} evidence must bind one receipt")

/-- `only(arm, observer_id)`. -/
def onlyEvidence (claimId : String) (selected : List EvidenceEnvelope) (arm observerId : String) :
    Checked EvidenceEnvelope :=
  match selected.filter (fun row =>
      row.observerId = observerId ∧ payloadGet row.payload "arm" = .str arm) with
  | [row] => .ok row
  | _ => .error (.integrity s!"claim {claimId} has incomplete counterfactual evidence")

/-- The classification the native outcomes of a pair stand for. -/
def expectedClassification (baselineResolved taughtResolved : Bool) : ClaimClassification :=
  if !baselineResolved && taughtResolved then .gain
  else if baselineResolved && !taughtResolved then .regression
  else .neutral

/-- A contract violation, a missing key or a value of the wrong type while the
pair is rebuilt is reported as one integrity error. -/
def asLineageError {α : Type} (claimId : String) (result : Checked α) : Checked α :=
  match result with
  | .error (.contractViolation _) =>
    .error (.integrity s!"claim {claimId} counterfactual lineage is invalid")
  | other => other

/-- The receipt a payload names, as `receipts_by_id[str(payload[key])]`. -/
def receiptNamed (receipts : List Receipt) (payload : List (String × Json)) (key : String) :
    Checked Receipt :=
  match Json.field? payload key with
  | none => violation key
  | some value =>
    match receipts.find? (fun receipt => receipt.receiptId = pyStr value) with
    | none => violation (pyStr value)
    | some receipt => .ok receipt

/-- `payload[key]` where a text is needed later. -/
def requiredText (payload : List (String × Json)) (key : String) : Checked String :=
  match Json.field? payload key with
  | some (.str value) => .ok value
  | _ => violation key

def checkArmReceipts (claimId arm : String) (external native : EvidenceEnvelope)
    (receipts : List Receipt) : Checked Unit := do
  let externalReceipt ←
    onlyTypedReceipt claimId external receipts "external_trace" s!"{arm} external"
  let nativeReceipt ←
    onlyTypedReceipt claimId native receipts "native_evaluation" s!"{arm} native"
  require (externalReceipt.planId = nativeReceipt.planId)
    (.integrity s!"claim {claimId} {arm} receipt plan mismatch")

/-- `evaluator_error not in (None, "")`. -/
def reportsEvaluatorError (payload : List (String × Json)) : Bool :=
  let value := payloadGet payload "evaluator_error"
  value ≠ .null ∧ value ≠ .str ""

def rebuildPair (claim : Claim) (receipts : List Receipt)
    (baselineExternal baselineNative taughtExternal taughtNative : EvidenceEnvelope) :
    Checked MatchedCounterfactualPair := do
  checkArmReceipts claim.claimId "baseline" baselineExternal baselineNative receipts
  checkArmReceipts claim.claimId "taught" taughtExternal taughtNative receipts
  let baselineModel ← receiptNamed receipts baselineExternal.payload "model_receipt_id"
  let taughtModel ← receiptNamed receipts taughtExternal.payload "model_receipt_id"
  require (baselineModel.kind = "model" ∧ taughtModel.kind = "model")
    (.integrity ("claim " ++ claim.claimId ++ " model receipt kind mismatch"))
  let candidateRevisionId ← requiredText taughtModel.payload "candidate_revision_id"
  let candidateBundleSha256 ← requiredText taughtModel.payload "candidate_bundle_sha256"
  buildMatchedCounterfactualPair claim.candidateId candidateRevisionId candidateBundleSha256
    baselineModel baselineExternal baselineNative taughtModel taughtExternal taughtNative

def rebuildCounterfactualBinding (claim : Claim) (evidence : List EvidenceEnvelope)
    (receipts : List Receipt) : Checked Unit := do
  let claimId := claim.claimId
  let selected := claim.evidenceIds.filterMap
    (fun id => evidence.find? (fun row => row.evidenceId = id))
  let baselineExternal ← onlyEvidence claimId selected "baseline" "external-trace-v1"
  let baselineNative ← onlyEvidence claimId selected "baseline" "native-v1"
  let taughtExternal ← onlyEvidence claimId selected "taught" "external-trace-v1"
  let taughtNative ← onlyEvidence claimId selected "taught" "native-v1"
  let pair ← asLineageError claimId
    (rebuildPair claim receipts baselineExternal baselineNative taughtExternal taughtNative)
  require (pair.evidenceIds = claim.evidenceIds)
    (.integrity s!"claim {claimId} counterfactual evidence order mismatch")
  require (pair.receiptIds = claim.counterfactualReceiptIds)
    (.integrity s!"claim {claimId} counterfactual receipt binding mismatch")
  require (some pair.contentSha256 = claim.counterfactualPairSha256)
    (.integrity s!"claim {claimId} counterfactual pair hash mismatch")
  require (reportsEvaluatorError baselineNative.payload = false ∧
      reportsEvaluatorError taughtNative.payload = false)
    (.integrity s!"claim {claimId} binds infrastructure failure as E2")
  match payloadGet baselineNative.payload "resolved",
      payloadGet taughtNative.payload "resolved" with
  | .bool baselineResolved, .bool taughtResolved =>
    require (claim.classification = expectedClassification baselineResolved taughtResolved)
      (.integrity s!"claim {claimId} classification does not match native outcomes")
  | _, _ => .error (.integrity s!"claim {claimId} has invalid native outcome types")

/-- Every receipt of an evidence row is stored and one of them backs its
artifact. -/
def checkEvidenceReceipts (store : ReceiptStore) (receipts : List Receipt)
    (envelope : EvidenceEnvelope) : Checked Unit := do
  let id := envelope.evidenceId
  match envelope.receiptIds.find? (fun receiptId =>
      receiptId ∉ receipts.map Receipt.receiptId) with
  | some receiptId =>
    .error (.integrity s!"evidence {id} references missing receipt {receiptId}")
  | none => do
      require (receipts.any (fun receipt => receipt.receiptId ∈ envelope.receiptIds ∧
          receipt.artifactSha256 = envelope.artifactSha256))
        (.integrity s!"evidence {id} artifact is not backed by receipt")
      let _ ← store.readArtifact envelope.artifactSha256

def checkClaim (evidence : List EvidenceEnvelope) (claims : List Claim) (receipts : List Receipt)
    (claim : Claim) : Checked Unit := do
  let claimId := claim.claimId
  let missing := sortedSet
    (claim.evidenceIds.filter (fun id => id ∉ evidence.map EvidenceEnvelope.evidenceId))
  require (missing = [])
    (.integrity (s!"claim {claimId} references missing evidence: " ++
      pyRepr (.arr (missing.map .str))))
  match claim.supersedesClaimId with
  | none => .ok ()
  | some supersedes =>
    require (claims.any (fun prior =>
        prior.claimId = supersedes ∧ prior.candidateId = claim.candidateId))
      (.integrity s!"claim {claimId} has invalid supersession target")
  if claim.counterfactualPairSha256.isSome then
    rebuildCounterfactualBinding claim evidence receipts

/-- `EvidenceGraph.rebuild`, which reads the same files again and returns only
when every evidence row and every claim is backed by stored receipts. -/
def EvidenceGraph.rebuild (graph : EvidenceGraph) (store : ReceiptStore)
    (allowLegacyUnboundClaims : Bool) : Checked EvidenceGraph := do
  let rebuilt := { graph with allowLegacyUnboundClaims := allowLegacyUnboundClaims }
  let receipts ← store.listReceipts
  let evidence ← rebuilt.listEvidence
  let _ ← evidence.mapM (checkEvidenceReceipts store receipts)
  let claims ← rebuilt.listClaims
  let _ ← claims.mapM (checkClaim evidence claims receipts)
  return rebuilt

end JlensEvolve.Evidence
