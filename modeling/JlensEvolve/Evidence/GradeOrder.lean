import Mathlib.Data.String.Basic
import JlensEvolve.Evidence.GradeSoundness
import JlensEvolve.Evidence.LogOrder
import JlensEvolve.Library.KeyedSort

/-!
The grade state as a function of the sets of records. Each step of `aggregate`
selects rows by what they contain, asks for exactly one of them, counts, or
sorts; so two logs that are read to the same records give one state.
-/

namespace JlensEvolve.Evidence

open Library Contracts

theorem insertionSort_of_perm {texts others : List String} (h : texts.Perm others) :
    texts.insertionSort (· ≤ ·) = others.insertionSort (· ≤ ·) := by
  have hkeys : KeyedSort.KeysApart (id : String → String) texts := fun _ _ _ _ hsame => hsame
  exact KeyedSort.sortBy_eq_of_perm hkeys h

theorem sortedSet_of_perm {texts others : List String} (h : texts.Perm others) :
    sortedSet texts = sortedSet others :=
  insertionSort_of_perm h.dedup

theorem find?_of_perm {α : Type} {idOf : α → String} {items others : List α}
    (hnodup : (items.map idOf).Nodup) (h : items.Perm others) (id : String) :
    others.find? (fun item => idOf item = id) = items.find? (fun item => idOf item = id) := by
  have hnodup' : (others.map idOf).Nodup := (h.map idOf).nodup_iff.mp hnodup
  cases hfind : items.find? (fun item => idOf item = id) with
  | none =>
    rw [List.find?_eq_none] at hfind ⊢
    exact fun item hitem => hfind item (h.mem_iff.mpr hitem)
  | some item =>
    have hid : idOf item = id := by simpa using List.find?_some hfind
    rw [← hid]
    exact find?_of_nodup hnodup' (h.mem_iff.mp (List.mem_of_find?_eq_some hfind))

theorem eq_singleton_iff_of_perm {α : Type} {items others : List α} (h : items.Perm others)
    (item : α) : others = [item] ↔ items = [item] := by
  constructor
  · intro hsingle
    rw [hsingle] at h
    exact List.perm_singleton.mp h
  · intro hsingle
    rw [hsingle] at h
    exact List.singleton_perm.mp h |>.symm

theorem mapM_some_of_perm {α β : Type} {f : α → Option β} {items others : List α}
    (h : items.Perm others) {answers : List β} (hanswers : items.mapM f = some answers) :
    ∃ again, others.mapM f = some again ∧ answers.Perm again := by
  induction h generalizing answers with
  | nil => exact ⟨answers, hanswers, List.Perm.refl _⟩
  | cons item _ ih =>
    simp only [List.mapM_cons, Option.bind_eq_bind, Option.bind_eq_some_iff, Option.pure_def,
      Option.some.injEq] at hanswers ⊢
    obtain ⟨answer, hitem, rest, hrest, rfl⟩ := hanswers
    obtain ⟨again, hagain, hperm⟩ := ih hrest
    exact ⟨answer :: again, ⟨answer, hitem, again, hagain, rfl⟩, hperm.cons answer⟩
  | swap first second rest =>
    simp only [List.mapM_cons, Option.bind_eq_bind, Option.bind_eq_some_iff, Option.pure_def,
      Option.some.injEq] at hanswers ⊢
    obtain ⟨two, htwo, others, ⟨one, hone, tail, htail, rfl⟩, rfl⟩ := hanswers
    exact ⟨one :: two :: tail, ⟨one, hone, two :: tail, ⟨two, htwo, tail, htail, rfl⟩, rfl⟩,
      List.Perm.swap one two tail⟩
  | trans _ _ ihfirst ihsecond =>
    obtain ⟨middle, hmiddle, hperm⟩ := ihfirst hanswers
    obtain ⟨again, hagain, hperm'⟩ := ihsecond hmiddle
    exact ⟨again, hagain, hperm.trans hperm'⟩

section Rows

variable {evidence others : List EvidenceEnvelope} (h : evidence.Perm others)

include h

theorem nativeRows_of_perm (task : String) (claimEvidenceIds : List String) :
    (nativeRows evidence task claimEvidenceIds).Perm (nativeRows others task claimEvidenceIds) :=
  h.filter _

theorem uniqueRows_of_perm (verifier : TrustedObserverVerifier) (task mechanism : String)
    (claimEvidenceIds : List String) (plan : String) :
    uniqueRows verifier others task mechanism claimEvidenceIds plan =
      uniqueRows verifier evidence task mechanism claimEvidenceIds plan := by
  have hiff : ∀ (rows : List EvidenceEnvelope) row,
      uniqueRows verifier rows task mechanism claimEvidenceIds plan = some row ↔
        (nativeRows rows task claimEvidenceIds).filter
          (fun row => payloadGet row.payload "plan_id" = .str plan) = [row.1] ∧
        externalRows rows task mechanism claimEvidenceIds plan = [row.2.1] ∧
        internalRows verifier rows task mechanism plan = [row.2.2] := by
    intro rows row
    unfold uniqueRows
    split
    · rename_i native external internal hnative hexternal hinternal
      rw [hnative, hexternal, hinternal]
      simp [Prod.ext_iff]
    · rename_i hnone
      constructor
      · intro hrow
        cases hrow
      · intro hrows
        exact absurd hrows.2.2 (hnone _ _ _ hrows.1 hrows.2.1)
  have hnative := (nativeRows_of_perm h task claimEvidenceIds).filter
    fun row => payloadGet row.payload "plan_id" = .str plan
  have hexternal : (externalRows evidence task mechanism claimEvidenceIds plan).Perm
      (externalRows others task mechanism claimEvidenceIds plan) := h.filter _
  have hinternal : (internalRows verifier evidence task mechanism plan).Perm
      (internalRows verifier others task mechanism plan) := h.filter _
  refine Option.ext fun row => ?_
  rw [hiff, hiff, eq_singleton_iff_of_perm hnative, eq_singleton_iff_of_perm hexternal,
    eq_singleton_iff_of_perm hinternal]

theorem planEvidence_of_perm (verifier : TrustedObserverVerifier) (receipts : List Receipt)
    (reader : String → Checked (List Nat)) (task mechanism : String)
    (claimEvidenceIds : List String) (plan : String) :
    planEvidence verifier receipts reader others task mechanism claimEvidenceIds plan =
      planEvidence verifier receipts reader evidence task mechanism claimEvidenceIds plan := by
  rw [planEvidence, planEvidence, uniqueRows_of_perm h]

theorem planIds_of_perm : planIds others = planIds evidence := by
  have hsome : ∀ {rows again : List EvidenceEnvelope}, rows.Perm again →
      ∀ plans, planIds rows = some plans → planIds again = some plans := by
    intro rows again hperm plans hplans
    rw [planIds, Option.map_eq_some_iff] at hplans ⊢
    obtain ⟨read, hread, rfl⟩ := hplans
    obtain ⟨reread, hreread, hsame⟩ := mapM_some_of_perm hperm hread
    exact ⟨reread, hreread, (sortedSet_of_perm hsame).symm⟩
  exact Option.ext fun plans => ⟨hsome h.symm plans, hsome h plans⟩

theorem taskPredictionEvidence_of_perm (machine : EvidenceGradeMachine) (graph : EvidenceGraph)
    (receipts : List Receipt) (task : String) (mechanismId : Option String)
    (claimEvidenceIds : List String) :
    taskPredictionEvidence { machine with graph := graph } receipts others task mechanismId
        claimEvidenceIds =
      taskPredictionEvidence machine receipts evidence task mechanismId claimEvidenceIds := by
  have hrows := nativeRows_of_perm h task claimEvidenceIds
  have harms : ∀ arm, arm ∈ (nativeRows others task claimEvidenceIds).map
      (fun row => payloadGet row.payload "arm") ↔
        arm ∈ (nativeRows evidence task claimEvidenceIds).map
          (fun row => payloadGet row.payload "arm") :=
    fun arm => (hrows.map _).mem_iff.symm
  unfold taskPredictionEvidence
  simp only [planIds_of_perm hrows, harms, planEvidence_of_perm h]

end Rows

theorem claimEvidence_of_perm {evidence others : List EvidenceEnvelope}
    (hnodup : (evidence.map EvidenceEnvelope.evidenceId).Nodup) (h : evidence.Perm others)
    (claim : Claim) : claimEvidence others claim = claimEvidence evidence claim := by
  simp only [claimEvidence, find?_of_perm hnodup h]

theorem boundTask_of_perm {evidence others : List EvidenceEnvelope}
    (hnodup : (evidence.map EvidenceEnvelope.evidenceId).Nodup) (h : evidence.Perm others)
    (claim : Claim) : boundTask others claim = boundTask evidence claim := by
  simp only [boundTask, boundTasks, claimEvidence_of_perm hnodup h]

theorem claimsByTask_of_perm_evidence {evidence others : List EvidenceEnvelope}
    (hnodup : (evidence.map EvidenceEnvelope.evidenceId).Nodup) (h : evidence.Perm others)
    (claims : List Claim) (acc : Dict String Claim) :
    claimsByTask others claims acc = claimsByTask evidence claims acc := by
  induction claims generalizing acc with
  | nil => rfl
  | cons claim rest ih => simp only [claimsByTask, boundTask_of_perm hnodup h, ih]

def taskOf (evidence : List EvidenceEnvelope) (claim : Claim) : String :=
  (boundTasks evidence claim).headD ""

/-- The entry of a claim in `claims_by_task`. -/
def taskEntry (evidence : List EvidenceEnvelope) (claim : Claim) : String × Claim :=
  (taskOf evidence claim, claim)

theorem claimsByTask_of_distinct {evidence : List EvidenceEnvelope} (claims : List Claim)
    (acc : Dict String Claim)
    (hbound : ∀ claim ∈ claims, boundTask evidence claim = .ok (taskOf evidence claim))
    (hdistinct : (acc.keys ++ claims.map (taskOf evidence)).Nodup) :
    ∃ byTask, claimsByTask evidence claims acc = .ok byTask ∧
      byTask.entries = acc.entries ++ claims.map (taskEntry evidence) := by
  induction claims generalizing acc with
  | nil => exact ⟨acc, rfl, by simp⟩
  | cons claim rest ih =>
    have hfresh : taskOf evidence claim ∉ acc.keys := by
      intro hmem
      exact (List.nodup_append.mp hdistinct).2.2 _ hmem _ List.mem_cons_self rfl
    have hentries := acc.entries_set_of_absent claim hfresh
    have hkeys : (acc.set (taskOf evidence claim) claim).keys =
        acc.keys ++ [taskOf evidence claim] := by
      rw [Dict.keys, hentries, List.map_append]
      rfl
    have hrest : ((acc.set (taskOf evidence claim) claim).keys ++
        rest.map (taskOf evidence)).Nodup := by
      rw [hkeys, List.append_assoc]
      exact hdistinct
    obtain ⟨byTask, hbyTask, hresult⟩ := ih (acc.set (taskOf evidence claim) claim)
      (fun other hother => hbound other (List.mem_cons_of_mem _ hother)) hrest
    refine ⟨byTask, ?_, ?_⟩
    · simp only [claimsByTask, hbound claim List.mem_cons_self,
        (acc.get?_eq_none_iff _).mpr hfresh]
      exact hbyTask
    · rw [hresult, hentries, List.map_cons, List.append_assoc]
      rfl

theorem claimsByTask_entries_eq {evidence : List EvidenceEnvelope} {claims : List Claim}
    {byTask : Dict String Claim} (hnodup : (claims.map Claim.claimId).Nodup)
    (h : claimsByTask evidence claims Dict.empty = .ok byTask) :
    (∀ claim ∈ claims, boundTask evidence claim = .ok (taskOf evidence claim)) ∧
      byTask.entries = claims.map (taskEntry evidence) := by
  obtain ⟨tasks, hentries, hbound⟩ := claimsByTask_entries claims Dict.empty byTask hnodup
    (fun _ hentry => absurd hentry List.not_mem_nil) h
  have htasks : tasks = claims.map (taskOf evidence) := by
    have hheads := congrArg (List.map fun bound => List.headD bound "") hbound
    rw [List.map_map, List.map_map] at hheads
    have hsame : tasks.map ((fun bound => List.headD bound "") ∘ ([·])) = tasks := by
      refine (List.map_congr_left ?_).trans (List.map_id tasks)
      intro task _
      rfl
    rw [hsame] at hheads
    exact hheads.symm
  refine ⟨?_, ?_⟩
  · intro claim hclaim
    have hmem : boundTasks evidence claim ∈ tasks.map ([·]) := by
      rw [← hbound]
      exact List.mem_map_of_mem hclaim
    obtain ⟨task, -, htask⟩ := List.mem_map.mp hmem
    rw [boundTask, taskOf, ← htask]
    rfl
  · have hzip : (claims.map (taskOf evidence)).zip (claims.map id) =
        claims.map fun claim => (taskOf evidence claim, id claim) := List.zip_map'
    rw [List.map_id] at hzip
    rw [hentries, htasks, hzip]
    rfl

theorem claimsByTask_of_perm {evidence : List EvidenceEnvelope} {claims others : List Claim}
    {byTask : Dict String Claim} (hnodup : (claims.map Claim.claimId).Nodup)
    (hperm : claims.Perm others) (h : claimsByTask evidence claims Dict.empty = .ok byTask) :
    ∃ again, claimsByTask evidence others Dict.empty = .ok again ∧
      byTask.entries.Perm again.entries := by
  obtain ⟨hbound, hentries⟩ := claimsByTask_entries_eq hnodup h
  have hkeys : byTask.keys = claims.map (taskOf evidence) := by
    rw [Dict.keys, hentries, List.map_map]
    rfl
  have hdistinct : (Dict.keys (Dict.empty : Dict String Claim) ++
      others.map (taskOf evidence)).Nodup := by
    rw [show Dict.keys (Dict.empty : Dict String Claim) = [] from rfl, List.nil_append,
      ← (hperm.map (taskOf evidence)).nodup_iff, ← hkeys]
    exact byTask.nodup_keys
  obtain ⟨again, hagain, hresult⟩ := claimsByTask_of_distinct others Dict.empty
    (fun claim hclaim => hbound claim (hperm.mem_iff.mpr hclaim)) hdistinct
  refine ⟨again, hagain, ?_⟩
  rw [hentries, hresult]
  exact hperm.map (taskEntry evidence)

theorem taskProjectsOf_of_perm {taskProjects : Dict String String} {tasks others : List String}
    {projects : List String} (h : tasks.Perm others)
    (hprojects : taskProjectsOf taskProjects tasks = .ok projects) :
    ∃ again, taskProjectsOf taskProjects others = .ok again ∧ projects.Perm again := by
  have hmissing := sortedSet_of_perm
    (h.filter fun task => (taskProjects.get? task).isNone)
  have hperm := (h.filterMap taskProjects.get?).dedup
  simp only [taskProjectsOf, except_bind_ok_iff, requireContract_ok_iff, exists_const] at hprojects
  obtain ⟨hnone, htexts, hresult⟩ := hprojects
  cases hresult
  refine ⟨(others.filterMap taskProjects.get?).dedup, ?_, hperm⟩
  simp only [taskProjectsOf, except_bind_ok_iff, requireContract_ok_iff, exists_const]
  rw [← hmissing]
  exact ⟨hnone, fun project hproject => htexts project (hperm.mem_iff.mpr hproject), rfl⟩

/-- Two aggregations with the same entries in some order. -/
structure SameAggregation (row again : Aggregation) : Prop where
  byTask : row.byTask.entries.Perm again.byTask.entries
  projects : row.projects.Perm again.projects
  predictionEvidence : row.predictionEvidence.Perm again.predictionEvidence
  rebuilt : row.counterfactualLineageRebuilt = again.counterfactualLineageRebuilt

namespace SameAggregation

variable {row again : Aggregation} (h : SameAggregation row again)

include h

theorem claims : row.claims.Perm again.claims := h.byTask.map Prod.snd

theorem countOf (classification : ClaimClassification) :
    Evidence.countOf again.claims classification = Evidence.countOf row.claims classification :=
  (h.claims.countP_eq _).symm

theorem taskCount : again.taskCount = row.taskCount := h.byTask.length_eq.symm

theorem predictionConsistent : again.predictionConsistent = row.predictionConsistent :=
  (h.predictionEvidence.countP_eq _).symm

theorem validNativeClaims : again.validNativeClaims = row.validNativeClaims := by
  rw [Bool.eq_iff_iff, Aggregation.validNativeClaims, Aggregation.validNativeClaims,
    List.all_eq_true, List.all_eq_true]
  simp only [h.claims.mem_iff]

theorem e3Eligible (mechanismId : Option String) :
    again.e3Eligible mechanismId = row.e3Eligible mechanismId := by
  simp only [Aggregation.e3Eligible, h.countOf, h.taskCount, h.predictionConsistent,
    h.validNativeClaims, h.rebuilt, h.projects.length_eq]

theorem state (candidateId : String) (mechanismId : Option String) :
    again.state candidateId mechanismId = row.state candidateId mechanismId := by
  have hclaimIds := insertionSort_of_perm (h.claims.map Claim.claimId)
  have htasks := insertionSort_of_perm (h.byTask.map Prod.fst)
  have hprediction := insertionSort_of_perm h.predictionEvidence.flatten
  have hkeys : ∀ row : Aggregation, row.byTask.keys = row.byTask.entries.map Prod.fst :=
    fun _ => rfl
  simp only [Aggregation.state, Aggregation.grade, Aggregation.rationale,
    aggregateClassification, h.countOf, h.taskCount, h.predictionConsistent, h.validNativeClaims,
    h.e3Eligible, h.rebuilt, ← h.projects.length_eq, hkeys, ← hclaimIds, ← htasks, ← hprediction]

end SameAggregation

/-- The same lines in another order. -/
structure EvidenceGraph.Reordered (graph other : EvidenceGraph) : Prop where
  evidence : graph.evidenceLines.Perm other.evidenceLines
  claims : graph.claimLines.Perm other.claimLines
  legacy : other.allowLegacyUnboundClaims = graph.allowLegacyUnboundClaims

/-- Evidence lines of one id hold one record. -/
def EvidenceGraph.OneContentEach (graph : EvidenceGraph) : Prop :=
  ∀ row other rowSha256 otherSha256, .record row rowSha256 ∈ graph.evidenceLines →
    .record other otherSha256 ∈ graph.evidenceLines → row.evidenceId = other.evidenceId →
      row = other

theorem EvidenceEnvelope.same_self (row : EvidenceEnvelope) : EvidenceEnvelope.same row row = true :=
  Json.pyEq_self _

theorem EvidenceEnvelope.same_euclid (kept row other : EvidenceEnvelope)
    (hrow : EvidenceEnvelope.same kept row = true)
    (hother : EvidenceEnvelope.same kept other = true) :
    EvidenceEnvelope.same row other = true := by
  rw [EvidenceEnvelope.same, ← Json.pyEq_congr hrow]
  exact hother

theorem lineReads_evidence {line : StoredLine EvidenceEnvelope} {row : EvidenceEnvelope}
    (h : LineReads (fun envelope : EvidenceEnvelope =>
      if envelope.postInit then some envelope else none) EvidenceEnvelope.contentSha256 line row) :
    ∃ sha256, line = .record row sha256 := by
  obtain ⟨raw, expected, rfl, hrow, -⟩ := h
  dsimp only at hrow
  split at hrow
  · rw [Option.some.inj hrow]
    exact ⟨expected, rfl⟩
  · cases hrow

section Stores

variable {graph other : EvidenceGraph} (h : graph.Reordered other)

include h

theorem listEvidence_of_reordered (hone : graph.OneContentEach) {evidence : List EvidenceEnvelope}
    (hread : graph.listEvidence = .ok evidence) :
    ∃ again, other.listEvidence = .ok again ∧ evidence.Perm again := by
  refine read_perm EvidenceEnvelope.same_self ?_ h.evidence hread
  rintro row held ⟨line, hline, hrow⟩ ⟨line', hline', hheld⟩ hid
  obtain ⟨sha256, rfl⟩ := lineReads_evidence hrow
  obtain ⟨sha256', rfl⟩ := lineReads_evidence hheld
  exact hone row held sha256 sha256' hline hline' hid

theorem listClaims_of_reordered {claims : List Claim} (hread : graph.listClaims = .ok claims) :
    ∃ again, other.listClaims = .ok again ∧ claims.Perm again := by
  have hrefl : ∀ claim : Claim, decide (claim = claim) = true := fun claim => decide_eq_true rfl
  have hconstruct : other.constructClaim = graph.constructClaim := by
    funext row
    rw [EvidenceGraph.constructClaim, EvidenceGraph.constructClaim, h.legacy]
  rw [EvidenceGraph.listClaims, hconstruct]
  exact read_perm hrefl (oneContent_of_read hrefl (fun _ _ => of_decide_eq_true) hread) h.claims
    hread

end Stores

theorem latestOf_of_perm {claims others : List Claim} (h : claims.Perm others) :
    (latestOf claims).Perm (latestOf others) := by
  have hmem : ∀ id, id ∈ others.map Claim.supersedesClaimId ↔
      id ∈ claims.map Claim.supersedesClaimId :=
    fun id => (h.map _).mem_iff.symm
  rw [latestOf, latestOf]
  simp only [hmem]
  exact h.filter _

theorem checkClaim_of_perm {evidence others : List EvidenceEnvelope} {claims rest : List Claim}
    (hnodup : (evidence.map EvidenceEnvelope.evidenceId).Nodup) (hevidence : evidence.Perm others)
    (hclaims : claims.Perm rest) (receipts : List Receipt) (claim : Claim) :
    checkClaim others rest receipts claim = checkClaim evidence claims receipts claim := by
  have hids : ∀ id, id ∈ others.map EvidenceEnvelope.evidenceId ↔
      id ∈ evidence.map EvidenceEnvelope.evidenceId :=
    fun id => (hevidence.map _).mem_iff.symm
  have hany : ∀ keep : Claim → Bool, rest.any keep = claims.any keep := by
    intro keep
    rw [Bool.eq_iff_iff, List.any_eq_true, List.any_eq_true]
    simp only [hclaims.mem_iff]
  simp only [checkClaim, rebuildCounterfactualBinding, hids, hany,
    find?_of_perm hnodup hevidence]

theorem mapM_ok_of_perm {α ε : Type} {check again : α → Except ε Unit} {items others : List α}
    {answers : List Unit} (hperm : items.Perm others) (hsame : ∀ item, again item = check item)
    (h : items.mapM check = .ok answers) : ∃ answers, others.mapM again = .ok answers := by
  refine mapM_ok_of_forall fun item hitem => ?_
  rw [hsame]
  exact mapM_ok_mem h (hperm.mem_iff.mpr hitem)

theorem rebuild_of_reordered {graph other rebuilt : EvidenceGraph} (h : graph.Reordered other)
    (hone : graph.OneContentEach) {store : ReceiptStore}
    (hrebuild : graph.rebuild store false = .ok rebuilt) :
    ∃ again, other.rebuild store false = .ok again := by
  simp only [EvidenceGraph.rebuild, except_bind_ok_iff] at hrebuild
  obtain ⟨receipts, hreceipts, evidence, hevidence, _, hrows, claims, hclaims, _, hchecked, -⟩ :=
    hrebuild
  have hstrict : EvidenceGraph.Reordered { graph with allowLegacyUnboundClaims := false }
      { other with allowLegacyUnboundClaims := false } := ⟨h.evidence, h.claims, rfl⟩
  obtain ⟨reread, hreread, hperm⟩ := listEvidence_of_reordered hstrict hone hevidence
  obtain ⟨again, hagain, hclaimsPerm⟩ := listClaims_of_reordered hstrict hclaims
  have hnodup := readGraphLines_nodup _ 1 [] evidence (by simp) hevidence
  obtain ⟨rows, hrowsAgain⟩ := mapM_ok_of_perm hperm (fun _ => rfl) hrows
  obtain ⟨checked, hcheckedAgain⟩ := mapM_ok_of_perm hclaimsPerm
    (checkClaim_of_perm hnodup hperm hclaimsPerm receipts) hchecked
  refine ⟨{ other with allowLegacyUnboundClaims := false }, ?_⟩
  simp only [EvidenceGraph.rebuild, except_bind_ok_iff]
  exact ⟨receipts, hreceipts, reread, hreread, rows, hrowsAgain, again, hagain, checked,
    hcheckedAgain, rfl⟩

section Aggregate

variable {machine : EvidenceGradeMachine} {other : EvidenceGraph}

theorem rebuildLineage_of_reordered (h : machine.graph.Reordered other)
    (hone : machine.graph.OneContentEach) {valid rebuilt : Bool}
    (hrebuilt : machine.rebuildLineage valid = .ok rebuilt) :
    EvidenceGradeMachine.rebuildLineage { machine with graph := other } valid = .ok rebuilt := by
  unfold EvidenceGradeMachine.rebuildLineage at hrebuilt ⊢
  cases hstore : machine.receiptStore with
  | none =>
    rw [hstore] at hrebuilt
    exact hrebuilt
  | some store =>
    rw [hstore] at hrebuilt
    cases valid with
    | false => exact hrebuilt
    | true =>
      simp only [if_true, except_map_ok_iff] at hrebuilt ⊢
      obtain ⟨graph, hgraph, hresult⟩ := hrebuilt
      obtain ⟨again, hagain⟩ := rebuild_of_reordered h hone hgraph
      exact ⟨again, hagain, hresult⟩

theorem aggregation_of_reordered (h : machine.graph.Reordered other)
    (hone : machine.graph.OneContentEach) {claims others : List Claim}
    (hnodup : (claims.map Claim.claimId).Nodup) (hclaims : claims.Perm others)
    {taskProjects : Dict String String} {mechanismId : Option String} {row : Aggregation}
    (hrow : machine.aggregation claims taskProjects mechanismId = .ok row) :
    ∃ again, EvidenceGradeMachine.aggregation { machine with graph := other } others taskProjects
      mechanismId = .ok again ∧ SameAggregation row again := by
  obtain ⟨evidence, receipts, hevidence, hbyTask, hprojects, hreceipts, hprediction, hrebuilt⟩ :=
    aggregation_eq_ok hrow
  obtain ⟨reread, hreread, hperm⟩ := listEvidence_of_reordered h hone hevidence
  have hids := readGraphLines_nodup _ 1 [] evidence (by simp) hevidence
  obtain ⟨byTask, hentered, hentries⟩ := claimsByTask_of_perm hnodup hclaims hbyTask
  obtain ⟨projects, hmapped, hprojectsPerm⟩ :=
    taskProjectsOf_of_perm (hentries.map Prod.fst) hprojects
  have hpredictionPerm : row.predictionEvidence.Perm (byTask.entries.map fun entry =>
      (taskPredictionEvidence { machine with graph := other } receipts reread entry.1 mechanismId
        entry.2.evidenceIds).getD []) := by
    rw [hprediction]
    simp only [taskPredictionEvidence_of_perm hperm]
    exact hentries.map _
  have hvalid : byTask.values.all (fun claim => 2 ≤ claim.grade.rank) = row.validNativeClaims := by
    rw [Bool.eq_iff_iff, Aggregation.validNativeClaims, List.all_eq_true, List.all_eq_true]
    exact forall_congr' fun claim => imp_congr_left (hentries.map Prod.snd).mem_iff.symm
  refine ⟨⟨byTask, projects, _, row.counterfactualLineageRebuilt⟩, ?_,
    hentries, hprojectsPerm, hpredictionPerm, rfl⟩
  simp only [EvidenceGradeMachine.aggregation, except_bind_ok_iff]
  refine ⟨reread, hreread, byTask, ?_, projects, hmapped, receipts, hreceipts,
    row.counterfactualLineageRebuilt, ?_, rfl⟩
  · rw [claimsByTask_of_perm_evidence hids hperm]
    exact hentered
  · rw [hvalid]
    exact rebuildLineage_of_reordered h hone hrebuilt

theorem aggregate_of_reordered (h : machine.graph.Reordered other)
    (hone : machine.graph.OneContentEach) {candidateId : String}
    {taskProjects : Dict String String} {mechanismId : Option String}
    {state : CandidateEvidenceState}
    (hstate : machine.aggregate candidateId taskProjects mechanismId = .ok state) :
    EvidenceGradeMachine.aggregate { machine with graph := other } candidateId taskProjects
      mechanismId = .ok state := by
  simp only [EvidenceGradeMachine.aggregate, except_bind_ok_iff, requireContract_ok_iff,
    EvidenceGraph.latestClaims, except_map_ok_iff] at hstate ⊢
  obtain ⟨_, htext, latest, ⟨claims, hclaims, rfl⟩, hstate⟩ := hstate
  obtain ⟨again, hagain, hperm⟩ := listClaims_of_reordered h hclaims
  have hids := readGraphLines_nodup _ 1 [] claims (by simp) hclaims
  have hkept := (latestOf_of_perm hperm).filter fun claim => claim.candidateId = candidateId
  refine ⟨(), htext, latestOf again, ⟨again, hagain, rfl⟩, ?_⟩
  split at hstate
  · rename_i hnone
    rw [hnone] at hkept
    rw [if_pos (List.nil_perm.mp hkept)]
    exact hstate
  · rename_i hsome
    have hsome' : (latestOf again).filter (fun claim => claim.candidateId = candidateId) ≠ [] := by
      intro hnone
      rw [hnone] at hkept
      exact hsome (List.perm_nil.mp hkept)
    rw [if_neg hsome']
    simp only [except_bind_ok_iff] at hstate ⊢
    obtain ⟨row, hrow, hresult⟩ := hstate
    cases hresult
    obtain ⟨reordered, hreordered, hsame⟩ :=
      aggregation_of_reordered h hone (latestOf_nodup hids _) hkept hrow
    exact ⟨reordered, hreordered, congrArg Except.ok (hsame.state candidateId mechanismId)⟩

theorem EvidenceGraph.Reordered.symm {graph other : EvidenceGraph} (h : graph.Reordered other) :
    other.Reordered graph := ⟨h.evidence.symm, h.claims.symm, h.legacy.symm⟩

theorem oneContentEach_of_reordered {graph other : EvidenceGraph} (h : graph.Reordered other)
    (hone : graph.OneContentEach) : other.OneContentEach := by
  intro row held sha256 sha256' hrow hheld
  exact hone row held sha256 sha256' (h.evidence.mem_iff.mpr hrow) (h.evidence.mem_iff.mpr hheld)

/-- While evidence lines of one id hold one record the grade state is the same
for every order of the two logs; where they do not, some order is read to other
evidence. -/
theorem aggregate_any_order {evidence : List EvidenceEnvelope}
    (hread : machine.graph.listEvidence = .ok evidence) :
    (machine.graph.OneContentEach → ∀ other, machine.graph.Reordered other →
      ∀ candidateId taskProjects mechanismId state,
        EvidenceGradeMachine.aggregate { machine with graph := other } candidateId taskProjects
            mechanismId = .ok state ↔
          machine.aggregate candidateId taskProjects mechanismId = .ok state) ∧
    (¬ machine.graph.OneContentEach → ∃ other again, machine.graph.Reordered other ∧
      other.listEvidence = .ok again ∧ ¬ evidence.Perm again) := by
  constructor
  · intro hone other h candidateId taskProjects mechanismId state
    constructor
    · intro hstate
      have hback : EvidenceGraph.Reordered
          (EvidenceGradeMachine.graph { machine with graph := other }) machine.graph := h.symm
      exact aggregate_of_reordered hback (oneContentEach_of_reordered h hone) hstate
    · exact aggregate_of_reordered h hone
  · intro hmany
    have hreadable := readable_of_read EvidenceEnvelope.same_self hread
    have hdistinct : ¬ OneContent EvidenceEnvelope.evidenceId
        (Written (fun envelope : EvidenceEnvelope =>
          if envelope.postInit then some envelope else none) EvidenceEnvelope.contentSha256
          machine.graph.evidenceLines) := by
      intro hone
      refine hmany ?_
      intro row held sha256 sha256' hrow hheld hid
      obtain ⟨read, hreads⟩ := hreadable _ hrow
      obtain ⟨found, hfound⟩ := hreadable _ hheld
      obtain ⟨_, hline⟩ := lineReads_evidence hreads
      obtain ⟨_, hline'⟩ := lineReads_evidence hfound
      cases hline
      cases hline'
      exact hone row held ⟨_, hrow, hreads⟩ ⟨_, hheld, hfound⟩ hid
    obtain ⟨lines, again, hperm, hagain, hdiffers⟩ := read_differs EvidenceEnvelope.same_self
      (agreeing_of_read EvidenceEnvelope.same_self EvidenceEnvelope.same_euclid hread) hdistinct
      hread
    exact ⟨{ machine.graph with evidenceLines := lines }, again,
      ⟨hperm, List.Perm.refl _, rfl⟩, hagain, hdiffers⟩

end Aggregate

namespace SupportedCandidate

/-- The logs of the supported candidate, read from their ends. -/
def reversedGraph : EvidenceGraph :=
  { evidenceLines := graph.evidenceLines.reverse
    claimLines := graph.claimLines.reverse
    allowLegacyUnboundClaims := false }

theorem oneContentEach : machine.graph.OneContentEach := by
  intro row other sha256 sha256' hrow hother hid
  obtain ⟨first, hfirst, hline⟩ := List.mem_map.mp hrow
  obtain ⟨second, hsecond, hline'⟩ := List.mem_map.mp hother
  cases hline
  cases hline'
  exact List.inj_on_of_nodup_map evidence_nodup hfirst hsecond hid

theorem reversed_same : EvidenceGradeMachine.aggregate { machine with graph := reversedGraph }
    "candidate" projects (some "mechanism") =
      .ok (aggregated.state "candidate" (some "mechanism")) := by
  have hreordered : machine.graph.Reordered reversedGraph :=
    ⟨(List.reverse_perm _).symm, (List.reverse_perm _).symm, rfl⟩
  have hread : machine.graph.listEvidence = .ok evidence := listEvidence_ok
  have hsame := (aggregate_any_order hread).1 oneContentEach reversedGraph hreordered "candidate"
    projects (some "mechanism") (aggregated.state "candidate" (some "mechanism"))
  exact hsame.mpr aggregate_ok

end SupportedCandidate

namespace AliasedEvidence

/-- A row about a task whose revision id is this value. -/
def rowOf (task : Json) : EvidenceEnvelope :=
  { evidenceId := "evidence-1", receiptIds := ["receipt-1"], observerId := "native-v1"
    grade := .E1, payload := [("task_revision_id", task)]
    artifactSha256 := SupportedCandidate.digest }

def claim : Claim :=
  { claimId := "claim-1", candidateId := "candidate", grade := .E1, classification := .gain
    evidenceIds := ["evidence-1"], rationale := "resolved", supersedesClaimId := none
    counterfactualPairSha256 := none, counterfactualReceiptIds := [] }

def graph (rows : List EvidenceEnvelope) : EvidenceGraph :=
  { evidenceLines := rows.map fun row => .record row row.contentSha256
    claimLines := [claim].map fun claim => .record ⟨claim, true⟩ claim.contentSha256
    allowLegacyUnboundClaims := false }

def machine (rows : List EvidenceEnvelope) : EvidenceGradeMachine := ⟨graph rows, none, none⟩

def projects : Dict String String :=
  (Dict.empty.set "1" "project").set "True" "project"

theorem rowOf_valid (task : Json) : (rowOf task).postInit = true := by
  have hid : isText "evidence-1" = true := by decide
  have hobserver : isText "native-v1" = true := by decide
  simp [EvidenceEnvelope.postInit, rowOf, hid, hobserver, SupportedCandidate.digest_isSha256]

theorem listEvidence_aliased {first second : Json}
    (h : EvidenceEnvelope.same (rowOf first) (rowOf second) = true) :
    (graph [rowOf first, rowOf second]).listEvidence = .ok [rowOf first] := by
  have hid : (rowOf first).evidenceId = (rowOf second).evidenceId := rfl
  simp [EvidenceGraph.listEvidence, graph, readGraphLines, rowOf_valid, h, hid]

theorem claim_valid : claim.postInit false = true := by decide

theorem listClaims_ok (rows : List EvidenceEnvelope) : (graph rows).listClaims = .ok [claim] := by
  refine EvidenceGraph.listClaims_wellFormed rfl ?_ (List.nodup_singleton _)
  intro other hother
  rw [List.mem_singleton.mp hother]
  exact claim_valid

theorem aggregate_aliased {first second : Json}
    (h : EvidenceEnvelope.same (rowOf first) (rowOf second) = true)
    (hbound : boundTask [rowOf first] claim = .ok (pyStr first))
    (hknown : taskProjectsOf projects [pyStr first] = .ok ["project"]) :
    ∃ state, (machine [rowOf first, rowOf second]).aggregate "candidate" projects none =
      .ok state ∧ state.taskRevisionIds = [pyStr first] := by
  have hlatest : latestOf [claim] = [claim] := by decide
  have hcandidate : isText "candidate" = true := by decide
  have hkept : [claim].filter (fun claim => claim.candidateId = "candidate") = [claim] := rfl
  have hentered : claimsByTask [rowOf first] [claim] Dict.empty =
      .ok (Dict.empty.set (pyStr first) claim) := by
    rw [claimsByTask, hbound]
    rfl
  obtain ⟨row, hrow, hkeys⟩ : ∃ row, (machine [rowOf first, rowOf second]).aggregation [claim]
      projects none = .ok row ∧ row.byTask.keys = [pyStr first] := by
    refine ⟨⟨Dict.empty.set (pyStr first) claim, ["project"], [[]], false⟩, ?_, rfl⟩
    simp only [EvidenceGradeMachine.aggregation, except_bind_ok_iff]
    exact ⟨_, listEvidence_aliased h, _, hentered, _, hknown, [], rfl, false, rfl, rfl⟩
  refine ⟨row.state "candidate" none, ?_, ?_⟩
  · simp only [EvidenceGradeMachine.aggregate, EvidenceGraph.latestClaims, except_bind_ok_iff,
      except_map_ok_iff, requireContract_ok_iff, exists_const]
    refine ⟨hcandidate, [claim], ⟨[claim], listClaims_ok _, hlatest⟩, ?_⟩
    rw [hkept, if_neg (List.cons_ne_nil _ _)]
    simp only [except_bind_ok_iff]
    exact ⟨row, hrow, rfl⟩
  · rw [Aggregation.state, hkeys]
    rfl

end AliasedEvidence

open AliasedEvidence in
/-- Python takes `1` and `True` for one value: whichever line comes first names
the task. -/
theorem task_of_first_line :
    (graph [rowOf (.int 1), rowOf (.bool true)]).Reordered
      (graph [rowOf (.bool true), rowOf (.int 1)]) ∧
    (∃ state, (machine [rowOf (.int 1), rowOf (.bool true)]).aggregate "candidate" projects none =
      .ok state ∧ state.taskRevisionIds = ["1"]) ∧
    ∃ state, (machine [rowOf (.bool true), rowOf (.int 1)]).aggregate "candidate" projects none =
      .ok state ∧ state.taskRevisionIds = ["True"] := by
  refine ⟨⟨List.Perm.swap _ _ _, List.Perm.refl _, rfl⟩, ?_, ?_⟩
  · exact aggregate_aliased (by decide) (by decide) (by decide)
  · exact aggregate_aliased (by decide) (by decide) (by decide)

end JlensEvolve.Evidence
