import JlensEvolve.Evidence.GradeMachine

/-!
What an E3 state of the grade machine stands for: tasks, projects and gains of
the latest claims, one baseline and one taught plan for each task with their
unique rows, verified receipt lineage, and stores that rebuild.
-/

namespace JlensEvolve.Evidence

open Library Contracts

/-! ## What supports an E3 state -/

/-- One plan of a task: exactly one native row, which has the arm, one external
row and one trusted row, all three about one model output and prediction, and
the receipts behind the trusted row are stored and verified. -/
def ArmObserved (verifier : TrustedObserverVerifier) (store : ReceiptStore)
    (receipts : List Receipt) (evidence : List EvidenceEnvelope) (task mechanism : String)
    (claim : Claim) (arm plan : String) : Prop :=
  ∃ native external internal lineage,
    (nativeRows evidence task claim.evidenceIds).filter
        (fun row => payloadGet row.payload "plan_id" = .str plan) = [native] ∧
      payloadGet native.payload "arm" = .str arm ∧
      externalRows evidence task mechanism claim.evidenceIds plan = [external] ∧
      internalRows verifier evidence task mechanism plan = [internal] ∧
      sameSubject native external internal = true ∧
      observedLineage receipts internal = some lineage ∧
      verifier.verifyReceiptLineage internal lineage.observation lineage.prediction
        lineage.model store.readArtifact = true

structure TaskObserved (verifier : TrustedObserverVerifier) (store : ReceiptStore)
    (receipts : List Receipt) (evidence : List EvidenceEnvelope) (task mechanism : String)
    (claim : Claim) (baselinePlan taughtPlan : String) : Prop where
  separate : baselinePlan ≠ taughtPlan
  baseline :
    ArmObserved verifier store receipts evidence task mechanism claim "baseline" baselinePlan
  taught : ArmObserved verifier store receipts evidence task mechanism claim "taught" taughtPlan
  noOtherPlan : ∀ row ∈ nativeRows evidence task claim.evidenceIds,
    payloadGet row.payload "plan_id" = .str baselinePlan ∨
      payloadGet row.payload "plan_id" = .str taughtPlan

/-- Everything the gates of E3 promise about the stores the machine read, for
the candidate's latest claims and the tasks they bind, in the same order. -/
structure E3Support (machine : EvidenceGradeMachine) (candidateId : String)
    (taskProjects : Dict String String) (mechanism : String) (evidence : List EvidenceEnvelope)
    (claims : List Claim) (tasks : List String) : Prop where
  evidenceRead : machine.graph.listEvidence = .ok evidence
  claimsRead : machine.graph.latestClaims.map
    (List.filter (fun claim => claim.candidateId = candidateId)) = .ok claims
  oneTaskEach : claims.map (boundTasks evidence) = tasks.map ([·])
  distinctTasks : tasks.Nodup
  threeTasks : 3 ≤ tasks.length
  twoProjects : ∃ first ∈ tasks, ∃ second ∈ tasks, ∃ firstProject secondProject,
    taskProjects.get? first = some firstProject ∧
      taskProjects.get? second = some secondProject ∧ firstProject ≠ secondProject
  twoGains : 2 ≤ countOf claims .gain
  noRegression : ∀ claim ∈ claims, claim.classification ≠ .regression
  noInfraFailure : ∀ claim ∈ claims, claim.classification ≠ .infraFailure
  observed : ∃ verifier store receipts, machine.trustedObserverVerifier = some verifier ∧
    machine.receiptStore = some store ∧ store.listReceipts = .ok receipts ∧
      ∀ claim ∈ claims, ∀ task, boundTasks evidence claim = [task] →
        ∃ baselinePlan taughtPlan, TaskObserved verifier store receipts evidence task mechanism
          claim baselinePlan taughtPlan
  rebuilds : ∃ store graph, machine.receiptStore = some store ∧
    machine.graph.rebuild store false = .ok graph

theorem boundTask_eq_ok {evidence : List EvidenceEnvelope} {claim : Claim} {task : String}
    (h : boundTask evidence claim = .ok task) : boundTasks evidence claim = [task] := by
  unfold boundTask at h
  split at h
  · rename_i bound hbound
    cases h
    exact hbound
  · cases h

/-- With distinct claim ids no claim finds its task taken, so the loop adds
one entry for each claim, in order. -/
theorem claimsByTask_entries {evidence : List EvidenceEnvelope} (claims : List Claim)
    (acc byTask : Dict String Claim) (hnodup : (claims.map Claim.claimId).Nodup)
    (hfresh : ∀ entry ∈ acc.entries, entry.2.claimId ∉ claims.map Claim.claimId)
    (h : claimsByTask evidence claims acc = .ok byTask) :
    ∃ tasks : List String, byTask.entries = acc.entries ++ tasks.zip claims ∧
      claims.map (boundTasks evidence) = tasks.map ([·]) := by
  induction claims generalizing acc with
  | nil =>
    cases h
    exact ⟨[], by simp, rfl⟩
  | cons claim rest ih =>
    simp only [List.map_cons, List.nodup_cons] at hnodup
    simp only [claimsByTask] at h
    split at h
    · cases h
    · rename_i task htask
      have hnew : acc.get? task = none := by
        cases hprior : acc.get? task with
        | none => rfl
        | some prior =>
          have hmem := (acc.get?_eq_some_iff task prior).mp hprior
          have hdiffers := hfresh _ hmem
          simp only [List.map_cons, List.mem_cons, not_or] at hdiffers
          simp [hprior, hdiffers.1] at h
      rw [hnew] at h
      have hentries : (acc.set task claim).entries = acc.entries ++ [(task, claim)] :=
        acc.entries_set_of_absent claim ((acc.get?_eq_none_iff task).mp hnew)
      have hstill : ∀ entry ∈ (acc.set task claim).entries,
          entry.2.claimId ∉ rest.map Claim.claimId := by
        intro entry hentry
        rw [hentries, List.mem_append, List.mem_singleton] at hentry
        rcases hentry with hold | rfl
        · exact fun hmem => hfresh entry hold (List.mem_cons_of_mem _ hmem)
        · exact hnodup.1
      obtain ⟨tasks, hbyTask, hbound⟩ := ih _ hnodup.2 hstill h
      refine ⟨task :: tasks, ?_, ?_⟩
      · rw [hbyTask, hentries]
        simp
      · rw [List.map_cons, boundTask_eq_ok htask, hbound]
        rfl

theorem latestOf_nodup {claims : List Claim} (h : (claims.map Claim.claimId).Nodup)
    (keep : Claim → Bool) : (((latestOf claims).filter keep).map Claim.claimId).Nodup := by
  have hsub : ((latestOf claims).filter keep).Sublist claims :=
    List.filter_sublist.trans List.filter_sublist
  exact (hsub.map Claim.claimId).nodup h

/-! ## The rows of one task -/

theorem planEvidence_eq_some {verifier : TrustedObserverVerifier} {receipts : List Receipt}
    {reader : String → Checked (List Nat)} {evidence : List EvidenceEnvelope}
    {task mechanism plan : String} {claimEvidenceIds : List String} {row : PlanEvidence}
    (h : planEvidence verifier receipts reader evidence task mechanism claimEvidenceIds plan =
      some row) :
    (nativeRows evidence task claimEvidenceIds).filter
        (fun row => payloadGet row.payload "plan_id" = .str plan) = [row.native] ∧
      externalRows evidence task mechanism claimEvidenceIds plan = [row.external] ∧
      internalRows verifier evidence task mechanism plan = [row.internal] ∧
      sameSubject row.native row.external row.internal = true ∧
      observedLineage receipts row.internal = some row.lineage ∧
      verifier.verifyReceiptLineage row.internal row.lineage.observation row.lineage.prediction
        row.lineage.model reader = true := by
  unfold planEvidence at h
  simp only [Option.bind_eq_bind, Option.bind_eq_some_iff, Option.guard_eq_some',
    Option.pure_def, Option.some.injEq] at h
  obtain ⟨⟨native, external, internal⟩, hrows, -, hsubject, lineage, hlineage, -, hverified,
    candidate, -, -, -, effect, -, -, -, rfl⟩ := h
  unfold uniqueRows at hrows
  split at hrows
  · rename_i nativeOnly externalOnly internalOnly hnative hexternal hinternal
    cases hrows
    exact ⟨hnative, hexternal, hinternal, hsubject, hlineage, hverified⟩
  · cases hrows

theorem sortedSet_nodup (texts : List String) : (sortedSet texts).Nodup :=
  (List.perm_insertionSort _ _).nodup_iff.mpr (List.nodup_dedup texts)

theorem mem_sortedSet (texts : List String) (text : String) :
    text ∈ sortedSet texts ↔ text ∈ texts := by
  rw [sortedSet, List.mem_insertionSort, List.mem_dedup]

theorem planIds_eq_some {rows : List EvidenceEnvelope} {plans : List String}
    (h : planIds rows = some plans) :
    plans.Nodup ∧ ∀ row ∈ rows, ∃ plan ∈ plans, payloadGet row.payload "plan_id" = .str plan := by
  unfold planIds at h
  rw [Option.map_eq_some_iff] at h
  obtain ⟨read, hread, rfl⟩ := h
  refine ⟨sortedSet_nodup read, ?_⟩
  intro row hrow
  obtain ⟨plan, hplan, hvalue⟩ := mapM_some_mem hread hrow
  refine ⟨plan, (mem_sortedSet read plan).mpr hplan, ?_⟩
  split at hvalue
  · rename_i text htext
    split at hvalue
    · cases hvalue
    · cases hvalue
      exact htext
  · cases hvalue

theorem native_of_arm {rows : List EvidenceEnvelope} {native : EvidenceEnvelope} {arm plan : String}
    (hone : rows.filter (fun row => payloadGet row.payload "plan_id" = .str plan) = [native])
    {row : EvidenceEnvelope} (hrow : row ∈ rows)
    (hplan : payloadGet row.payload "plan_id" = .str plan)
    (harm : payloadGet row.payload "arm" = .str arm) :
    payloadGet native.payload "arm" = .str arm := by
  have hmem : row ∈ rows.filter (fun row => payloadGet row.payload "plan_id" = .str plan) :=
    List.mem_filter.mpr ⟨hrow, by simpa using hplan⟩
  rw [hone, List.mem_singleton] at hmem
  rw [← hmem]
  exact harm

theorem taskPredictionEvidence_eq_some {machine : EvidenceGradeMachine} {receipts : List Receipt}
    {evidence : List EvidenceEnvelope} {task : String} {mechanismId : Option String}
    {claim : Claim} {ids : List String}
    (h : taskPredictionEvidence machine receipts evidence task mechanismId claim.evidenceIds =
      some ids) :
    ∃ mechanism verifier store, mechanismId = some mechanism ∧
      machine.trustedObserverVerifier = some verifier ∧ machine.receiptStore = some store ∧
      ∃ baselinePlan taughtPlan, TaskObserved verifier store receipts evidence task mechanism
        claim baselinePlan taughtPlan := by
  unfold taskPredictionEvidence at h
  simp only [Option.bind_eq_bind, Option.bind_eq_some_iff, Option.guard_eq_some'] at h
  obtain ⟨mechanism, hmechanism, -, -, verifier, hverifier, store, hstore, plans, hplans, h⟩ := h
  refine ⟨mechanism, verifier, store, hmechanism, hverifier, hstore, ?_⟩
  split at h
  · rename_i firstPlan secondPlan
    obtain ⟨hnodup, hmem⟩ := planIds_eq_some hplans
    simp only [Option.bind_eq_some_iff, Option.guard_eq_some', List.mem_map] at h
    obtain ⟨-, ⟨⟨baselineRow, hbaselineRow, hbaselineArm⟩,
      ⟨taughtRow, htaughtRow, htaughtArm⟩, -⟩, first, hfirst, second, hsecond, -⟩ := h
    have hne : firstPlan ≠ secondPlan := by simpa using hnodup
    have hcover : ∀ row ∈ nativeRows evidence task claim.evidenceIds,
        payloadGet row.payload "plan_id" = .str firstPlan ∨
          payloadGet row.payload "plan_id" = .str secondPlan := by
      intro row hrow
      obtain ⟨plan, hplan, hvalue⟩ := hmem row hrow
      rcases List.mem_pair.mp hplan with rfl | rfl
      · exact Or.inl hvalue
      · exact Or.inr hvalue
    obtain ⟨hfirstNative, hfirstRest⟩ := planEvidence_eq_some hfirst
    obtain ⟨hsecondNative, hsecondRest⟩ := planEvidence_eq_some hsecond
    -- the two arms cannot share a plan: its single native row has one arm
    have hclash : ∀ row : EvidenceEnvelope, payloadGet row.payload "arm" = .str "baseline" →
        payloadGet row.payload "arm" = .str "taught" → False := by
      intro row hbaseline htaught
      rw [hbaseline] at htaught
      simp at htaught
    rcases hcover baselineRow hbaselineRow with hb | hb
    · have hbaseline := native_of_arm hfirstNative hbaselineRow hb hbaselineArm
      rcases hcover taughtRow htaughtRow with ht | ht
      · exact absurd (native_of_arm hfirstNative htaughtRow ht htaughtArm)
          (hclash _ hbaseline)
      · have htaught := native_of_arm hsecondNative htaughtRow ht htaughtArm
        exact ⟨firstPlan, secondPlan,
          { separate := hne
            baseline := ⟨_, _, _, _, hfirstNative, hbaseline, hfirstRest⟩
            taught := ⟨_, _, _, _, hsecondNative, htaught, hsecondRest⟩
            noOtherPlan := hcover }⟩
    · have hbaseline := native_of_arm hsecondNative hbaselineRow hb hbaselineArm
      rcases hcover taughtRow htaughtRow with ht | ht
      · have htaught := native_of_arm hfirstNative htaughtRow ht htaughtArm
        exact ⟨secondPlan, firstPlan,
          { separate := hne.symm
            baseline := ⟨_, _, _, _, hsecondNative, hbaseline, hsecondRest⟩
            taught := ⟨_, _, _, _, hfirstNative, htaught, hfirstRest⟩
            noOtherPlan := fun row hrow => (hcover row hrow).symm }⟩
      · exact absurd (native_of_arm hsecondNative htaughtRow ht htaughtArm)
          (hclash _ hbaseline)
  · cases h

theorem two_projects_of_dedup {taskProjects : Dict String String} {tasks : List String}
    (h : 2 ≤ (tasks.filterMap taskProjects.get?).dedup.length) :
    ∃ first ∈ tasks, ∃ second ∈ tasks, ∃ firstProject secondProject,
      taskProjects.get? first = some firstProject ∧
        taskProjects.get? second = some secondProject ∧ firstProject ≠ secondProject := by
  have hnodup := List.nodup_dedup (tasks.filterMap taskProjects.get?)
  match hprojects : (tasks.filterMap taskProjects.get?).dedup with
  | [] => simp [hprojects] at h
  | [_] => simp [hprojects] at h
  | firstProject :: secondProject :: rest =>
    rw [hprojects] at hnodup
    have hmem : ∀ project ∈ firstProject :: secondProject :: rest,
        ∃ task ∈ tasks, taskProjects.get? task = some project := by
      intro project hproject
      rw [← hprojects, List.mem_dedup, List.mem_filterMap] at hproject
      exact hproject
    obtain ⟨first, hfirst, hfirstProject⟩ := hmem firstProject (by simp)
    obtain ⟨second, hsecond, hsecondProject⟩ := hmem secondProject (by simp)
    have hne : firstProject ≠ secondProject := by
      rintro rfl
      simp at hnodup
    exact ⟨first, hfirst, second, hsecond, firstProject, secondProject, hfirstProject,
      hsecondProject, hne⟩

theorem Aggregation.grade_eq_E3 {row : Aggregation} {mechanismId : Option String}
    (h : row.grade mechanismId = .E3) : row.e3Eligible mechanismId = true := by
  unfold Aggregation.grade at h
  split at h
  · cases h
  · split at h
    · assumption
    · split at h <;> cases h

theorem countOf_eq_zero {claims : List Claim} {classification : ClaimClassification}
    (h : countOf claims classification = 0) :
    ∀ claim ∈ claims, claim.classification ≠ classification := by
  intro claim hclaim
  have hnone := List.countP_eq_zero.mp h claim hclaim
  simpa using hnone

theorem aggregation_eq_ok {machine : EvidenceGradeMachine} {claims : List Claim}
    {taskProjects : Dict String String} {mechanismId : Option String} {row : Aggregation}
    (h : machine.aggregation claims taskProjects mechanismId = .ok row) :
    ∃ evidence receipts, machine.graph.listEvidence = .ok evidence ∧
      claimsByTask evidence claims Dict.empty = .ok row.byTask ∧
      taskProjectsOf taskProjects row.byTask.keys = .ok row.projects ∧
      machine.receipts = .ok receipts ∧
      row.predictionEvidence = row.byTask.entries.map (fun entry =>
        (taskPredictionEvidence machine receipts evidence entry.1 mechanismId
          entry.2.evidenceIds).getD []) ∧
      machine.rebuildLineage row.validNativeClaims = .ok row.counterfactualLineageRebuilt := by
  unfold EvidenceGradeMachine.aggregation at h
  simp only [except_bind_ok_iff, pure, Except.pure, Except.ok.injEq] at h
  obtain ⟨evidence, hevidence, byTask, hbyTask, projects, hprojects, receipts, hreceipts,
    rebuilt, hrebuilt, rfl⟩ := h
  exact ⟨evidence, receipts, hevidence, hbyTask, hprojects, hreceipts, rfl, hrebuilt⟩

theorem taskProjectsOf_eq_ok {taskProjects : Dict String String} {tasks projects : List String}
    (h : taskProjectsOf taskProjects tasks = .ok projects) :
    projects = (tasks.filterMap taskProjects.get?).dedup := by
  unfold taskProjectsOf at h
  simp only [requireContract, except_bind_ok_iff, pure, Except.pure, Except.ok.injEq] at h
  obtain ⟨-, -, -, -, rfl⟩ := h
  rfl

theorem rebuildLineage_eq_true {machine : EvidenceGradeMachine} {validNativeClaims : Bool}
    (h : machine.rebuildLineage validNativeClaims = .ok true) :
    ∃ store graph, machine.receiptStore = some store ∧
      machine.graph.rebuild store false = .ok graph := by
  unfold EvidenceGradeMachine.rebuildLineage at h
  split at h
  · rename_i store hstore
    split at h
    · obtain ⟨graph, hgraph, -⟩ := (except_map_ok_iff _ _ _).mp h
      exact ⟨store, graph, hstore, hgraph⟩
    · cases h
  · cases h

theorem rebuildLineage_of_rebuild {machine : EvidenceGradeMachine} {store : ReceiptStore}
    {rebuilt : EvidenceGraph} (hstore : machine.receiptStore = some store)
    (h : machine.graph.rebuild store false = .ok rebuilt) :
    machine.rebuildLineage true = .ok true := by
  simp [EvidenceGradeMachine.rebuildLineage, hstore, h, Except.map]

theorem answered_of_consistent {machine : EvidenceGradeMachine} {receipts : List Receipt}
    {evidence : List EvidenceEnvelope} {mechanismId : Option String} {row : Aggregation}
    (hrow : row.predictionEvidence = row.byTask.entries.map (fun entry =>
      (taskPredictionEvidence machine receipts evidence entry.1 mechanismId
        entry.2.evidenceIds).getD []))
    (hall : row.predictionConsistent = row.taskCount) :
    ∀ entry ∈ row.byTask.entries, ∃ ids, taskPredictionEvidence machine receipts evidence entry.1
      mechanismId entry.2.evidenceIds = some ids := by
  intro entry hentry
  have hlength : row.predictionEvidence.length = row.taskCount := by
    rw [hrow, List.length_map]
    rfl
  have hnonempty : ∀ ids ∈ row.predictionEvidence, (!ids.isEmpty) = true := by
    apply List.countP_eq_length.mp
    rw [hlength]
    exact hall
  have hids := hnonempty _ (hrow ▸ List.mem_map_of_mem hentry)
  cases hanswer : taskPredictionEvidence machine receipts evidence entry.1 mechanismId
      entry.2.evidenceIds with
  | none => simp [hanswer] at hids
  | some ids => exact ⟨ids, rfl⟩

theorem zip_keys {tasks : List String} {claims : List Claim} {evidence : List EvidenceEnvelope}
    (h : claims.map (boundTasks evidence) = tasks.map ([·])) :
    (tasks.zip claims).map Prod.fst = tasks ∧ (tasks.zip claims).map Prod.snd = claims := by
  have hlength : claims.length = tasks.length := by simpa using congrArg List.length h
  exact ⟨List.map_fst_zip (by omega), List.map_snd_zip (by omega)⟩

theorem mem_zip_of_bound {tasks : List String} {claims : List Claim}
    {evidence : List EvidenceEnvelope}
    (h : claims.map (boundTasks evidence) = tasks.map ([·])) {claim : Claim}
    (hclaim : claim ∈ claims) {task : String} (hbound : boundTasks evidence claim = [task]) :
    (task, claim) ∈ tasks.zip claims := by
  induction claims generalizing tasks with
  | nil => cases hclaim
  | cons first rest ih =>
    cases tasks with
    | nil => simp at h
    | cons firstTask others =>
      simp only [List.map_cons, List.cons.injEq] at h
      rw [List.zip_cons_cons]
      rcases List.mem_cons.mp hclaim with rfl | hmem
      · have htask : task = firstTask := by simpa [hbound] using h.1
        rw [htask]
        exact List.mem_cons_self
      · exact List.mem_cons_of_mem _ (ih h.2 hmem)

/-- How a state other than the empty one comes about: the aggregation of the
candidate's latest claims, each stored under the one task it binds. -/
structure AggregatedFrom (machine : EvidenceGradeMachine) (candidateId : String)
    (taskProjects : Dict String String) (mechanismId : Option String)
    (evidence : List EvidenceEnvelope) (claims : List Claim) (tasks : List String)
    (receipts : List Receipt) (row : Aggregation) : Prop where
  evidenceRead : machine.graph.listEvidence = .ok evidence
  claimsRead : machine.graph.latestClaims.map
    (List.filter (fun claim => claim.candidateId = candidateId)) = .ok claims
  receiptsRead : machine.receipts = .ok receipts
  oneTaskEach : claims.map (boundTasks evidence) = tasks.map ([·])
  entries : row.byTask.entries = tasks.zip claims
  projects : row.projects = (tasks.filterMap taskProjects.get?).dedup
  predictionEvidence : row.predictionEvidence = row.byTask.entries.map (fun entry =>
    (taskPredictionEvidence machine receipts evidence entry.1 mechanismId
      entry.2.evidenceIds).getD [])
  rebuilt : machine.rebuildLineage row.validNativeClaims = .ok row.counterfactualLineageRebuilt

theorem AggregatedFrom.keys {machine : EvidenceGradeMachine} {candidateId : String}
    {taskProjects : Dict String String} {mechanismId : Option String}
    {evidence : List EvidenceEnvelope} {claims : List Claim} {tasks : List String}
    {receipts : List Receipt} {row : Aggregation}
    (h : AggregatedFrom machine candidateId taskProjects mechanismId evidence claims tasks
      receipts row) : row.byTask.keys = tasks := by
  rw [Dict.keys, h.entries]
  exact (zip_keys h.oneTaskEach).1

theorem AggregatedFrom.values {machine : EvidenceGradeMachine} {candidateId : String}
    {taskProjects : Dict String String} {mechanismId : Option String}
    {evidence : List EvidenceEnvelope} {claims : List Claim} {tasks : List String}
    {receipts : List Receipt} {row : Aggregation}
    (h : AggregatedFrom machine candidateId taskProjects mechanismId evidence claims tasks
      receipts row) : row.claims = claims := by
  rw [Aggregation.claims, Dict.values, h.entries]
  exact (zip_keys h.oneTaskEach).2

theorem aggregate_eq_ok {machine : EvidenceGradeMachine} {candidateId : String}
    {taskProjects : Dict String String} {mechanismId : Option String}
    {state : CandidateEvidenceState}
    (h : machine.aggregate candidateId taskProjects mechanismId = .ok state) :
    (state = noClaimsState candidateId mechanismId ∧ machine.graph.latestClaims.map
        (List.filter (fun claim => claim.candidateId = candidateId)) = .ok []) ∨
      ∃ evidence claims tasks receipts row, state = row.state candidateId mechanismId ∧
        AggregatedFrom machine candidateId taskProjects mechanismId evidence claims tasks
          receipts row := by
  unfold EvidenceGradeMachine.aggregate at h
  simp only [except_bind_ok_iff] at h
  obtain ⟨-, -, latest, hlatest, h⟩ := h
  split at h
  · rename_i hnone
    cases h
    refine Or.inl ⟨rfl, ?_⟩
    rw [hlatest, ← hnone]
    rfl
  · obtain ⟨row, hrow, hstate⟩ := (except_bind_ok_iff _ _ _).mp h
    cases hstate
    obtain ⟨evidence, receipts, hevidence, hbyTask, hprojects, hreceipts, hprediction, hrebuilt⟩ :=
      aggregation_eq_ok hrow
    obtain ⟨all, hall, rfl⟩ := (except_map_ok_iff _ _ _).mp hlatest
    have hids : (all.map Claim.claimId).Nodup :=
      readGraphLines_nodup _ _ _ _ (by simp) hall
    set claims := (latestOf all).filter (fun claim => claim.candidateId = candidateId) with hclaims
    obtain ⟨tasks, hentries, hbound⟩ := claimsByTask_entries claims Dict.empty row.byTask
      (latestOf_nodup hids _) (by simp [Dict.empty]) hbyTask
    rw [show (Dict.empty : Dict String Claim).entries = [] from rfl, List.nil_append] at hentries
    have hkeys : row.byTask.keys = tasks := by
      rw [Dict.keys, hentries]
      exact (zip_keys hbound).1
    refine Or.inr ⟨evidence, claims, tasks, receipts, row, rfl, ?_⟩
    exact
      { evidenceRead := hevidence
        claimsRead := by
          rw [EvidenceGraph.latestClaims, hall, hclaims]
          rfl
        receiptsRead := hreceipts
        oneTaskEach := hbound
        entries := hentries
        projects := by rw [taskProjectsOf_eq_ok hprojects, hkeys]
        predictionEvidence := hprediction
        rebuilt := hrebuilt }

/-- An E3 state is backed by the stores the machine read. -/
theorem aggregate_e3_sound {machine : EvidenceGradeMachine} {candidateId : String}
    {taskProjects : Dict String String} {mechanismId : Option String}
    {state : CandidateEvidenceState}
    (h : machine.aggregate candidateId taskProjects mechanismId = .ok state)
    (hgrade : state.grade = .E3) :
    ∃ mechanism evidence claims tasks, mechanismId = some mechanism ∧
      state.taskRevisionIds.Perm tasks ∧
      E3Support machine candidateId taskProjects mechanism evidence claims tasks := by
  rcases aggregate_eq_ok h with ⟨rfl, -⟩ | ⟨evidence, claims, tasks, receipts, row, rfl, hrow⟩
  · cases hgrade
  · have heligible := Aggregation.grade_eq_E3 hgrade
    simp only [Aggregation.e3Eligible, Bool.and_eq_true, decide_eq_true_eq] at heligible
    obtain ⟨⟨⟨⟨⟨⟨⟨⟨hmechanism, hthree⟩, htwo⟩, hgains⟩, hregression⟩, hinfra⟩, -⟩,
      hlineage⟩, hconsistent⟩ := heligible
    obtain ⟨mechanism, rfl⟩ : ∃ mechanism, mechanismId = some mechanism := by
      cases mechanismId with
      | none => simp at hmechanism
      | some mechanism => exact ⟨mechanism, rfl⟩
    have hrebuilt := hrow.rebuilt
    rw [hlineage] at hrebuilt
    obtain ⟨store, graph, hstore, hgraph⟩ := rebuildLineage_eq_true hrebuilt
    have hlist : store.listReceipts = .ok receipts := by
      simpa only [EvidenceGradeMachine.receipts, hstore] using hrow.receiptsRead
    have hanswers := answered_of_consistent hrow.predictionEvidence hconsistent
    rw [hrow.values] at hgains hregression hinfra
    refine ⟨mechanism, evidence, claims, tasks, rfl, ?_, ?_⟩
    · rw [← hrow.keys]
      exact List.perm_insertionSort _ _
    · exact
        { evidenceRead := hrow.evidenceRead
          claimsRead := hrow.claimsRead
          oneTaskEach := hrow.oneTaskEach
          distinctTasks := hrow.keys ▸ row.byTask.nodup_keys
          threeTasks := by
            rw [← hrow.keys, Dict.keys, List.length_map]
            exact hthree
          twoProjects := by
            apply two_projects_of_dedup
            rw [← hrow.projects]
            exact htwo
          twoGains := hgains
          noRegression := countOf_eq_zero hregression
          noInfraFailure := countOf_eq_zero hinfra
          observed := by
            obtain ⟨verifier, hverifier⟩ :
                ∃ verifier, machine.trustedObserverVerifier = some verifier := by
              have hpos : 0 < row.byTask.entries.length := by
                have hsize : 3 ≤ row.byTask.entries.length := hthree
                omega
              obtain ⟨ids, hids⟩ := hanswers _ (List.getElem_mem hpos)
              obtain ⟨_, verifier, _, -, hverifier, -⟩ := taskPredictionEvidence_eq_some hids
              exact ⟨verifier, hverifier⟩
            refine ⟨verifier, store, receipts, hverifier, hstore, hlist, ?_⟩
            intro claim hclaim task htask
            have hmem : (task, claim) ∈ row.byTask.entries := by
              rw [hrow.entries]
              exact mem_zip_of_bound hrow.oneTaskEach hclaim htask
            obtain ⟨ids, hids⟩ := hanswers _ hmem
            obtain ⟨_, _, _, hsame, hverifier', hstore', hplans⟩ :=
              taskPredictionEvidence_eq_some hids
            cases hsame
            rw [hverifier] at hverifier'
            rw [hstore] at hstore'
            cases hverifier'
            cases hstore'
            exact hplans
          rebuilds := ⟨store, graph, hstore, hgraph⟩ }

/-! ## A supported candidate

Three tasks in two projects, each with a gain and its trusted observations.
The digests stay unevaluated: what is compared is built from the same value. -/

namespace SupportedCandidate

def digest : String :=
  "bbbbbbbbbbbbbbbbbbbbbbbbbbbbbbbbbbbbbbbbbbbbbbbbbbbbbbbbbbbbbbbb"

/-- The prompt the taught arm consumed. -/
def lesson : String :=
  "revision-1 bbbbbbbbbbbbbbbbbbbbbbbbbbbbbbbbbbbbbbbbbbbbbbbbbbbbbbbbbbbbbbbb"

def taughtPrompt : String :=
  "COMPILED-CANDIDATE: revision-1 bbbbbbbbbbbbbbbbbbbbbbbbbbbbbbbbbbbbbbbbbbbbbbbbbbbbbbbbbbbbbbbb"

def promptFields (taught : Bool) : List (String × Json) :=
  if taught then
    [("prompt_texts", .arr [.str taughtPrompt]),
      ("prompt_sha256", .arr [.str (sha256Text taughtPrompt)]),
      ("candidate_consumed", .bool true), ("candidate_revision_id", .str "revision-1"),
      ("candidate_bundle_sha256", .str digest), ("candidate_prompt", .str lesson),
      ("candidate_prompt_sha256", .str (sha256Text lesson)),
      ("compiled_artifact_sha256", .obj [("prompt", .str digest)])]
  else
    [("prompt_texts", .arr [.str "task"]), ("prompt_sha256", .arr [.str (sha256Text "task")]),
      ("candidate_consumed", .bool false)]

def armText (taught : Bool) : String := if taught then "taught" else "baseline"

def receiptOf (kind id plan : String) (payload : List (String × Json)) : Receipt :=
  { receiptId := id, campaignId := "campaign", planId := plan, sequence := 1, kind := kind
    createdAt := "now", payload := payload, artifactSha256 := (Json.obj payload).contentSha256
    supersedesReceiptId := none }

def planOf (task : String) (taught : Bool) : String :=
  "plan-" ++ armText taught ++ "-" ++ task

def model (task : String) (taught : Bool) : Receipt :=
  receiptOf "model" ("model-" ++ armText taught ++ "-" ++ task) (planOf task taught)
    ([("provider", .str "provider"), ("model", .str "model"), ("revision", .str "1"),
      ("prediction_sha256", .str digest)] ++ promptFields taught)

def subjectFields (task : String) (taught : Bool) : List (String × Json) :=
  [("task_revision_id", .str task), ("arm", .str (armText taught)),
    ("model_receipt_id", .str (model task taught).receiptId),
    ("model_artifact_sha256", .str (model task taught).artifactSha256),
    ("prediction_sha256", .str digest), ("mechanism_id", .str "mechanism")]

def external (task : String) (taught : Bool) : Receipt :=
  receiptOf "external_trace" ("external-" ++ armText taught ++ "-" ++ task)
    (planOf task taught) (subjectFields task taught ++ promptFields taught)

def native (task : String) (taught : Bool) : Receipt :=
  receiptOf "native_evaluation" ("native-" ++ armText taught ++ "-" ++ task)
    (planOf task taught)
    (subjectFields task taught ++ [("task_source_sha256", .str digest),
      ("model_identity", .str "provider/model@1"), ("native_evaluator_id", .str "evaluator"),
      ("execution_config_sha256", .str digest), ("resolved", .bool taught)])

def envelopeOf (observer : String) (receipt : Receipt) : EvidenceEnvelope :=
  { evidenceId := "evidence-" ++ receipt.receiptId, receiptIds := [receipt.receiptId]
    observerId := observer, grade := .E1
    payload := ("campaign_id", .str receipt.campaignId) :: ("plan_id", .str receipt.planId) ::
      receipt.payload
    artifactSha256 := receipt.artifactSha256 }

theorem digest_isSha256 : isSha256 digest = true := by decide

theorem receiptPayload_envelopeOf (observer : String) (receipt : Receipt)
    (h : ∀ field ∈ receipt.payload, field.1 ∉ ["campaign_id", "plan_id", "receipt_kind"]) :
    receiptPayload (envelopeOf observer receipt) = receipt.payload := by
  simp only [receiptPayload, envelopeOf]
  rw [List.filter_cons_of_neg (by simp), List.filter_cons_of_neg (by simp)]
  apply List.filter_eq_self.mpr
  intro field hfield
  simpa using h field hfield

theorem validate_envelopeOf {observer arm : String} {receipt : Receipt}
    (h : ∀ field ∈ receipt.payload, field.1 ∉ ["campaign_id", "plan_id", "receipt_kind"])
    (hartifact : receipt.artifactSha256 = (Json.obj receipt.payload).contentSha256)
    (harm : payloadGet (envelopeOf observer receipt).payload "arm" = .str arm) :
    validateEvidence arm (envelopeOf observer receipt) observer = .ok () := by
  simp only [validateEvidence, except_bind_ok_iff, requireContract_ok_iff]
  refine ⟨(), rfl, (), harm, (), ?_, receipt.receiptId, rfl, rfl⟩
  rw [receiptPayload_envelopeOf observer receipt h]
  exact hartifact

theorem validate_external (task : String) (taught : Bool) :
    validateEvidence (armText taught) (envelopeOf "external-trace-v1" (external task taught))
      "external-trace-v1" = .ok () := by
  apply validate_envelopeOf
  · cases taught <;> simp [external, receiptOf, subjectFields, promptFields]
  · rfl
  · cases taught <;> rfl

theorem validate_native (task : String) (taught : Bool) :
    validateEvidence (armText taught) (envelopeOf "native-v1" (native task taught))
      "native-v1" = .ok () := by
  apply validate_envelopeOf
  · cases taught <;> simp [native, receiptOf, subjectFields]
  · rfl
  · cases taught <;> rfl

theorem binds_external (task : String) (taught : Bool) :
    bindsModel (armText taught) "external" (model task taught)
      (envelopeOf "external-trace-v1" (external task taught)) = .ok () := by
  simp only [bindsModel, except_bind_ok_iff, requireContract_ok_iff]
  refine ⟨(), ?_, (), ?_, (), ?_, ?_⟩ <;> cases taught <;> rfl

theorem binds_native (task : String) (taught : Bool) :
    bindsModel (armText taught) "native" (model task taught)
      (envelopeOf "native-v1" (native task taught)) = .ok () := by
  simp only [bindsModel, except_bind_ok_iff, requireContract_ok_iff]
  refine ⟨(), ?_, (), ?_, (), ?_, ?_⟩ <;> cases taught <;> rfl

theorem ok_bind {α β : Type} (a : α) (f : α → Checked β) :
    ((.ok a : Checked α) >>= f) = f a := rfl

theorem literalSha256_str {text : String} (h : isSha256 text = true) (label : String) :
    literalSha256 (.str text) label = .ok text := by
  simp [literalSha256, h]

theorem predictionSha256_of_field {payload : List (String × Json)}
    (h : Json.field? payload "prediction_sha256" = some (.str digest)) (label : String) :
    predictionSha256 payload label = .ok digest := by
  rw [predictionSha256, h]
  exact literalSha256_str digest_isSha256 label

theorem isSha256_hexdigest (content : List Nat) : isSha256 (Sha256.hexdigest content) = true :=
  Sha256.hexdigest_isSha256 content

theorem prompt_baseline (task : String) :
    validatePromptLineage "baseline" (model task false).payload "revision-1" digest =
      .ok ((Json.arr [.str "task"]).contentSha256, none) := by
  have hbaseline : validateBaselinePrompt (model task false).payload ["task"] "revision-1" digest =
      .ok () := by
    unfold validateBaselinePrompt
    simp only [except_bind_ok_iff, requireContract_ok_iff]
    refine ⟨(), ⟨rfl, rfl⟩, (), Or.inl rfl, (), ?_, rfl⟩
    decide
  unfold validatePromptLineage
  rw [show nonEmptyTexts? (payloadGet (model task false).payload "prompt_texts") =
      some ["task"] from rfl,
    show payloadGet (model task false).payload "prompt_sha256" =
      .arr [.str (sha256Text "task")] from rfl]
  simp only [except_bind_ok_iff, requireContract_ok_iff, if_pos]
  exact ⟨(), rfl, (), rfl, (), hbaseline, rfl⟩

theorem lesson_eq : lesson = "revision-1 " ++ digest := by rfl

theorem taughtPrompt_eq : taughtPrompt = "COMPILED-CANDIDATE: " ++ lesson := by rfl

theorem notMem_taughtPrompt : 'H' ∉ taughtPrompt.toList := by decide

theorem prompt_taught (task : String) :
    validatePromptLineage "taught" (model task true).payload "revision-1" digest =
      .ok ((Json.arr [.str taughtPrompt]).contentSha256, some (sha256Text lesson)) := by
  have htaught : validateTaughtPrompt (model task true).payload [taughtPrompt] "revision-1" digest =
      .ok (sha256Text lesson) := by
    have hjoined : joinLines [taughtPrompt] = taughtPrompt := rfl
    unfold validateTaughtPrompt
    rw [show truthyText (payloadGet (model task true).payload "candidate_prompt") =
      some lesson from rfl]
    simp only [except_bind_ok_iff, requireContract_ok_iff, hjoined]
    refine ⟨(), rfl, (), ?_, (), ?_, (), ?_, ?_⟩
    · rw [lesson_eq]
      exact ⟨contains_append_left (by decide), contains_append_right _ _⟩
    · rw [List.any_cons, taughtPrompt_eq, contains_append_right]
      exact ⟨contains_append_left (by decide), rfl⟩
    · exact Bool.eq_false_iff.mp (not_contains_of_notMem (by decide) notMem_taughtPrompt)
    · rw [show payloadGet (model task true).payload "compiled_artifact_sha256" =
        .obj [("prompt", .str digest)] from rfl]
      simp [literalSha256, digest_isSha256, bind, Except.bind, pure, Except.pure]
  unfold validatePromptLineage
  rw [show nonEmptyTexts? (payloadGet (model task true).payload "prompt_texts") =
      some [taughtPrompt] from rfl,
    show payloadGet (model task true).payload "prompt_sha256" =
      .arr [.str (sha256Text taughtPrompt)] from rfl]
  simp only [except_bind_ok_iff, requireContract_ok_iff, exists_const]
  refine ⟨rfl, rfl, ?_⟩
  rw [if_neg (by decide)]
  simp only [except_bind_ok_iff]
  exact ⟨_, htaught, rfl⟩

def armRow (task : String) (taught : Bool) : CounterfactualArmEvidence :=
  { arm := armText taught
    campaignId := "campaign"
    planId := (model task taught).planId
    modelReceiptId := (model task taught).receiptId
    modelReceiptSha256 := (model task taught).contentSha256
    modelArtifactSha256 := (model task taught).artifactSha256
    externalTraceEvidenceId := "evidence-" ++ (external task taught).receiptId
    externalTraceEvidenceSha256 :=
      (envelopeOf "external-trace-v1" (external task taught)).contentSha256
    externalTraceReceiptId := (external task taught).receiptId
    externalTraceArtifactSha256 := (external task taught).artifactSha256
    nativeOutcomeEvidenceId := "evidence-" ++ (native task taught).receiptId
    nativeOutcomeEvidenceSha256 := (envelopeOf "native-v1" (native task taught)).contentSha256
    nativeOutcomeReceiptId := (native task taught).receiptId
    nativeOutcomeArtifactSha256 := (native task taught).artifactSha256
    predictionSha256 := digest
    promptBundleSha256 :=
      (Json.arr [.str (if taught then taughtPrompt else "task")]).contentSha256
    candidatePromptSha256 := if taught then some (sha256Text lesson) else none
    candidateConsumed := taught
    candidateRevisionId := if taught then some "revision-1" else none
    candidateBundleSha256 := if taught then some digest else none
    parentHarness := (none, none, none) }

theorem text_campaign : isText "campaign" = true := by decide

theorem text_revision : isText "revision-1" = true := by decide

/-- The row of an arm whose evidence rows may be other than those of
`armRow`. -/
def armRowOf (task : String) (taught : Bool) (external native : EvidenceEnvelope)
    (externalReceiptId nativeReceiptId : String) : CounterfactualArmEvidence :=
  { armRow task taught with
    externalTraceEvidenceId := external.evidenceId
    externalTraceEvidenceSha256 := external.contentSha256
    externalTraceReceiptId := externalReceiptId
    externalTraceArtifactSha256 := external.artifactSha256
    nativeOutcomeEvidenceId := native.evidenceId
    nativeOutcomeEvidenceSha256 := native.contentSha256
    nativeOutcomeReceiptId := nativeReceiptId
    nativeOutcomeArtifactSha256 := native.artifactSha256 }

theorem armRowOf_valid (task : String) (taught : Bool) {external native : EvidenceEnvelope}
    {externalReceiptId nativeReceiptId : String} (hexternal : external.postInit = true)
    (hnative : native.postInit = true) (hexternalReceipt : isText externalReceiptId = true)
    (hnativeReceipt : isText nativeReceiptId = true) :
    (armRowOf task taught external native externalReceiptId nativeReceiptId).postInit = .ok () := by
  have hhash : ∀ value : Json, isSha256 value.contentSha256 = true :=
    fun value => Json.contentSha256_isSha256 value
  simp only [EvidenceEnvelope.postInit, Bool.and_eq_true] at hexternal hnative
  simp only [CounterfactualArmEvidence.postInit, requireText, requireSha256, except_bind_ok_iff,
    requireContract_ok_iff, exists_const]
  refine ⟨?_, text_campaign, ?_, ?_, hexternal.1.1.1, hexternalReceipt, hnative.1.1.1,
    hnativeReceipt, hhash _, hhash _, hhash _, hexternal.2, hhash _, hnative.2, digest_isSha256,
    hhash _, ?_⟩
  · cases taught
    · exact Or.inl rfl
    · exact Or.inr rfl
  · exact isText_append_left (isText_append_left (isText_append_left (by decide)))
  · exact isText_append_left (isText_append_left (isText_append_left (by decide)))
  · cases taught
    · rw [if_pos (by rfl)]
      simp only [except_bind_ok_iff, requireContract_ok_iff, exists_const]
      exact ⟨⟨rfl, rfl, rfl, rfl⟩, rfl⟩
    · rw [if_neg (by simp [armRowOf, armRow, armText])]
      simp only [except_bind_ok_iff, requireContract_ok_iff, exists_const]
      exact ⟨rfl, text_revision, digest_isSha256, isSha256_hexdigest _, rfl⟩

theorem prompt_ok (task : String) (taught : Bool) :
    validatePromptLineage (armText taught) (model task taught).payload "revision-1" digest =
      .ok ((armRow task taught).promptBundleSha256, (armRow task taught).candidatePromptSha256) := by
  cases taught
  · exact prompt_baseline task
  · exact prompt_taught task

/-- What the builder asks of the two evidence rows of an arm. -/
structure ArmReady (task : String) (taught : Bool) (external native : EvidenceEnvelope) : Prop where
  externalValid : validateEvidence (armText taught) external "external-trace-v1" = .ok ()
  nativeValid : validateEvidence (armText taught) native "native-v1" = .ok ()
  externalBinds : bindsModel (armText taught) "external" (model task taught) external = .ok ()
  nativeBinds : bindsModel (armText taught) "native" (model task taught) native = .ok ()
  sameTask : payloadGet external.payload "task_revision_id" =
    payloadGet native.payload "task_revision_id"
  identity : payloadGet native.payload "model_identity" = .str "provider/model@1"
  externalPrediction : Json.field? external.payload "prediction_sha256" = some (.str digest)
  nativePrediction : Json.field? native.payload "prediction_sha256" = some (.str digest)
  repeats : ∀ field ∈ externalLineageFields,
    payloadGet external.payload field = payloadGet (model task taught).payload field
  externalParent : ∀ label, payloadParentHarness external.payload label = .ok (none, none, none)
  nativeParent : ∀ label, payloadParentHarness native.payload label = .ok (none, none, none)

def readingOf (task : String) (taught : Bool) (externalReceiptId nativeReceiptId : String) :
    ArmReading :=
  { externalReceiptId := externalReceiptId
    nativeReceiptId := nativeReceiptId
    prediction := digest
    promptBundleSha256 := (armRow task taught).promptBundleSha256
    candidatePromptSha256 := (armRow task taught).candidatePromptSha256
    consumed := taught
    parentHarness := (none, none, none) }

theorem accepted_of_ready {task : String} {taught : Bool} {external native : EvidenceEnvelope}
    {externalReceiptId nativeReceiptId : String} (h : ArmReady task taught external native)
    (hexternalReceipt : external.receiptIds = [externalReceiptId])
    (hnativeReceipt : native.receiptIds = [nativeReceiptId]) :
    ArmAccepted (armText taught) "revision-1" digest (model task taught) external native
      (readingOf task taught externalReceiptId nativeReceiptId) where
  kind := rfl
  artifact := rfl
  externalValid := h.externalValid
  nativeValid := h.nativeValid
  externalBinds := h.externalBinds
  nativeBinds := h.nativeBinds
  sameTask := h.sameTask
  identity := by
    rw [h.identity]
    cases taught <;> rfl
  modelPrediction := by
    refine predictionSha256_of_field ?_
    cases taught <;> rfl
  externalPrediction := predictionSha256_of_field h.externalPrediction
  nativePrediction := predictionSha256_of_field h.nativePrediction
  prompts := prompt_ok task taught
  consumed := by cases taught <;> rfl
  repeats := h.repeats
  modelParent := by
    intro label
    cases taught <;> rfl
  externalParent := h.externalParent
  nativeParent := h.nativeParent
  candidate := by cases taught <;> exact ⟨rfl, rfl, rfl⟩
  externalReceipt := hexternalReceipt
  nativeReceipt := hnativeReceipt

theorem build_arm_of {task : String} {taught : Bool} {external native : EvidenceEnvelope}
    {externalReceiptId nativeReceiptId : String} (h : ArmReady task taught external native)
    (hexternalReceipt : external.receiptIds = [externalReceiptId])
    (hnativeReceipt : native.receiptIds = [nativeReceiptId])
    (hvalid : (armRowOf task taught external native externalReceiptId nativeReceiptId).postInit =
      .ok ()) :
    buildArm (armText taught) (model task taught) external native "revision-1" digest =
      .ok (armRowOf task taught external native externalReceiptId nativeReceiptId) := by
  have hrow : armRowOf task taught external native externalReceiptId nativeReceiptId =
      (readingOf task taught externalReceiptId nativeReceiptId).row (armText taught)
        (model task taught) external native := by
    cases taught <;> rfl
  rw [hrow] at hvalid ⊢
  exact buildArm_of_accepted (accepted_of_ready h hexternalReceipt hnativeReceipt) hvalid

theorem envelopeOf_valid {observer : String} (hobserver : isText observer = true) (receipt : Receipt)
    (hsha256 : isSha256 receipt.artifactSha256 = true) :
    (envelopeOf observer receipt).postInit = true := by
  have hid : isText ("evidence-" ++ receipt.receiptId) = true := isText_append_left (by decide)
  simp [EvidenceEnvelope.postInit, envelopeOf, hid, hobserver, hsha256]

theorem build_arm (task : String) (taught : Bool) :
    buildArm (armText taught) (model task taught)
      (envelopeOf "external-trace-v1" (external task taught))
      (envelopeOf "native-v1" (native task taught)) "revision-1" digest =
        .ok (armRow task taught) := by
  have hid : ∀ {kind : String}, isText kind = true →
      isText (kind ++ armText taught ++ "-" ++ task) = true := fun hkind =>
    isText_append_left (isText_append_left (isText_append_left hkind))
  have hready : ArmReady task taught (envelopeOf "external-trace-v1" (external task taught))
      (envelopeOf "native-v1" (native task taught)) :=
    { externalValid := validate_external task taught
      nativeValid := validate_native task taught
      externalBinds := binds_external task taught
      nativeBinds := binds_native task taught
      sameTask := by cases taught <;> rfl
      identity := by cases taught <;> rfl
      externalPrediction := by cases taught <;> rfl
      nativePrediction := by cases taught <;> rfl
      repeats := by
        intro field hfield
        simp only [externalLineageFields, List.mem_cons, List.not_mem_nil, or_false] at hfield
        rcases hfield with rfl | rfl | rfl | rfl | rfl | rfl | rfl | rfl <;> cases taught <;> rfl
      externalParent := by intro label; cases taught <;> rfl
      nativeParent := by intro label; cases taught <;> rfl }
  exact build_arm_of hready rfl rfl (armRowOf_valid task taught
    (envelopeOf_valid (by decide) _ (Json.contentSha256_isSha256 _))
    (envelopeOf_valid (by decide) _ (Json.contentSha256_isSha256 _)) (hid (by decide))
    (hid (by decide)))

def pairRow (task : String) : MatchedCounterfactualPair :=
  { candidateId := "candidate", candidateRevisionId := "revision-1"
    candidateBundleSha256 := digest, campaignId := "campaign", taskRevisionId := task
    taskSourceSha256 := digest, modelIdentity := "provider/model@1"
    nativeEvaluatorId := "evaluator", executionConfigSha256 := digest
    baseline := armRow task false, taught := armRow task true, parentHarness := (none, none, none) }

theorem pairRow_valid (task : String) (htask : isText task = true) :
    (pairRow task).postInit = .ok () := by
  have hevaluator : isText "evaluator" = true := by decide
  have hidentity : isText "provider/model@1" = true := by decide
  have hcandidate : isText "candidate" = true := by decide
  simp only [MatchedCounterfactualPair.postInit, requireText, requireSha256, except_bind_ok_iff,
    requireContract_ok_iff]
  refine ⟨(), hcandidate, (), text_revision, (), text_campaign, (), htask, (), hidentity, (),
    hevaluator, (), digest_isSha256, (), digest_isSha256, (), digest_isSha256, (), ⟨rfl, rfl⟩,
    (), rfl, (), rfl, (), rfl, (), rfl, (), rfl, (), ⟨rfl, rfl⟩, (), ?_, ?_⟩
  · simp [pairRow, armRow, model, receiptOf, planOf, armText]
  · constructor
    · simp [MatchedCounterfactualPair.evidenceIds, pairRow, armRow, external, native, receiptOf,
        armText]
    · simp [MatchedCounterfactualPair.receiptIds, pairRow, armRow, external, native, model,
        receiptOf, armText]

theorem matchedIdentity_same {baseline taught : EvidenceEnvelope} {field : String}
    {value : Json} (hbaseline : Json.field? baseline.payload field = some value)
    (htaught : Json.field? taught.payload field = some value) :
    matchedIdentity baseline taught field = .ok value := by
  unfold matchedIdentity
  rw [hbaseline, htaught]
  simp only [except_bind_ok_iff, requireContract_ok_iff]
  exact ⟨(), Json.pyEq_self value, rfl⟩

theorem build_pair (task : String) (htask : isText task = true) :
    buildMatchedCounterfactualPair "candidate" "revision-1" digest
      (model task false) (envelopeOf "external-trace-v1" (external task false))
        (envelopeOf "native-v1" (native task false))
      (model task true) (envelopeOf "external-trace-v1" (external task true))
        (envelopeOf "native-v1" (native task true)) = .ok (pairRow task) := by
  simp only [buildMatchedCounterfactualPair, except_bind_ok_iff, requireContract_ok_iff]
  refine ⟨_, build_arm task false, _, build_arm task true, .str task, ?_, .str digest, ?_,
    .str "provider/model@1", ?_, .str "evaluator", ?_, .str digest, ?_, (), rfl, (), rfl, (),
    pairRow_valid task htask, rfl⟩
  all_goals exact matchedIdentity_same rfl rfl

def observation (task : String) (taught : Bool) : Receipt :=
  receiptOf "trusted_observation" ("observation-" ++ armText taught ++ "-" ++ task)
    (planOf task taught)
    (subjectFields task taught ++ [("mechanism_prediction_receipt_id", .str "prediction"),
      ("expected_internal_effect_sha256", .str digest),
      ("observed_internal_effect_sha256", .str digest), ("raw_trace_sha256", .str digest),
      ("locations", .arr [.str "layer-1"]), ("effect_consistent", .bool taught)])

def prediction : Receipt :=
  receiptOf "mechanism_prediction" "prediction" "plan"
    [("candidate_revision_id", .str "revision-1")]

def tasks : List String := ["task-1", "task-2", "task-3"]

def receipts : List Receipt :=
  prediction :: tasks.flatMap (fun task => [false, true].flatMap (fun taught =>
    [model task taught, external task taught, native task taught, observation task taught]))

def evidence : List EvidenceEnvelope :=
  tasks.flatMap (fun task => [false, true].flatMap (fun taught =>
    [envelopeOf "external-trace-v1" (external task taught),
      envelopeOf "native-v1" (native task taught),
      envelopeOf "trusted-jlens-v1" (observation task taught)]))

def claimOf (task : String) : Claim :=
  { claimId := "claim-" ++ task, candidateId := "candidate", grade := .E2, classification := .gain
    evidenceIds := (pairRow task).evidenceIds, rationale := "resolved"
    supersedesClaimId := none, counterfactualPairSha256 := some (pairRow task).contentSha256
    counterfactualReceiptIds := (pairRow task).receiptIds }

def store : ReceiptStore :=
  { lines := receipts.map fun receipt => .record receipt receipt.contentSha256
    artifacts := fun digest => (receipts.map fun receipt =>
      Json.utf8 (Json.obj receipt.payload).canonicalJson).find?
        (fun content => Sha256.hexdigest content = digest) }

def graph : EvidenceGraph :=
  { evidenceLines := evidence.map fun row => .record row row.contentSha256
    claimLines := (tasks.map claimOf).map fun claim => .record ⟨claim, true⟩ claim.contentSha256
    allowLegacyUnboundClaims := false }

def verifier : TrustedObserverVerifier := ⟨fun _ => true, fun _ _ _ _ _ => true⟩

def machine : EvidenceGradeMachine :=
  { graph := graph
    trustedObserverVerifier := some verifier
    receiptStore := some store }

theorem readArtifact_ok {receipt : Receipt} (h : receipt ∈ receipts)
    (hartifact : receipt.artifactSha256 = (Json.obj receipt.payload).contentSha256) :
    ∃ content, store.readArtifact receipt.artifactSha256 = .ok content := by
  rw [hartifact]
  exact readArtifact_artifactsOf _ (List.mem_map_of_mem
    (f := fun receipt : Receipt => Json.utf8 (Json.obj receipt.payload).canonicalJson) h)

theorem receiptOf_valid {kind id plan : String} (hkind : isText kind = true)
    (hid : isText id = true) (hplan : isText plan = true) (payload : List (String × Json)) :
    (receiptOf kind id plan payload).postInit = true := by
  have hnow : isText "now" = true := by decide
  have hhash : isSha256 (Json.obj payload).contentSha256 = true := Json.contentSha256_isSha256 _
  simp [Receipt.postInit, receiptOf, hkind, hid, hplan, hnow, hhash, text_campaign]

theorem mem_receipts {receipt : Receipt} (h : receipt ∈ receipts) :
    receipt = prediction ∨ ∃ task taught, receipt = model task taught ∨
      receipt = external task taught ∨ receipt = native task taught ∨
        receipt = observation task taught := by
  rw [receipts, List.mem_cons] at h
  rcases h with rfl | h
  · exact Or.inl rfl
  · obtain ⟨task, -, h⟩ := List.mem_flatMap.mp h
    obtain ⟨taught, -, h⟩ := List.mem_flatMap.mp h
    exact Or.inr ⟨task, taught, by simpa using h⟩

theorem receipt_valid {receipt : Receipt} (h : receipt ∈ receipts) :
    receipt.postInit = true ∧
      receipt.artifactSha256 = (Json.obj receipt.payload).contentSha256 := by
  have hid : ∀ {kind : String} (_ : isText kind = true) (taught : Bool) (task : String),
      isText (kind ++ armText taught ++ "-" ++ task) = true := fun h _ _ =>
    isText_append_left (isText_append_left (isText_append_left h))
  rcases mem_receipts h with rfl | ⟨task, taught, rfl | rfl | rfl | rfl⟩
  · exact ⟨receiptOf_valid (by decide) (by decide) (by decide) _, rfl⟩
  · exact ⟨receiptOf_valid (by decide) (hid (by decide) _ _) (hid (by decide) _ _) _, rfl⟩
  · exact ⟨receiptOf_valid (by decide) (hid (by decide) _ _) (hid (by decide) _ _) _, rfl⟩
  · exact ⟨receiptOf_valid (by decide) (hid (by decide) _ _) (hid (by decide) _ _) _, rfl⟩
  · exact ⟨receiptOf_valid (by decide) (hid (by decide) _ _) (hid (by decide) _ _) _, rfl⟩

theorem receipts_nodup : (receipts.map Receipt.receiptId).Nodup := by
  have hids : receipts.map Receipt.receiptId = "prediction" :: tasks.flatMap (fun task =>
    [false, true].flatMap (fun taught => ["model-", "external-", "native-", "observation-"].map
      (fun kind => kind ++ armText taught ++ "-" ++ task))) := rfl
  rw [hids]
  decide

theorem listReceipts_ok : store.listReceipts = .ok receipts := by
  apply store.listFrom_wellFormed receipts 1 []
  · intro receipt h
    obtain ⟨hpost, hartifact⟩ := receipt_valid h
    exact ⟨hpost, readArtifact_ok h hartifact⟩
  · exact receipts_nodup

theorem mem_evidence {row : EvidenceEnvelope} (h : row ∈ evidence) :
    ∃ observer receipt, row = envelopeOf observer receipt ∧ isText observer = true ∧
      receipt ∈ receipts := by
  obtain ⟨task, htask, h⟩ := List.mem_flatMap.mp h
  obtain ⟨taught, htaught, h⟩ := List.mem_flatMap.mp h
  have hmem : ∀ receipt, receipt ∈ [model task taught, external task taught, native task taught,
      observation task taught] → receipt ∈ receipts := fun receipt hreceipt =>
    List.mem_cons_of_mem _ (List.mem_flatMap.mpr ⟨task, htask,
      List.mem_flatMap.mpr ⟨taught, htaught, hreceipt⟩⟩)
  simp only [List.mem_cons, List.not_mem_nil, or_false] at h
  rcases h with rfl | rfl | rfl
  · exact ⟨_, _, rfl, by decide, hmem _ (by simp)⟩
  · exact ⟨_, _, rfl, by decide, hmem _ (by simp)⟩
  · exact ⟨_, _, rfl, by decide, hmem _ (by simp)⟩

theorem evidence_valid {row : EvidenceEnvelope} (h : row ∈ evidence) :
    row.postInit = true := by
  obtain ⟨observer, receipt, rfl, hobserver, hreceipt⟩ := mem_evidence h
  have hsha : isSha256 receipt.artifactSha256 = true := by
    rw [(receipt_valid hreceipt).2]
    exact Json.contentSha256_isSha256 _
  exact envelopeOf_valid hobserver receipt hsha

theorem evidence_nodup : (evidence.map EvidenceEnvelope.evidenceId).Nodup := by
  have hids : evidence.map EvidenceEnvelope.evidenceId = tasks.flatMap (fun task =>
    [false, true].flatMap (fun taught => ["external-", "native-", "observation-"].map
      (fun kind => "evidence-" ++ (kind ++ armText taught ++ "-" ++ task)))) := rfl
  rw [hids]
  decide

theorem listEvidence_ok : graph.listEvidence = .ok evidence :=
  EvidenceGraph.listEvidence_wellFormed rfl (fun _ => evidence_valid) evidence_nodup

theorem claims_nodup : ((tasks.map claimOf).map Claim.claimId).Nodup := by
  have hids : (tasks.map claimOf).map Claim.claimId = tasks.map ("claim-" ++ ·) := rfl
  rw [hids]
  decide

theorem claim_valid (task : String) : (claimOf task).postInit false = true := by
  have hid : isText ("claim-" ++ task) = true := isText_append_left (by decide)
  have hcandidate : isText "candidate" = true := by decide
  have hrationale : isText "resolved" = true := by decide
  have hpair : isSha256 (pairRow task).contentSha256 = true := Json.contentSha256_isSha256 _
  have hreceipts : ∀ id ∈ (pairRow task).receiptIds, isText id = true := by
    intro id h
    have hid : ∀ {kind : String} (_ : isText kind = true) (taught : Bool),
        isText (kind ++ armText taught ++ "-" ++ task) = true := fun h _ =>
      isText_append_left (isText_append_left (isText_append_left h))
    simp only [MatchedCounterfactualPair.receiptIds, List.mem_cons, List.not_mem_nil, or_false] at h
    rcases h with rfl | rfl | rfl | rfl | rfl | rfl <;> exact hid (by decide) _
  exact Claim.postInit_of_bound hid hcandidate hrationale rfl hpair hreceipts rfl rfl

theorem listClaims_ok : graph.listClaims = .ok (tasks.map claimOf) :=
  EvidenceGraph.listClaims_wellFormed rfl
    (List.forall_mem_map.mpr fun task _ => claim_valid task) claims_nodup

theorem find_receipt {receipt : Receipt} (h : receipt ∈ receipts) :
    receipts.find? (fun other => other.receiptId = receipt.receiptId) = some receipt :=
  find?_of_nodup receipts_nodup h

theorem mem_rows {task : String} (htask : task ∈ tasks) (taught : Bool) :
    model task taught ∈ receipts ∧ external task taught ∈ receipts ∧
      native task taught ∈ receipts ∧ observation task taught ∈ receipts := by
  have hmem : ∀ receipt ∈ [model task taught, external task taught, native task taught,
      observation task taught], receipt ∈ receipts := fun receipt hreceipt =>
    List.mem_cons_of_mem _ (List.mem_flatMap.mpr ⟨task, htask,
      List.mem_flatMap.mpr ⟨taught, by cases taught <;> simp, hreceipt⟩⟩)
  exact ⟨hmem _ (by simp), hmem _ (by simp), hmem _ (by simp), hmem _ (by simp)⟩

theorem typed_receipt {observer kind : String} {receipt : Receipt} (h : receipt ∈ receipts)
    (hkind : receipt.kind = kind) (claimId label : String) :
    onlyTypedReceipt claimId (envelopeOf observer receipt) receipts kind label = .ok receipt := by
  simp only [onlyTypedReceipt, envelopeOf]
  rw [find_receipt h]
  simp [hkind, payloadGet_cons]

theorem armReceipts_ok {task : String} (htask : task ∈ tasks) (claimId arm : String)
    (taught : Bool) :
    checkArmReceipts claimId arm (envelopeOf "external-trace-v1" (external task taught))
      (envelopeOf "native-v1" (native task taught)) receipts = .ok () := by
  obtain ⟨-, hexternal, hnative, -⟩ := mem_rows htask taught
  simp only [checkArmReceipts, except_bind_ok_iff, require_ok_iff]
  exact ⟨_, typed_receipt hexternal rfl _ _, _, typed_receipt hnative rfl _ _, rfl⟩

theorem receiptNamed_ok {receipt : Receipt} (h : receipt ∈ receipts)
    {payload : List (String × Json)} {key : String}
    (hfield : Json.field? payload key = some (.str receipt.receiptId)) :
    receiptNamed receipts payload key = .ok receipt := by
  have hfind : receipts.find? (fun other =>
      other.receiptId = pyStr (.str receipt.receiptId)) = some receipt := find_receipt h
  unfold receiptNamed
  rw [hfield]
  simp only [hfind]

theorem tasks_isText {task : String} (h : task ∈ tasks) : isText task = true := by
  revert h
  revert task
  decide

theorem rebuildPair_ok {task : String} (htask : task ∈ tasks) :
    rebuildPair (claimOf task) receipts
      (envelopeOf "external-trace-v1" (external task false))
      (envelopeOf "native-v1" (native task false))
      (envelopeOf "external-trace-v1" (external task true))
      (envelopeOf "native-v1" (native task true)) = .ok (pairRow task) := by
  simp only [rebuildPair, except_bind_ok_iff, require_ok_iff]
  exact ⟨(), armReceipts_ok htask _ _ _, (), armReceipts_ok htask _ _ _,
    _, receiptNamed_ok (mem_rows htask false).1 rfl, _, receiptNamed_ok (mem_rows htask true).1 rfl,
    (), ⟨rfl, rfl⟩, "revision-1", rfl, digest, rfl, build_pair task (tasks_isText htask)⟩

def pairRows (task : String) : List EvidenceEnvelope :=
  [envelopeOf "external-trace-v1" (external task false), envelopeOf "native-v1" (native task false),
    envelopeOf "external-trace-v1" (external task true), envelopeOf "native-v1" (native task true)]

theorem pairRows_subset {task : String} (htask : task ∈ tasks) :
    ∀ row ∈ pairRows task, row ∈ evidence := by
  intro row hrow
  refine List.mem_flatMap.mpr ⟨task, htask, ?_⟩
  simp only [pairRows, List.mem_cons, List.not_mem_nil, or_false] at hrow
  rcases hrow with rfl | rfl | rfl | rfl <;> simp

theorem claimEvidence_ok {task : String} (htask : task ∈ tasks) :
    claimEvidence evidence (claimOf task) = pairRows task :=
  filterMap_find?_of_nodup evidence_nodup (pairRows task) (pairRows_subset htask)

theorem binding_ok {task : String} (htask : task ∈ tasks) :
    rebuildCounterfactualBinding (claimOf task) evidence receipts = .ok () := by
  have hselected := claimEvidence_ok htask
  rw [claimEvidence] at hselected
  simp only [rebuildCounterfactualBinding, hselected, except_bind_ok_iff, require_ok_iff]
  refine ⟨_, rfl, _, rfl, _, rfl, _, rfl, pairRow task, ?_, (), rfl, (), rfl, (), rfl, (),
    ⟨rfl, rfl⟩, ?_⟩
  · rw [rebuildPair_ok htask]
    rfl
  · rfl

theorem evidenceReceipts_ok {row : EvidenceEnvelope} (h : row ∈ evidence) :
    checkEvidenceReceipts store receipts row = .ok () := by
  obtain ⟨observer, receipt, rfl, -, hreceipt⟩ := mem_evidence h
  obtain ⟨content, hcontent⟩ := readArtifact_ok hreceipt (receipt_valid hreceipt).2
  have hmem : receipt.receiptId ∈ receipts.map Receipt.receiptId := List.mem_map_of_mem hreceipt
  have hnone : (envelopeOf observer receipt).receiptIds.find? (fun receiptId =>
      receiptId ∉ receipts.map Receipt.receiptId) = none := by
    rw [List.find?_eq_none]
    intro id hid
    rw [List.mem_singleton.mp hid]
    simpa using hmem
  unfold checkEvidenceReceipts
  rw [hnone]
  simp only [except_bind_ok_iff, require_ok_iff]
  refine ⟨(), ?_, content, hcontent, rfl⟩
  rw [List.any_eq_true]
  exact ⟨receipt, hreceipt, by simp [envelopeOf]⟩

theorem checkClaim_ok {task : String} (htask : task ∈ tasks) (claims : List Claim) :
    checkClaim evidence claims receipts (claimOf task) = .ok () := by
  have hmissing : (claimOf task).evidenceIds.filter
      (fun id => id ∉ evidence.map EvidenceEnvelope.evidenceId) = [] := by
    rw [List.filter_eq_nil_iff]
    intro id hid
    have hrows : (claimOf task).evidenceIds = (pairRows task).map EvidenceEnvelope.evidenceId := rfl
    rw [hrows] at hid
    obtain ⟨row, hrow, rfl⟩ := List.mem_map.mp hid
    simpa using ⟨row, pairRows_subset htask row hrow, rfl⟩
  have hbinding := binding_ok htask
  simp only [checkClaim, except_bind_ok_iff, require_ok_iff]
  refine ⟨(), ?_, ?_⟩
  · rw [hmissing]
    rfl
  · exact hbinding

theorem rebuild_ok : ∃ rebuilt, graph.rebuild store false = .ok rebuilt := by
  have hrows : ∃ answers, evidence.mapM (checkEvidenceReceipts store receipts) = .ok answers :=
    mapM_ok_of_forall fun row h => ⟨(), evidenceReceipts_ok h⟩
  have hclaims : ∃ answers, (tasks.map claimOf).mapM
      (checkClaim evidence (tasks.map claimOf) receipts) = .ok answers := by
    apply mapM_ok_of_forall
    rw [List.forall_mem_map]
    exact fun task htask => ⟨(), checkClaim_ok htask _⟩
  obtain ⟨rows, hrows⟩ := hrows
  obtain ⟨checked, hchecked⟩ := hclaims
  simp only [EvidenceGraph.rebuild, except_bind_ok_iff]
  exact ⟨graph, receipts, listReceipts_ok, evidence, listEvidence_ok, rows, hrows,
    tasks.map claimOf, listClaims_ok, checked, hchecked, rfl⟩

theorem boundTasks_ok {task : String} (htask : task ∈ tasks) :
    boundTask evidence (claimOf task) = .ok task := by
  have htext : task ≠ "" := by
    rintro rfl
    have := tasks_isText htask
    simp [isText] at this
  have hbound : boundTasks evidence (claimOf task) = [task] := by
    rw [boundTasks, claimEvidence_ok htask]
    have hmap : (pairRows task).map taskText = [task, task, task, task] := rfl
    rw [hmap]
    simp [htext]
  rw [boundTask, hbound]

theorem nativeRows_ok {task : String} (htask : task ∈ tasks) :
    nativeRows evidence task (claimOf task).evidenceIds =
      [envelopeOf "native-v1" (native task false), envelopeOf "native-v1" (native task true)] := by
  simp only [tasks, List.mem_cons, List.not_mem_nil, or_false] at htask
  rcases htask with rfl | rfl | rfl <;> rfl

theorem externalRows_ok {task : String} (htask : task ∈ tasks) (taught : Bool) :
    externalRows evidence task "mechanism" (claimOf task).evidenceIds (planOf task taught) =
      [envelopeOf "external-trace-v1" (external task taught)] := by
  simp only [tasks, List.mem_cons, List.not_mem_nil, or_false] at htask
  rcases htask with rfl | rfl | rfl <;> cases taught <;> rfl

theorem internalRows_ok {task : String} (htask : task ∈ tasks) (taught : Bool) :
    internalRows verifier evidence task "mechanism" (planOf task taught) =
      [envelopeOf "trusted-jlens-v1" (observation task taught)] := by
  simp only [tasks, List.mem_cons, List.not_mem_nil, or_false] at htask
  rcases htask with rfl | rfl | rfl <;> cases taught <;> rfl

theorem uniqueRows_ok {task : String} (htask : task ∈ tasks) (taught : Bool) :
    uniqueRows verifier evidence task "mechanism" (claimOf task).evidenceIds (planOf task taught) =
      some (envelopeOf "native-v1" (native task taught),
        envelopeOf "external-trace-v1" (external task taught),
        envelopeOf "trusted-jlens-v1" (observation task taught)) := by
  have hnative : (nativeRows evidence task (claimOf task).evidenceIds).filter
      (fun row => payloadGet row.payload "plan_id" = .str (planOf task taught)) =
        [envelopeOf "native-v1" (native task taught)] := by
    rw [nativeRows_ok htask]
    cases taught <;> simp [envelopeOf, native, receiptOf, payloadGet_cons, planOf, armText]
  rw [uniqueRows, hnative, externalRows_ok htask, internalRows_ok htask]

theorem modelSubject_ok (observer : String) (receipt : Receipt) (task : String)
    (taught : Bool) (hid : payloadGet (envelopeOf observer receipt).payload "model_receipt_id" =
      .str (model task taught).receiptId)
    (hartifact : payloadGet (envelopeOf observer receipt).payload "model_artifact_sha256" =
      .str (model task taught).artifactSha256) :
    modelSubject (envelopeOf observer receipt) =
      some ((model task taught).receiptId, (model task taught).artifactSha256) := by
  have htext : isText (model task taught).receiptId = true :=
    isText_append_left (isText_append_left (isText_append_left (by decide)))
  have hsha256 : isSha256 (model task taught).artifactSha256 = true :=
    Json.contentSha256_isSha256 _
  rw [modelSubject, hid, hartifact]
  simp [jsonSha256?, htext, hsha256]

theorem sameSubject_ok (task : String) (taught : Bool) :
    sameSubject (envelopeOf "native-v1" (native task taught))
      (envelopeOf "external-trace-v1" (external task taught))
      (envelopeOf "trusted-jlens-v1" (observation task taught)) = true := by
  have hnative := modelSubject_ok "native-v1" (native task taught) task taught rfl rfl
  have hexternal := modelSubject_ok "external-trace-v1" (external task taught) task taught rfl rfl
  have hobservation :=
    modelSubject_ok "trusted-jlens-v1" (observation task taught) task taught rfl rfl
  rw [sameSubject, hnative, hexternal, hobservation]
  simp only [decide_eq_true_eq]
  exact ⟨rfl, trivial, trivial, rfl, rfl⟩

theorem lineage_found {task : String} (htask : task ∈ tasks) (taught : Bool) :
    observedLineage receipts (envelopeOf "trusted-jlens-v1" (observation task taught)) =
      some ⟨observation task taught, prediction, model task taught⟩ := by
  obtain ⟨hmodel, -, -, hobservation⟩ := mem_rows htask taught
  have hprediction : prediction ∈ receipts := List.mem_cons_self
  have hfind : ∀ receipt ∈ receipts, receiptById receipts receipt.receiptId = some receipt :=
    fun receipt h => find_receipt h
  unfold observedLineage
  rw [show (envelopeOf "trusted-jlens-v1" (observation task taught)).receiptIds =
      [(observation task taught).receiptId] from rfl,
    show payloadGet (envelopeOf "trusted-jlens-v1" (observation task taught)).payload
      "mechanism_prediction_receipt_id" = .str prediction.receiptId from rfl,
    show payloadGet (envelopeOf "trusted-jlens-v1" (observation task taught)).payload
      "model_receipt_id" = .str (model task taught).receiptId from rfl]
  simp only [hfind _ hobservation, hfind _ hprediction, hfind _ hmodel]
  rfl

theorem planEvidence_ok {task : String} (htask : task ∈ tasks) (taught : Bool) :
    planEvidence verifier receipts store.readArtifact evidence task "mechanism"
      (claimOf task).evidenceIds (planOf task taught) =
        some ⟨envelopeOf "native-v1" (native task taught),
          envelopeOf "external-trace-v1" (external task taught),
          envelopeOf "trusted-jlens-v1" (observation task taught),
          ⟨observation task taught, prediction, model task taught⟩, "revision-1", digest⟩ := by
  have heffect : internalEffect (envelopeOf "trusted-jlens-v1" (observation task taught)) =
      some digest := by
    cases taught <;> rfl
  simp only [planEvidence, uniqueRows_ok htask, Option.bind_eq_bind, Option.bind_eq_some_iff,
    Option.guard_eq_some', Option.some.injEq, exists_const]
  refine ⟨_, rfl, sameSubject_ok task taught, _, lineage_found htask taught, rfl, "revision-1",
    rfl, ?_, _, heffect, ?_, rfl⟩
  · cases taught
    · intro h
      change Json.str "baseline" = .str "taught" at h
      simp at h
    · exact fun _ => rfl
  · cases taught <;> rfl

theorem planIds_ok {task : String} (htask : task ∈ tasks) :
    planIds [envelopeOf "native-v1" (native task false),
      envelopeOf "native-v1" (native task true)] = some [planOf task false, planOf task true] := by
  simp only [tasks, List.mem_cons, List.not_mem_nil, or_false] at htask
  rcases htask with rfl | rfl | rfl <;> decide

def predictionIds (task : String) : List String :=
  [false, true].flatMap (fun taught => [native task taught, external task taught,
    observation task taught].map (fun receipt => "evidence-" ++ receipt.receiptId))

theorem prediction_ok {task : String} (htask : task ∈ tasks) :
    taskPredictionEvidence machine receipts evidence task (some "mechanism")
      (claimOf task).evidenceIds = some (predictionIds task) := by
  have hmechanism : isText "mechanism" = true := by decide
  unfold taskPredictionEvidence
  simp only [Option.bind_eq_bind, Option.bind_eq_some_iff, Option.guard_eq_some',
    Option.some.injEq, exists_const]
  refine ⟨"mechanism", rfl, hmechanism, verifier, rfl, store, rfl,
    [planOf task false, planOf task true], ?_, ?_⟩
  · rw [nativeRows_ok htask]
    exact planIds_ok htask
  · have harms : (nativeRows evidence task (claimOf task).evidenceIds).map
        (fun row => payloadGet row.payload "arm") = [.str "baseline", .str "taught"] := by
      rw [nativeRows_ok htask]
      rfl
    simp only [Option.bind_eq_some_iff, Option.guard_eq_some', harms, planEvidence_ok htask]
    exact ⟨(), by decide, _, rfl, _, rfl, (), ⟨rfl, rfl⟩, rfl⟩

def projects : Dict String String :=
  ⟨[("task-1", "project-1"), ("task-2", "project-1"), ("task-3", "project-2")], by decide⟩

def aggregated : Aggregation :=
  { byTask := ⟨tasks.map (fun task => (task, claimOf task)), by decide⟩
    projects := ["project-1", "project-2"]
    predictionEvidence := tasks.map predictionIds
    counterfactualLineageRebuilt := true }

theorem aggregation_ok :
    machine.aggregation (tasks.map claimOf) projects (some "mechanism") = .ok aggregated := by
  have hbyTask : claimsByTask evidence (tasks.map claimOf) Dict.empty = .ok aggregated.byTask := by
    simp only [tasks, List.map_cons, List.map_nil, claimsByTask]
    rw [boundTasks_ok (by simp [tasks]), boundTasks_ok (by simp [tasks]),
      boundTasks_ok (by simp [tasks])]
    rfl
  have hprojects : taskProjectsOf projects aggregated.byTask.keys =
      .ok ["project-1", "project-2"] := by
    decide
  have hnative : aggregated.byTask.values.all (fun claim => 2 ≤ claim.grade.rank) = true := by
    decide
  have hreceipts : machine.receipts = .ok receipts := by
    rw [EvidenceGradeMachine.receipts, show machine.receiptStore = some store from rfl]
    exact listReceipts_ok
  have hevidence : machine.graph.listEvidence = .ok evidence := by
    rw [show machine.graph = graph from rfl]
    exact listEvidence_ok
  have hrebuild : machine.rebuildLineage true = .ok true := by
    obtain ⟨rebuilt, hrebuilt⟩ := rebuild_ok
    exact rebuildLineage_of_rebuild rfl hrebuilt
  have hprediction : aggregated.byTask.entries.map (fun entry =>
      (taskPredictionEvidence machine receipts evidence entry.1 (some "mechanism")
        entry.2.evidenceIds).getD []) = aggregated.predictionEvidence := by
    change (tasks.map (fun task => (task, claimOf task))).map _ = tasks.map predictionIds
    rw [List.map_map]
    apply List.map_congr_left
    intro task htask
    simp only [Function.comp_apply, prediction_ok htask, Option.getD_some]
  unfold EvidenceGradeMachine.aggregation
  rw [hevidence, ok_bind, hbyTask, ok_bind, hprojects, ok_bind, hreceipts, ok_bind, hnative,
    hrebuild, ok_bind, hprediction]
  rfl

theorem latestClaims_ok : machine.graph.latestClaims = .ok (tasks.map claimOf) := by
  rw [EvidenceGraph.latestClaims, show machine.graph.listClaims = _ from listClaims_ok]
  rfl

theorem aggregate_ok : machine.aggregate "candidate" projects (some "mechanism") =
    .ok (aggregated.state "candidate" (some "mechanism")) := by
  have hcandidate : isText "candidate" = true := by decide
  simp only [EvidenceGradeMachine.aggregate, except_bind_ok_iff, requireContract_ok_iff]
  refine ⟨(), hcandidate, _, latestClaims_ok, ?_⟩
  rw [show (tasks.map claimOf).filter (fun claim => claim.candidateId = "candidate") =
    tasks.map claimOf from rfl, if_neg (by simp [tasks])]
  simp only [except_bind_ok_iff]
  exact ⟨_, aggregation_ok, rfl⟩

theorem grade_ok : (aggregated.state "candidate" (some "mechanism")).grade = .E3 := by
  rw [show (aggregated.state "candidate" (some "mechanism")).grade =
    aggregated.grade (some "mechanism") from rfl]
  decide

end SupportedCandidate

/-- The gates can be passed. -/
theorem aggregate_e3_supported_candidate :
    ∃ mechanism evidence claims tasks, some "mechanism" = some mechanism ∧
      (SupportedCandidate.aggregated.state "candidate"
        (some "mechanism")).taskRevisionIds.Perm tasks ∧
      E3Support SupportedCandidate.machine "candidate" SupportedCandidate.projects mechanism
        evidence claims tasks :=
  aggregate_e3_sound SupportedCandidate.aggregate_ok SupportedCandidate.grade_ok

end JlensEvolve.Evidence
