import Mathlib.Data.List.Dedup
import JlensEvolve.Tournament.StageTable

/-!
What the ranking and the decision of a tournament mean. Neither the order of the
evaluations nor that of the candidates matters to a stage, and a champion that
becomes the search parent ranks first, is safe, wins against the parent by two
tasks, loses nothing to the original, and scores no worse over all tasks than
either, since it does so within each family.
-/

namespace JlensEvolve.Tournament

open Library Stage

theorem fmean_ok_iff (values : List ℚ) (answer : ℚ) :
    fmean values = .ok answer ↔ values ≠ [] ∧ answer = GroupedMean.mean values := by
  cases values with
  | nil => simp [fmean]
  | cons value rest =>
    simp only [fmean, Except.ok.injEq, ne_eq, reduceCtorEq, not_false_eq_true, true_and]
    exact eq_comm

theorem tolerance_pos : 0 < tolerance := by decide +kernel

theorem loss_iff (delta : ℚ) :
    (¬ tolerance < delta ∧ delta < -tolerance) ↔ delta < -tolerance := by
  have hpos := tolerance_pos
  constructor
  · exact fun h => h.2
  · intro h
    exact ⟨by linarith, h⟩

section Comparing

variable {input : Stage} {agent other : String}

/-- How much more the first agent scores on a task. -/
def delta (input : Stage) (agent other task : String) : ℚ :=
  input.scoreAt agent task - input.scoreAt other task

/-- The tasks that the first agent wins against the second. -/
def wins (input : Stage) (agent other : String) : Nat :=
  input.taskUids.countP fun task => tolerance < delta input agent other task

def losses (input : Stage) (agent other : String) : Nat :=
  input.taskUids.countP fun task => delta input agent other task < -tolerance

def overallMean (input : Stage) (agent : String) : ℚ :=
  GroupedMean.mean (input.taskUids.map (input.scoreAt agent))

theorem scoreOf_byAgent (h : input.Complete) (hagent : agent ∈ input.expectedAgents)
    {task : String} (htask : task ∈ input.taskUids) (score : ℚ) :
    scoreOf (input.byAgent agent) task = .ok score ↔ score = input.scoreAt agent task := by
  have hsome : ((input.byAgent agent).reverse.find? fun row => row.taskUid = task).isSome =
      true := by
    obtain ⟨row, hrow⟩ := h.exists_row htask hagent
    obtain ⟨hmem, hsame, hrowAgent⟩ := rowAt_some hrow
    refine List.find?_isSome.mpr ⟨row, ?_, by simpa using hsame⟩
    exact List.mem_reverse.mpr (mem_byAgent.mpr ⟨hmem, hrowAgent⟩)
  obtain ⟨row, hrow⟩ := Option.isSome_iff_exists.mp hsome
  have hmem : row ∈ input.byAgent agent := List.mem_reverse.mp (List.mem_of_find?_eq_some hrow)
  have hsame : row.taskUid = task := by simpa using List.find?_some hrow
  have hat := h.rowAt_of_mem hmem
  rw [hsame] at hat
  rw [scoreOf, hrow, scoreAt, hat]
  simp only [Except.ok.injEq, Option.map_some, Option.getD_some]
  exact eq_comm

theorem taskDelta_byAgent (h : input.Complete) (hagent : agent ∈ input.expectedAgents)
    (hother : other ∈ input.expectedAgents) {task : String} (htask : task ∈ input.taskUids)
    (answer : ℚ) :
    taskDelta (input.byAgent agent) (input.byAgent other) task = .ok answer ↔
      True ∧ answer = delta input agent other task := by
  simp only [taskDelta, except_bind_ok_iff, scoreOf_byAgent h hagent htask,
    scoreOf_byAgent h hother htask, exists_eq_left, true_and, delta]
  constructor
  · intro hsame
    cases hsame
    rfl
  · rintro rfl
    rfl

theorem mem_sortedSet {items : List String} {item : String} :
    item ∈ sortedSet items ↔ item ∈ items := by
  rw [sortedSet, List.mem_insertionSort, List.mem_dedup]

theorem sortedSet_perm {items : List String} (h : items.Nodup) : (sortedSet items).Perm items := by
  rw [sortedSet, h.dedup]
  exact List.perm_insertionSort _ _

theorem tasks_perm (h : input.Complete) (hagent : agent ∈ input.expectedAgents) :
    (sortedSet ((input.byAgent agent).map fun row => row.taskUid)).Perm input.taskUids := by
  have hsorted : input.sortedTasks.Perm input.taskUids := KeyedSort.perm_sortBy _ _
  rw [h.tasks_byAgent hagent]
  exact (sortedSet_perm (hsorted.nodup_iff.mpr h.tasks_nodup)).trans hsorted

theorem overallMean_of_families (h : input.Complete) (hagent : agent ∈ input.expectedAgents)
    (hother : other ∈ input.expectedAgents) {families : List (String × FamilyComparison)}
    (hfamilies : (sortedSet ((input.byAgent agent).map fun row => row.benchmarkFamily)).mapM
      (familyComparison (input.byAgent agent) (input.byAgent other)) = .ok families)
    (hnoninferior : (families.all fun family => family.2.noninferior) = true) :
    overallMean input other ≤ overallMean input agent + tolerance := by
  have hperm : input.sortedTasks.Perm input.taskUids := KeyedSort.perm_sortBy _ _
  have hmean : ∀ who, overallMean input who =
      GroupedMean.mean (input.sortedTasks.map (input.scoreAt who)) := by
    intro who
    have hscores := hperm.map (input.scoreAt who)
    rw [overallMean, GroupedMean.mean, GroupedMean.mean, hscores.sum_eq, hscores.length_eq]
  have hne : input.sortedTasks ≠ [] := by
    intro hnil
    rw [hnil] at hperm
    exact h.tasks_ne (List.nil_perm.mp hperm)
  rw [hmean, hmean]
  refine GroupedMean.mean_le_of_groups (input.familyAt agent) _ _ tolerance hne ?_
  intro task htask
  have hfamily : input.familyAt agent task ∈
      sortedSet ((input.byAgent agent).map fun row => row.benchmarkFamily) := by
    rw [mem_sortedSet, h.families_byAgent hagent]
    exact List.mem_map_of_mem htask
  obtain ⟨compared, hcompared⟩ := mapM_ok_mem hfamilies hfamily
  have hmem : compared ∈ families := (mem_mapM_iff hfamilies compared).mpr ⟨_, hfamily, hcompared⟩
  have hholds := List.all_eq_true.mp hnoninferior compared hmem
  simp only [familyComparison, except_bind_ok_iff, fmean_ok_iff] at hcompared
  obtain ⟨candidateMean, ⟨-, rfl⟩, baselineMean, ⟨-, rfl⟩, hpair⟩ := hcompared
  cases hpair
  have hle := of_decide_eq_true hholds
  rw [h.familyScores_byAgent hagent, h.familyScores_byAgent hother] at hle
  have hsame : (input.sortedTasks.filter fun other' =>
        input.familyAt other other' = input.familyAt agent task) =
      input.sortedTasks.filter fun other' =>
        input.familyAt agent other' = input.familyAt agent task := by
    refine List.filter_congr fun other' hother' => ?_
    rw [h.familyAt_eq hother hagent (mem_sortedTasks.mp hother')]
  rw [hsame] at hle
  exact hle

theorem comparison_tasks (h : input.Complete) (hagent : agent ∈ input.expectedAgents)
    (hother : other ∈ input.expectedAgents) {compared : Comparison}
    (hcompared : comparison (input.byAgent agent) (input.byAgent other) = .ok compared) :
    compared.wins = wins input agent other ∧ compared.losses = losses input agent other ∧
      (compared.allFamiliesNoninferior = true →
        overallMean input other ≤ overallMean input agent + tolerance) := by
  simp only [comparison, except_bind_ok_iff] at hcompared
  obtain ⟨deltas, hdeltas, families, hfamilies, _, -, _, -, _, -, _, -, hresult⟩ := hcompared
  cases hresult
  have hperm := tasks_perm h hagent
  rw [mapM_checked_iff fun task htask =>
    taskDelta_byAgent h hagent hother (hperm.mem_iff.mp htask)] at hdeltas
  obtain ⟨-, rfl⟩ := hdeltas
  refine ⟨?_, ?_, overallMean_of_families h hagent hother hfamilies⟩
  · dsimp only
    rw [List.countP_map, hperm.countP_eq]
    rfl
  · dsimp only
    simp only [loss_iff]
    rw [List.countP_map, hperm.countP_eq]
    rfl

end Comparing

/-- What the checks of a stage ask of its arguments. -/
structure Valid (input : Stage) : Prop where
  stage : input.stage ∈ ["scout", "semifinal", "confirmation"]
  tasks : input.taskUids.Nodup ∧ input.taskUids ≠ []
  original : Sha256.isSha256 input.originalSha256 = true
  parent : Sha256.isSha256 input.parentSha256 = true
  distinct : input.originalSha256 ≠ input.parentSha256
  candidates : input.candidateSha256s.Nodup ∧ input.candidateSha256s ≠ []
  advance : 1 ≤ input.advanceCount ∧ input.advanceCount ≤ input.candidateSha256s.length
  candidates_valid : ∀ candidate ∈ input.candidateSha256s, input.checkCandidate candidate = .ok ()
  inventory : input.InventoryComplete
  epochs : (input.evaluations.map fun row => row.nativeEvaluatorEpoch).dedup.length = 1
  tasks_valid : ∀ task ∈ input.taskUids, input.checkTask task = .ok ()

/-- The result of a stage whose candidates were measured so. -/
def resultOf (input : Stage) (measured : List (CandidateMetrics × Comparisons)) :
    TournamentResult :=
  let metrics := input.candidateSha256s.zip (measured.map Prod.fst)
  let ranking := KeyedSort.sortBy (rankingKey metrics) input.candidateSha256s
  { schemaVersion := 1
    stage := input.stage
    taskUids := input.taskUids
    originalSha256 := input.originalSha256
    parentSha256 := input.parentSha256
    candidateSha256s := input.candidateSha256s
    ranking := ranking
    finalists := ranking.take input.advanceCount.toNat
    metrics := metrics
    comparisons := input.candidateSha256s.zip (measured.map Prod.snd)
    nativeEvaluatorEpoch :=
      (input.evaluations.map fun row => row.nativeEvaluatorEpoch).dedup.headD ""
    rankingAuthority := "fixed_native_evaluator_safety_cost_only" }

theorem evaluateStage_ok_iff (input : Stage) (result : TournamentResult) :
    evaluateStage input = .ok result ↔
      Valid input ∧ ∃ measured, input.candidateSha256s.mapM input.measure = .ok measured ∧
        result = resultOf input measured := by
  simp only [evaluateStage, validateSha, except_bind_ok_iff, require_ok_iff, forM_ok_iff]
  constructor
  · rintro ⟨_, hstage, _, htasks, _, horiginal, _, hparent, _, hdistinct, _, hcandidates, _,
      hadvance, _, hvalid, _, hinventory, _, hepochs, _, hchecked, measured, hmeasured, hresult⟩
    cases hresult
    exact ⟨⟨hstage, htasks, horiginal, hparent, hdistinct, hcandidates, hadvance, hvalid,
      hinventory, hepochs, hchecked⟩, measured, hmeasured, rfl⟩
  · rintro ⟨h, measured, hmeasured, rfl⟩
    exact ⟨(), h.stage, (), h.tasks, (), h.original, (), h.parent, (), h.distinct, (),
      h.candidates, (), h.advance, (), h.candidates_valid, (), h.inventory, (), h.epochs, (),
      h.tasks_valid, measured, hmeasured, rfl⟩

theorem eq_of_dedup_length_one {items : List String} (h : items.dedup.length = 1)
    {item other : String} (hitem : item ∈ items) (hother : other ∈ items) : item = other := by
  obtain ⟨only, honly⟩ := List.length_eq_one_iff.mp h
  rw [← List.mem_dedup, honly, List.mem_singleton] at hitem hother
  rw [hitem, hother]

theorem Valid.complete {input : Stage} (h : Valid input) : input.Complete where
  tasks_nodup := h.tasks.1
  tasks_ne := h.tasks.2
  inventory := h.inventory
  families := by
    intro row hrow other hother hsame
    have htask : row.taskUid ∈ input.taskUids :=
      (mem_expectedPairs.mp (h.inventory.2.1 _ (List.mem_map_of_mem hrow))).1
    have hchecked := h.tasks_valid _ htask
    simp only [Stage.checkTask, except_bind_ok_iff, require_ok_iff, forM_ok_iff] at hchecked
    obtain ⟨_, -, _, hfamilies, -⟩ := hchecked
    refine eq_of_dedup_length_one hfamilies (List.mem_map_of_mem (List.mem_filter.mpr ⟨hrow, ?_⟩))
      (List.mem_map_of_mem (List.mem_filter.mpr ⟨hother, ?_⟩))
    · simp
    · simpa using hsame.symm

section Measured

variable {ε α β γ : Type} [DecidableEq α]

theorem lookup_zip_mapM {compute : α → Except ε β} {field : β → γ} {items : List α}
    {answers : List β} (h : items.mapM compute = .ok answers) (item : α) (value : γ) :
    Dict.lookupEntries item (items.zip (answers.map field)) = some value ↔
      item ∈ items ∧ ∃ answer, compute item = .ok answer ∧ value = field answer := by
  induction items generalizing answers with
  | nil =>
    cases h
    simp [Dict.lookupEntries]
  | cons first rest ih =>
    simp only [List.mapM_cons, except_bind_ok_iff] at h
    obtain ⟨answer, hfirst, others, hrest, hanswers⟩ := h
    cases hanswers
    rw [List.map_cons, List.zip_cons_cons, Dict.lookupEntries]
    by_cases hsame : first = item
    · subst hsame
      rw [if_pos rfl, Option.some_inj]
      constructor
      · rintro rfl
        exact ⟨List.mem_cons_self, answer, hfirst, rfl⟩
      · rintro ⟨-, found, hfound, rfl⟩
        rw [hfirst] at hfound
        cases hfound
        rfl
    · rw [if_neg hsame, ih hrest, List.mem_cons, or_iff_right (Ne.symm hsame)]

end Measured

/-- The same stage with its evaluations and its candidates in another order. -/
structure Reordered (input other : Stage) : Prop where
  stage : other.stage = input.stage
  evaluations : input.evaluations.Perm other.evaluations
  taskUids : other.taskUids = input.taskUids
  originalSha256 : other.originalSha256 = input.originalSha256
  parentSha256 : other.parentSha256 = input.parentSha256
  candidateSha256s : input.candidateSha256s.Perm other.candidateSha256s
  advanceCount : other.advanceCount = input.advanceCount

section Reordering

variable {input other : Stage}

theorem Reordered.mem_expectedAgents (h : Reordered input other) (agent : String) :
    agent ∈ other.expectedAgents ↔ agent ∈ input.expectedAgents := by
  simp only [expectedAgents, List.mem_cons, h.originalSha256, h.parentSha256,
    h.candidateSha256s.mem_iff]

theorem Reordered.mem_expectedPairs (h : Reordered input other) (pair : String × String) :
    pair ∈ other.expectedPairs ↔ pair ∈ input.expectedPairs := by
  obtain ⟨task, agent⟩ := pair
  rw [Stage.mem_expectedPairs, Stage.mem_expectedPairs, h.taskUids, h.mem_expectedAgents]

theorem Reordered.inventory (h : Reordered input other) (hinventory : input.InventoryComplete) :
    other.InventoryComplete := by
  have hpairs : input.actualPairs.Perm other.actualPairs := h.evaluations.map _
  obtain ⟨hnodup, hactual, hexpected⟩ := hinventory
  refine ⟨hpairs.nodup_iff.mp hnodup, fun pair hpair => ?_, fun pair hpair => ?_⟩
  · exact (h.mem_expectedPairs pair).mpr (hactual pair (hpairs.mem_iff.mpr hpair))
  · exact hpairs.mem_iff.mp (hexpected pair ((h.mem_expectedPairs pair).mp hpair))

theorem Reordered.dedup_length (h : Reordered input other) (field : ArmEvaluation → String)
    (keep : ArmEvaluation → Bool) :
    ((other.evaluations.filter keep).map field).dedup.length =
      ((input.evaluations.filter keep).map field).dedup.length :=
  (((h.evaluations.filter keep).map field).dedup).length_eq.symm

theorem Reordered.checkTask (h : Reordered input other) {task : String}
    (hchecked : input.checkTask task = .ok ()) : other.checkTask task = .ok () := by
  simp only [Stage.checkTask, except_bind_ok_iff, require_ok_iff, forM_ok_iff] at hchecked ⊢
  obtain ⟨_, hcontracts, _, hfamilies, hroles⟩ := hchecked
  refine ⟨(), ?_, (), ?_, fun row hrow => ?_⟩
  · rw [h.dedup_length]
    exact hcontracts
  · rw [h.dedup_length]
    exact hfamilies
  · have hrole := hroles row ((h.evaluations.filter _).mem_iff.mpr hrow)
    simpa only [expectedRole, h.originalSha256, h.parentSha256] using hrole

theorem Reordered.valid (h : Reordered input other) (hvalid : Valid input) : Valid other where
  stage := h.stage ▸ hvalid.stage
  tasks := h.taskUids ▸ hvalid.tasks
  original := h.originalSha256 ▸ hvalid.original
  parent := h.parentSha256 ▸ hvalid.parent
  distinct := by
    rw [h.originalSha256, h.parentSha256]
    exact hvalid.distinct
  candidates := by
    refine ⟨h.candidateSha256s.nodup_iff.mp hvalid.candidates.1, fun hnil => ?_⟩
    have hperm := h.candidateSha256s
    rw [hnil] at hperm
    exact hvalid.candidates.2 (List.perm_nil.mp hperm)
  advance := by
    rw [h.advanceCount, ← h.candidateSha256s.length_eq]
    exact hvalid.advance
  candidates_valid := by
    intro candidate hcandidate
    have hchecked := hvalid.candidates_valid candidate (h.candidateSha256s.mem_iff.mpr hcandidate)
    simpa only [Stage.checkCandidate, h.originalSha256, h.parentSha256] using hchecked
  inventory := h.inventory hvalid.inventory
  epochs := by
    have hlength := ((h.evaluations.map fun row => row.nativeEvaluatorEpoch).dedup).length_eq
    rw [← hlength]
    exact hvalid.epochs
  tasks_valid := by
    intro task htask
    exact h.checkTask (hvalid.tasks_valid task (h.taskUids ▸ htask))

theorem Reordered.byAgent (h : Reordered input other) (hcomplete : input.Complete)
    (agent : String) : other.byAgent agent = input.byAgent agent := by
  refine (KeyedSort.sortBy_eq_of_perm ?_ (h.evaluations.filter _)).symm
  intro row hrow found hfound hsame
  obtain ⟨hmem, hrowAgent⟩ := List.mem_filter.mp hrow
  obtain ⟨hmemFound, hfoundAgent⟩ := List.mem_filter.mp hfound
  refine hcomplete.row_unique hmem hmemFound hsame ?_
  exact (of_decide_eq_true hrowAgent).trans (of_decide_eq_true hfoundAgent).symm

theorem Reordered.measure (h : Reordered input other) (hcomplete : input.Complete)
    (candidate : String) : other.measure candidate = input.measure candidate := by
  simp only [Stage.measure, h.byAgent hcomplete, h.originalSha256, h.parentSha256]

theorem rankingKey_apart (metrics : List (String × CandidateMetrics)) (candidates : List String) :
    KeyedSort.KeysApart (rankingKey metrics) candidates := by
  intro candidate _ found _ hsame
  have hkey := congrArg (fun key => (ofLex (ofLex (ofLex key).2).2).2) hsame
  exact hkey

theorem least_of_head {key : String → Nat ×ₗ ℚ ×ₗ ℚ ×ₗ String} {candidates : List String}
    {champion candidate : String}
    (hfirst : (KeyedSort.sortBy key candidates).head? = some champion)
    (hmem : candidate ∈ candidates) : key champion ≤ key candidate := by
  have hsorted := KeyedSort.pairwise_sortBy key candidates
  have hcandidate := (KeyedSort.perm_sortBy key candidates).mem_iff.mpr hmem
  cases hranking : KeyedSort.sortBy key candidates with
  | nil =>
    rw [hranking] at hfirst
    cases hfirst
  | cons first rest =>
    rw [hranking] at hfirst hsorted hcandidate
    obtain rfl : first = champion := Option.some.inj hfirst
    obtain rfl | hrest := List.mem_cons.mp hcandidate
    · exact le_refl _
    · exact (List.pairwise_cons.mp hsorted).1 candidate hrest

theorem Reordered.result (h : Reordered input other) {result : TournamentResult}
    (hresult : evaluateStage input = .ok result) :
    ∃ again, evaluateStage other = .ok again ∧ again.ranking = result.ranking ∧
      again.finalists = result.finalists ∧
      ∀ candidate, Dict.lookupEntries candidate again.metrics =
          Dict.lookupEntries candidate result.metrics ∧
        Dict.lookupEntries candidate again.comparisons =
          Dict.lookupEntries candidate result.comparisons := by
  obtain ⟨hvalid, measured, hmeasured, rfl⟩ := (evaluateStage_ok_iff input result).mp hresult
  have hmeasure : other.measure = input.measure := funext (h.measure hvalid.complete)
  obtain ⟨answers, hanswers⟩ : ∃ answers, other.candidateSha256s.mapM other.measure =
      .ok answers := by
    refine mapM_ok_of_forall fun candidate hcandidate => ?_
    rw [hmeasure]
    exact mapM_ok_mem hmeasured (h.candidateSha256s.mem_iff.mpr hcandidate)
  have hlookup : ∀ {β : Type} (field : CandidateMetrics × Comparisons → β) (candidate : String),
      Dict.lookupEntries candidate (other.candidateSha256s.zip (answers.map field)) =
        Dict.lookupEntries candidate (input.candidateSha256s.zip (measured.map field)) := by
    intro β field candidate
    refine Option.ext fun value => ?_
    rw [lookup_zip_mapM hanswers, lookup_zip_mapM hmeasured, hmeasure, h.candidateSha256s.mem_iff]
  have hkey : rankingKey (other.candidateSha256s.zip (answers.map Prod.fst)) =
      rankingKey (input.candidateSha256s.zip (measured.map Prod.fst)) := by
    funext candidate
    rw [rankingKey, rankingKey, metricsOf, hlookup, metricsOf]
  have hranking : (resultOf other answers).ranking = (resultOf input measured).ranking := by
    rw [resultOf, resultOf]
    dsimp only
    rw [hkey]
    exact (KeyedSort.sortBy_eq_of_perm (rankingKey_apart _ _) h.candidateSha256s).symm
  refine ⟨_, (evaluateStage_ok_iff other _).mpr ⟨h.valid hvalid, answers, hanswers, rfl⟩, hranking,
    ?_, fun candidate => ⟨hlookup Prod.fst candidate, hlookup Prod.snd candidate⟩⟩
  change (resultOf other answers).ranking.take _ = (resultOf input measured).ranking.take _
  rw [hranking, h.advanceCount]

end Reordering

section Champion

variable {input : Stage} {result : TournamentResult} {decision : ParentDecision}

/-- What a candidate that becomes the search parent has shown. -/
structure Advances (input : Stage) (result : TournamentResult) (champion : String) : Prop where
  candidate : champion ∈ input.candidateSha256s
  first : result.ranking.head? = some champion
  least : ∀ candidate ∈ input.candidateSha256s,
    rankingKey result.metrics champion ≤ rankingKey result.metrics candidate
  safe : ∀ task ∈ input.taskUids, input.safeAt champion task = true
  beatsParent : losses input champion input.parentSha256 + 2 ≤
    wins input champion input.parentSha256
  keepsOriginal : losses input champion input.originalSha256 ≤
    wins input champion input.originalSha256
  overParent : overallMean input input.parentSha256 ≤ overallMean input champion + tolerance
  overOriginal : overallMean input input.originalSha256 ≤ overallMean input champion + tolerance

theorem decide_advance (h : Tournament.decide result = .ok decision)
    (hadvance : decision.advance = true) :
    result.ranking.head? = some decision.championSha256 ∧
      ∃ metrics compared,
        Dict.lookupEntries decision.championSha256 result.metrics = some metrics ∧
        Dict.lookupEntries decision.championSha256 result.comparisons = some compared ∧
        decisionReasons result metrics compared = [] := by
  simp only [Tournament.decide, except_bind_ok_iff, require_ok_iff] at h
  obtain ⟨_, -, h⟩ := h
  split at h
  · cases h
  · rename_i champion hchampion
    split at h
    · rename_i metrics compared hmetrics hcompared
      cases h
      exact ⟨hchampion, metrics, compared, hmetrics, hcompared, List.isEmpty_iff.mp hadvance⟩
    · cases h

theorem nil_of_ite {condition : Prop} [Decidable condition] {reason : String}
    (h : (if condition then [reason] else []) = []) : ¬ condition := by
  intro hcondition
  rw [if_pos hcondition] at h
  exact List.cons_ne_nil _ _ h

theorem safe_of_no_failures (h : input.Complete) {agent : String}
    (hagent : agent ∈ input.expectedAgents)
    (hnone : (input.byAgent agent).countP (fun row => !row.safetyPassed) = 0) :
    ∀ task ∈ input.taskUids, input.safeAt agent task = true := by
  intro task htask
  obtain ⟨row, hrow⟩ := h.exists_row htask hagent
  obtain ⟨hmem, -, hrowAgent⟩ := rowAt_some hrow
  have hsafe := List.countP_eq_zero.mp hnone row (mem_byAgent.mpr ⟨hmem, hrowAgent⟩)
  rw [safeAt, hrow]
  simpa using hsafe

theorem advances_of_decision (hresult : evaluateStage input = .ok result)
    (hdecision : Tournament.decide result = .ok decision) (hadvance : decision.advance = true) :
    Advances input result decision.championSha256 := by
  obtain ⟨hvalid, measured, hmeasured, rfl⟩ := (evaluateStage_ok_iff input result).mp hresult
  obtain ⟨hfirst, metrics, compared, hmetrics, hcompared, hreasons⟩ :=
    decide_advance hdecision hadvance
  have hcomplete := hvalid.complete
  obtain ⟨hcandidate, answer, hanswer, rfl⟩ := (lookup_zip_mapM hmeasured _ _).mp hmetrics
  obtain ⟨-, found, hfound, rfl⟩ := (lookup_zip_mapM hmeasured _ _).mp hcompared
  rw [hanswer] at hfound
  cases hfound
  simp only [decisionReasons, List.append_eq_nil_iff] at hreasons
  obtain ⟨⟨⟨⟨⟨⟨-, hsafety⟩, hparentFamilies⟩, horiginalFamilies⟩, hmargin⟩, hshadow⟩, -⟩ := hreasons
  simp only [Stage.measure, except_bind_ok_iff] at hanswer
  obtain ⟨meanScore, -, meanCost, -, vsOriginal, hvsOriginal, vsParent, hvsParent, hpair⟩ := hanswer
  cases hpair
  have hagent : decision.championSha256 ∈ input.expectedAgents :=
    List.mem_cons_of_mem _ (List.mem_cons_of_mem _ hcandidate)
  have hparentAgent : input.parentSha256 ∈ input.expectedAgents :=
    List.mem_cons_of_mem _ List.mem_cons_self
  have horiginalAgent : input.originalSha256 ∈ input.expectedAgents := List.mem_cons_self
  obtain ⟨hparentWins, hparentLosses, hparentMean⟩ :=
    comparison_tasks hcomplete hagent hparentAgent hvsParent
  obtain ⟨horiginalWins, horiginalLosses, horiginalMean⟩ :=
    comparison_tasks hcomplete hagent horiginalAgent hvsOriginal
  have hmargin := nil_of_ite hmargin
  have hshadow := nil_of_ite hshadow
  dsimp only at hmargin hshadow
  refine ⟨hcandidate, hfirst, ?_, ?_, ?_, ?_, ?_, ?_⟩
  · intro candidate hmem
    exact least_of_head hfirst hmem
  · exact safe_of_no_failures hcomplete hagent (not_not.mp (nil_of_ite hsafety))
  · omega
  · omega
  · exact hparentMean (by simpa using nil_of_ite hparentFamilies)
  · exact horiginalMean (by simpa using nil_of_ite horiginalFamilies)

end Champion

/-- Neither order of a stage matters, and a champion that its decision advances has shown
what a search parent must. -/
theorem tournament_sound (input : Stage) (result : TournamentResult)
    (hresult : evaluateStage input = .ok result) :
    (∀ other, Reordered input other →
      ∃ again, evaluateStage other = .ok again ∧ again.ranking = result.ranking ∧
        again.finalists = result.finalists ∧
        ∀ candidate, Dict.lookupEntries candidate again.metrics =
            Dict.lookupEntries candidate result.metrics ∧
          Dict.lookupEntries candidate again.comparisons =
            Dict.lookupEntries candidate result.comparisons) ∧
    ∀ decision, Tournament.decide result = .ok decision → decision.advance = true →
      Advances input result decision.championSha256 :=
  ⟨fun _ h => h.result hresult, fun _ hdecision hadvance =>
    advances_of_decision hresult hdecision hadvance⟩

/-- The digest that repeats one digit. -/
def sampleSha256 (digit : Char) : String := String.ofList (List.replicate 64 digit)

def sampleRow (taskUid : String) (arm : Char × String × ℚ) : ArmEvaluation where
  taskUid := taskUid
  benchmarkFamily := "swe"
  role := arm.2.1
  agentProgramSha256 := sampleSha256 arm.1
  matchedContractSha256 := sampleSha256 'f'
  nativeEvaluatorEpoch := "epoch-1"
  nativeScore := arm.2.2
  safetyPassed := true
  costUnits := 1

def sampleTasks : List String := ["a", "b", "c", "d", "e", "f", "g", "h", "i", "j", "k", "l"]

/-- A confirmation with one candidate that solves what neither baseline solves. -/
def sampleStage : Stage where
  stage := "confirmation"
  evaluations := sampleTasks.flatMap fun task =>
    [('0', "original", 0), ('1', "parent", 0), ('2', "candidate", 1)].map (sampleRow task)
  taskUids := sampleTasks
  originalSha256 := sampleSha256 '0'
  parentSha256 := sampleSha256 '1'
  candidateSha256s := [sampleSha256 '2']
  advanceCount := 1

/-- The search parent that a stage decides on. -/
def championOf (input : Stage) : Option String :=
  match evaluateStage input with
  | .error _ => none
  | .ok result =>
    match Tournament.decide result with
    | .error _ => none
    | .ok decision => if decision.advance then some decision.championSha256 else none

theorem twelve_tasks_won : ∃ result, evaluateStage sampleStage = .ok result ∧
    Advances sampleStage result (sampleSha256 '2') := by
  have hchampion : championOf sampleStage = some (sampleSha256 '2') := by decide +kernel
  unfold championOf at hchampion
  split at hchampion
  · cases hchampion
  · rename_i result hresult
    split at hchampion
    · cases hchampion
    · rename_i decision hdecision
      split at hchampion
      · rename_i hadvance
        refine ⟨result, hresult, ?_⟩
        rw [← Option.some.inj hchampion]
        exact (tournament_sound sampleStage result hresult).2 decision hdecision hadvance
      · cases hchampion

end JlensEvolve.Tournament
