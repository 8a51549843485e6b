import Mathlib.Algebra.Order.Field.Rat
import Mathlib.Data.Prod.Lex
import Mathlib.Data.String.Basic
import JlensEvolve.Library.Dict
import JlensEvolve.Library.Effect
import JlensEvolve.Library.KeyedSort
import JlensEvolve.Library.Sha256

/-!
`candidate_tournament.py`: candidates are ranked by what a native evaluator
measured of them, and the first of them becomes the search parent when it holds
its ground against the parent and the original. Scores and costs are exact
rationals.
-/

namespace JlensEvolve.Tournament

open Library

/-- `1e-12`. -/
def tolerance : ℚ := 1 / 10 ^ 12

def validateSha (value name : String) : Except String Unit :=
  require (Sha256.isSha256 value = true) ("invalid " ++ name ++ " sha256")

structure ArmEvaluation where
  taskUid : String
  benchmarkFamily : String
  role : String
  agentProgramSha256 : String
  matchedContractSha256 : String
  nativeEvaluatorEpoch : String
  nativeScore : ℚ
  safetyPassed : Bool
  costUnits : ℚ
deriving DecidableEq

/-- `fmean`, which raises on no data. -/
def fmean : List ℚ → Except String ℚ
  | [] => .error "fmean requires at least one data point"
  | value :: rest => .ok ((value :: rest).sum / (value :: rest).length)

structure FamilyComparison where
  candidateMean : ℚ
  baselineMean : ℚ
  delta : ℚ
  noninferior : Bool
deriving DecidableEq

/-- `cost_increase_fraction` is infinite where it is `none`. -/
structure Comparison where
  wins : Nat
  losses : Nat
  ties : Nat
  qualityDelta : ℚ
  candidateMeanCost : ℚ
  baselineMeanCost : ℚ
  costIncreaseFraction : Option ℚ
  families : List (String × FamilyComparison)
  allFamiliesNoninferior : Bool
deriving DecidableEq

/-- `sorted({...})`. -/
def sortedSet (items : List String) : List String := items.dedup.insertionSort (· ≤ ·)

/-- `{row.task_uid: row for row in rows}[task_uid].native_score`: of rows of one task the
last one counts. -/
def scoreOf (rows : List ArmEvaluation) (taskUid : String) : Except String ℚ :=
  match rows.reverse.find? fun row => row.taskUid = taskUid with
  | some row => .ok row.nativeScore
  | none => .error taskUid

/-- How much more the candidate scored on a task. -/
def taskDelta (candidateRows baselineRows : List ArmEvaluation) (taskUid : String) :
    Except String ℚ := do
  let candidate ← scoreOf candidateRows taskUid
  let baseline ← scoreOf baselineRows taskUid
  return candidate - baseline

def familyScores (rows : List ArmEvaluation) (family : String) : List ℚ :=
  (rows.filter fun row => row.benchmarkFamily = family).map fun row => row.nativeScore

def familyComparison (candidateRows baselineRows : List ArmEvaluation) (family : String) :
    Except String (String × FamilyComparison) := do
  let candidateMean ← fmean (familyScores candidateRows family)
  let baselineMean ← fmean (familyScores baselineRows family)
  return (family, ⟨candidateMean, baselineMean, candidateMean - baselineMean,
    baselineMean ≤ candidateMean + tolerance⟩)

def costIncrease (candidateCost baselineCost : ℚ) : Option ℚ :=
  if 0 < baselineCost then some ((candidateCost - baselineCost) / baselineCost)
  else if candidateCost = 0 then some 0
  else none

def comparison (candidateRows baselineRows : List ArmEvaluation) : Except String Comparison := do
  let deltas ← (sortedSet (candidateRows.map fun row => row.taskUid)).mapM
    (taskDelta candidateRows baselineRows)
  let families ← (sortedSet (candidateRows.map fun row => row.benchmarkFamily)).mapM
    (familyComparison candidateRows baselineRows)
  let candidateCost ← fmean (candidateRows.map fun row => row.costUnits)
  let baselineCost ← fmean (baselineRows.map fun row => row.costUnits)
  let candidateScore ← fmean (candidateRows.map fun row => row.nativeScore)
  let baselineScore ← fmean (baselineRows.map fun row => row.nativeScore)
  return {
    wins := deltas.countP fun delta => tolerance < delta
    losses := deltas.countP fun delta => ¬ tolerance < delta ∧ delta < -tolerance
    ties := deltas.countP fun delta => ¬ tolerance < delta ∧ ¬ delta < -tolerance
    qualityDelta := candidateScore - baselineScore
    candidateMeanCost := candidateCost
    baselineMeanCost := baselineCost
    costIncreaseFraction := costIncrease candidateCost baselineCost
    families := families
    allFamiliesNoninferior := families.all fun family => family.2.noninferior }

structure CandidateMetrics where
  meanNativeScore : ℚ
  meanCostUnits : ℚ
  safetyFailures : Nat
  completedTasks : Nat
deriving DecidableEq

instance : Inhabited CandidateMetrics := ⟨⟨0, 0, 0, 0⟩⟩

structure Comparisons where
  vsOriginal : Comparison
  vsParent : Comparison
deriving DecidableEq

structure TournamentResult where
  schemaVersion : Nat
  stage : String
  taskUids : List String
  originalSha256 : String
  parentSha256 : String
  candidateSha256s : List String
  ranking : List String
  finalists : List String
  metrics : List (String × CandidateMetrics)
  comparisons : List (String × Comparisons)
  nativeEvaluatorEpoch : String
  rankingAuthority : String
deriving DecidableEq

/-- The arguments of `evaluate_stage`. -/
structure Stage where
  stage : String
  evaluations : List ArmEvaluation
  taskUids : List String
  originalSha256 : String
  parentSha256 : String
  candidateSha256s : List String
  advanceCount : Int

namespace Stage

variable (input : Stage)

def checkCandidate (candidate : String) : Except String Unit := do
  validateSha candidate "candidate"
  require (candidate ≠ input.originalSha256 ∧ candidate ≠ input.parentSha256)
    "candidate duplicates a baseline arm"

def expectedAgents : List String :=
  input.originalSha256 :: input.parentSha256 :: input.candidateSha256s

def expectedPairs : List (String × String) :=
  input.taskUids.flatMap fun task => input.expectedAgents.map fun agent => (task, agent)

def actualPairs : List (String × String) :=
  input.evaluations.map fun row => (row.taskUid, row.agentProgramSha256)

/-- Each expected pair of a task and an agent has one row, and there are no others. -/
def InventoryComplete : Prop :=
  input.actualPairs.Nodup ∧ (∀ pair ∈ input.actualPairs, pair ∈ input.expectedPairs) ∧
    ∀ pair ∈ input.expectedPairs, pair ∈ input.actualPairs

theorem inventoryComplete_iff :
    (input.actualPairs.Nodup ∧ input.actualPairs.all input.expectedPairs.contains = true ∧
      input.expectedPairs.all input.actualPairs.contains = true) ↔ input.InventoryComplete := by
  simp [InventoryComplete]

instance : Decidable input.InventoryComplete := decidable_of_iff _ input.inventoryComplete_iff

def expectedRole (agent : String) : String :=
  if agent = input.originalSha256 then "original"
  else if agent = input.parentSha256 then "parent"
  else "candidate"

/-- One turn of the loop over the tasks. -/
def checkTask (taskUid : String) : Except String Unit := do
  let taskRows := input.evaluations.filter fun row => row.taskUid = taskUid
  require ((taskRows.map fun row => row.matchedContractSha256).dedup.length = 1)
    "matched contract differs across task arms"
  require ((taskRows.map fun row => row.benchmarkFamily).dedup.length = 1)
    "benchmark family differs across task arms"
  taskRows.forM fun row => require (row.role = input.expectedRole row.agentProgramSha256)
    "arm role does not match AgentProgram hash"

/-- `by_agent[agent]`. -/
def byAgent (agent : String) : List ArmEvaluation :=
  KeyedSort.sortBy (fun row => row.taskUid)
    (input.evaluations.filter fun row => row.agentProgramSha256 = agent)

/-- One turn of the loop over the candidates. -/
def measure (candidate : String) : Except String (CandidateMetrics × Comparisons) := do
  let rows := input.byAgent candidate
  let meanNativeScore ← fmean (rows.map fun row => row.nativeScore)
  let meanCostUnits ← fmean (rows.map fun row => row.costUnits)
  let vsOriginal ← comparison rows (input.byAgent input.originalSha256)
  let vsParent ← comparison rows (input.byAgent input.parentSha256)
  return (⟨meanNativeScore, meanCostUnits, rows.countP fun row => !row.safetyPassed,
    rows.length⟩, ⟨vsOriginal, vsParent⟩)

end Stage

/-- `metrics[candidate]`. -/
def metricsOf (metrics : List (String × CandidateMetrics)) (candidate : String) :
    CandidateMetrics :=
  (Dict.lookupEntries candidate metrics).getD default

def rankingKey (metrics : List (String × CandidateMetrics)) (candidate : String) :
    Nat ×ₗ ℚ ×ₗ ℚ ×ₗ String :=
  let measured := metricsOf metrics candidate
  toLex (measured.safetyFailures,
    toLex (-measured.meanNativeScore, toLex (measured.meanCostUnits, candidate)))

def evaluateStage (input : Stage) : Except String TournamentResult := do
  require (input.stage ∈ ["scout", "semifinal", "confirmation"]) "unsupported tournament stage"
  require (input.taskUids.Nodup ∧ input.taskUids ≠ []) "task_uids must be unique and non-empty"
  validateSha input.originalSha256 "original"
  validateSha input.parentSha256 "parent"
  require (input.originalSha256 ≠ input.parentSha256)
    "original and parent roles must be distinct"
  require (input.candidateSha256s.Nodup ∧ input.candidateSha256s ≠ [])
    "candidate hashes must be unique and non-empty"
  require (1 ≤ input.advanceCount ∧ input.advanceCount ≤ input.candidateSha256s.length)
    "invalid tournament advance_count"
  input.candidateSha256s.forM input.checkCandidate
  require input.InventoryComplete "tournament arm inventory is incomplete or duplicated"
  let epochs := (input.evaluations.map fun row => row.nativeEvaluatorEpoch).dedup
  require (epochs.length = 1) "tournament cannot mix native evaluator epochs"
  input.taskUids.forM input.checkTask
  let measured ← input.candidateSha256s.mapM input.measure
  let metrics := input.candidateSha256s.zip (measured.map Prod.fst)
  let ranking := KeyedSort.sortBy (rankingKey metrics) input.candidateSha256s
  return {
    schemaVersion := 1
    stage := input.stage
    taskUids := input.taskUids
    originalSha256 := input.originalSha256
    parentSha256 := input.parentSha256
    candidateSha256s := input.candidateSha256s
    ranking := ranking
    finalists := ranking.take input.advanceCount.toNat
    metrics := metrics
    comparisons := input.candidateSha256s.zip (measured.map Prod.snd)
    nativeEvaluatorEpoch := epochs.headD ""
    rankingAuthority := "fixed_native_evaluator_safety_cost_only" }

structure ParentDecision where
  advance : Bool
  previousParentSha256 : String
  searchParentSha256 : String
  championSha256 : String
  reasons : List String
  scope : String
  productionPromoted : Bool
deriving DecidableEq

/-- The cost of the candidate rose beyond what its quality excuses. -/
def costExceeds (vsParent : Comparison) : Bool :=
  (match vsParent.costIncreaseFraction with
    | some fraction => 1 / 10 + tolerance < fraction
    | none => true) && vsParent.qualityDelta < 1 / 10 - tolerance

/-- `reasons`: each check that fails leaves its reason. -/
def decisionReasons (result : TournamentResult) (metrics : CandidateMetrics)
    (compared : Comparisons) : List String :=
  let vsParent := compared.vsParent
  let vsOriginal := compared.vsOriginal
  (if result.taskUids.length ≠ 12 ∨ metrics.completedTasks ≠ 12 then
    ["confirmation_requires_exactly_12_complete_tasks"] else []) ++
  (if metrics.safetyFailures ≠ 0 then ["safety_failure"] else []) ++
  (if vsParent.allFamiliesNoninferior = false then
    ["benchmark_family_regression_vs_parent"] else []) ++
  (if vsOriginal.allFamiliesNoninferior = false then
    ["benchmark_family_regression_vs_original"] else []) ++
  (if vsParent.wins < vsParent.losses + 2 then
    ["candidate_vs_parent_win_margin_below_two"] else []) ++
  (if vsOriginal.wins < vsOriginal.losses then
    ["candidate_regresses_vs_original_shadow"] else []) ++
  (if costExceeds vsParent = true then ["cost_increase_exceeds_quality_exception"] else [])

/-- `SearchParentSelector.decide`. -/
protected def decide (result : TournamentResult) : Except String ParentDecision := do
  require (result.stage = "confirmation") "search parent requires confirmation stage"
  match result.ranking.head? with
  | none => .error "tuple index out of range"
  | some champion =>
    match Dict.lookupEntries champion result.metrics,
        Dict.lookupEntries champion result.comparisons with
    | some metrics, some compared =>
      let reasons := decisionReasons result metrics compared
      let advance := reasons.isEmpty
      .ok {
        advance := advance
        previousParentSha256 := result.parentSha256
        searchParentSha256 := if advance then champion else result.parentSha256
        championSha256 := champion
        reasons := reasons
        scope := "experimental_search_lineage_only"
        productionPromoted := false }
    | _, _ => .error champion

end JlensEvolve.Tournament
