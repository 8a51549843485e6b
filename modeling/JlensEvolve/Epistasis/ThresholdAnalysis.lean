import JlensEvolve.Epistasis.Experiments
import JlensEvolve.Library.GroupedMean
import JlensEvolve.Statistics.Bootstrap

/-!
The analyses of interactions and of cumulative gains over tasks. A cell that was
not run counts as the value -1 where it is looked up.
-/

namespace JlensEvolve.Epistasis

open Library Statistics

variable {Records Output : Type}

/-- What the analyses read: the tasks, the cells by their keys, the seeds, and the
budget and mode that the keys are made with. -/
structure Sweep (Records Output : Type) where
  sandbox : Sandbox Records Output
  tasks : List (TaskSpec Records Output)
  results : Dict String CellResult
  seeds : List Int
  budget : Int
  mode : String

/-- The draws of the generator for lists of a length. -/
abbrev Draws := Nat → Nat → Nat → Nat

namespace Sweep

variable (sweep : Sweep Records Output)

/-- The cell of a task under a set of operators. -/
def cell? (task : TaskSpec Records Output) (seed : Int) (ids : List String) : Option CellResult :=
  sweep.results.get? (cellKey task.taskId seed ids sweep.mode sweep.budget)

def best (task : TaskSpec Records Output) (seed : Int) (ids : List String) : Int :=
  bestPassed sweep.results task.taskId seed ids sweep.budget sweep.mode

theorem best_of_some {task : TaskSpec Records Output} {seed : Int} {ids : List String}
    {result : CellResult} (h : sweep.cell? task seed ids = some result) :
    sweep.best task seed ids = result.bestPassed := by
  rw [cell?] at h
  rw [best, bestPassed, h]

theorem best_of_none {task : TaskSpec Records Output} {seed : Int} {ids : List String}
    (h : sweep.cell? task seed ids = none) : sweep.best task seed ids = -1 := by
  rw [cell?] at h
  rw [best, bestPassed, h]

variable [BEq Output]

def initial (task : TaskSpec Records Output) : Int := initialPassed sweep.sandbox task

/-- A row of `analyze_D`. -/
structure InteractionRow where
  taskId : String
  seed : Int
  pair : String × String
  gainEmpty : Int
  gainI : Int
  gainJ : Int
  gainIj : Int
  interaction : Int

/-- A point of the design: a task, two of its operators and a seed. -/
structure Design (Records Output : Type) where
  task : TaskSpec Records Output
  pair : String × String
  seed : Int

def Design.sets (design : Design Records Output) : List (List String) :=
  [[], [design.pair.1], [design.pair.2], sortedIds [design.pair.1, design.pair.2]]

/-- The body of the loops of `analyze_D`. -/
def interactionRow (design : Design Records Output) : InteractionRow :=
  let gain ids := sweep.best design.task design.seed ids - sweep.initial design.task
  let gainEmpty := gain []
  let gainI := gain [design.pair.1]
  let gainJ := gain [design.pair.2]
  let gainIj := gain (sortedIds [design.pair.1, design.pair.2])
  { taskId := design.task.taskId
    seed := design.seed
    pair := design.pair
    gainEmpty
    gainI
    gainJ
    gainIj
    interaction := gainIj - gainI - gainJ + gainEmpty }

/-- The loops of `analyze_D`. -/
def designs : List (Design Records Output) :=
  sweep.tasks.flatMap fun task =>
    (pairs (mechanismsToOperators task.mechanisms)).flatMap fun pair =>
      sweep.seeds.map fun seed => ⟨task, pair, seed⟩

structure PairReport where
  name : String
  cells : Nat
  meanInteraction : ℚ
  ciLower : ℚ
  ciUpper : ℚ
  positiveCells : Nat
  synergy : Bool
  meanGainI : ℚ
  meanGainJ : ℚ
  meanGainIj : ℚ

structure InteractionReport where
  rows : List InteractionRow
  cells : Nat
  pairs : List PairReport
  synergisticPairs : List String
  synergisticCount : Nat
  meanInteractionAll : ℚ
  conclusion : String

def meanOf (rows : List InteractionRow) (value : InteractionRow → Int) : ℚ :=
  GroupedMean.mean (rows.map fun row => (value row : ℚ))

def pairRows (rows : List InteractionRow) (pair : String × String) : List InteractionRow :=
  rows.filter fun row => row.pair = pair ∨ row.pair = (pair.2, pair.1)

/-- The report of a pair of operators; none without rows for it. -/
def pairReport (draws : Draws) (rows : List InteractionRow) (pair : String × String) :
    Except StatisticsError (Option PairReport) := do
  let sub := pairRows rows pair
  match ← bootstrapCi (draws sub.length) GroupedMean.mean 2000
      (sub.map fun row => (row.interaction : ℚ)) with
  | none => return none
  | some ci => return some {
      name := pair.1 ++ "|" ++ pair.2
      cells := sub.length
      meanInteraction := ci.estimate
      ciLower := ci.lower
      ciUpper := ci.upper
      positiveCells := sub.countP (0 < ·.interaction)
      synergy := 0 < ci.lower
      meanGainI := meanOf sub (·.gainI)
      meanGainJ := meanOf sub (·.gainJ)
      meanGainIj := meanOf sub (·.gainIj) }

def analyzeD (draws : Draws) : Except StatisticsError InteractionReport := do
  let rows := sweep.designs.map sweep.interactionRow
  let reports ← (Epistasis.pairs allOperatorIds).mapM (pairReport draws rows)
  let pairs := reports.filterMap id
  let synergistic := (pairs.filter (·.synergy)).map (·.name)
  return {
    rows
    cells := rows.length
    pairs
    synergisticPairs := synergistic
    synergisticCount := synergistic.length
    meanInteractionAll := meanOf rows (·.interaction)
    conclusion := if synergistic = [] then "additive_only" else "epistasis_present" }

/-- `round(value, 3)`. -/
def roundThousandths (value : ℚ) : ℚ :=
  let below := (value * 1000).floor
  let rest := value * 1000 - below
  (if rest < 1 / 2 then below else if 1 / 2 < rest then below + 1 else below + below % 2 : Int) /
    1000

/-- The gains of a task under one operator, over the seeds whose cell is there. -/
def gains (operator : String) (task : TaskSpec Records Output) : List Int :=
  sweep.seeds.filterMap fun seed =>
    let best := sweep.best task seed [operator]
    if 0 ≤ best then some (best - sweep.initial task) else none

def meanGains (operator : String) : List ℚ :=
  sweep.tasks.filterMap fun task =>
    let gains := sweep.gains operator task
    if gains = [] then none else some (GroupedMean.mean (gains.map fun gain => (gain : ℚ)))

def runningSums (start : ℚ) : List ℚ → List ℚ
  | [] => []
  | value :: rest => (start + value) :: runningSums (start + value) rest

structure OperatorReport where
  operator : String
  tasksObserved : Nat
  perTaskGain : List ℚ
  cumulativeGain : List ℚ
  finalCumulativeGain : ℚ
  changepoint : Changepoint

def operatorReport (draws : Draws) (operator : String) : OperatorReport :=
  let perTask := sweep.meanGains operator
  let cumulative := runningSums 0 perTask
  { operator
    tasksObserved := perTask.length
    perTaskGain := perTask.map roundThousandths
    cumulativeGain := cumulative.map roundThousandths
    finalCumulativeGain := cumulative.getLastD 0
    changepoint := changepointCumulative (draws cumulative.length) 500 cumulative }

structure ThresholdReport where
  operators : List OperatorReport
  crossTaskThresholds : List (String × Nat)
  conclusion : String

/-- The index of a change point that is supported. -/
def threshold? (report : OperatorReport) : Option (String × Nat) :=
  match report.changepoint with
  | .supported index _ _ _ _ _ => some (report.operator, index)
  | .unsupported _ => none

def analyzeE (draws : Draws) : ThresholdReport :=
  let operators := allOperatorIds.map (sweep.operatorReport draws)
  let thresholds := operators.filterMap threshold?
  { operators
    crossTaskThresholds := thresholds
    conclusion := if thresholds = [] then "linear_accumulation_no_threshold"
      else "threshold_detected" }

/-- The gains of a task with the seeds left out whose cell is missing. -/
def observedGains (operator : String) (task : TaskSpec Records Output) : List Int :=
  sweep.seeds.filterMap fun seed =>
    (sweep.cell? task seed [operator]).map fun result =>
      (result.bestPassed : Int) - sweep.initial task

theorem gains_eq (operator : String) (task : TaskSpec Records Output) :
    sweep.gains operator task = sweep.observedGains operator task := by
  refine List.filterMap_congr fun seed _ => ?_
  cases hcell : sweep.cell? task seed [operator] with
  | none => simp only [sweep.best_of_none hcell]; rfl
  | some result =>
    simp only [sweep.best_of_some hcell, Option.map_some]
    exact if_pos (Int.natCast_nonneg _)

/-- A task has a cell under the operator alone. -/
def observed (operator : String) (task : TaskSpec Records Output) : Bool :=
  sweep.seeds.any fun seed => (sweep.cell? task seed [operator]).isSome

/-- How many tasks have one. -/
def observedCount (operator : String) : Nat := sweep.tasks.countP (sweep.observed operator)

theorem gains_eq_nil_iff (operator : String) (task : TaskSpec Records Output) :
    sweep.gains operator task = [] ↔ sweep.observed operator task = false := by
  rw [gains_eq, observedGains, List.filterMap_eq_nil_iff, observed, List.any_eq_false]
  refine forall₂_congr fun seed _ => ?_
  rw [Option.map_eq_none_iff, Bool.not_eq_true, Option.isSome_eq_false_iff,
    Option.isNone_iff_eq_none]

theorem length_meanGains (operator : String) :
    (sweep.meanGains operator).length = sweep.observedCount operator := by
  rw [meanGains, Statistics.length_filterMap, observedCount]
  refine List.countP_congr fun task _ => ?_
  by_cases hgains : sweep.gains operator task = []
  · rw [if_pos hgains, (sweep.gains_eq_nil_iff operator task).mp hgains]
    rfl
  · rw [if_neg hgains]
    have hobserved : sweep.observed operator task = true := by
      rw [← Bool.not_eq_false]
      exact fun h => hgains ((sweep.gains_eq_nil_iff operator task).mpr h)
    rw [hobserved]
    exact iff_of_true rfl rfl

theorem length_runningSums (start : ℚ) (values : List ℚ) :
    (runningSums start values).length = values.length := by
  induction values generalizing start with
  | nil => rfl
  | cons value rest ih => rw [runningSums, List.length_cons, ih, List.length_cons]

theorem threshold?_eq_none_iff (draws : Draws) (operator : String) :
    threshold? (sweep.operatorReport draws operator) = none ↔
      sweep.observedCount operator < 3 := by
  rw [threshold?, operatorReport, changepointCumulative]
  simp only [length_runningSums, length_meanGains]
  by_cases hfew : sweep.observedCount operator < 3
  · rw [if_pos hfew]
    exact iff_of_true rfl hfew
  · rw [if_neg hfew]
    exact iff_of_false (by simp) hfew

theorem conclusion_iff (draws : Draws) :
    (sweep.analyzeE draws).conclusion ≠ "threshold_detected" ↔
      ∀ operator ∈ allOperatorIds, sweep.observedCount operator < 3 := by
  have hthresholds : (allOperatorIds.map (sweep.operatorReport draws)).filterMap threshold? = [] ↔
      ∀ operator ∈ allOperatorIds, sweep.observedCount operator < 3 := by
    rw [List.filterMap_map, List.filterMap_eq_nil_iff]
    exact forall₂_congr fun operator _ => sweep.threshold?_eq_none_iff draws operator
  rw [← hthresholds, analyzeE]
  dsimp only
  by_cases hnone : (allOperatorIds.map (sweep.operatorReport draws)).filterMap threshold? = []
  · rw [if_pos hnone]
    exact iff_of_true (by decide) hnone
  · rw [if_neg hnone]
    exact iff_of_false (fun h => h rfl) hnone

/-- All four cells of the point are there. -/
def complete (design : Design Records Output) : Bool :=
  design.sets.all fun ids => (sweep.cell? design.task design.seed ids).isSome

theorem pairReport_ok (draws : Draws) (rows : List InteractionRow) (pair : String × String) :
    ∃ report, pairReport draws rows pair = .ok report := by
  obtain ⟨interval, hinterval, -⟩ := bootstrapCi_ok (draws (pairRows rows pair).length)
    GroupedMean.mean (by omega : 0 < 2000)
    ((pairRows rows pair).map fun row => (row.interaction : ℚ))
  rw [pairReport]
  simp only [hinterval]
  cases interval with
  | none => exact ⟨_, rfl⟩
  | some ci => exact ⟨_, rfl⟩

theorem analyzeD_ok (draws : Draws) :
    ∃ report, sweep.analyzeD draws = .ok report ∧
      report.rows = sweep.designs.map sweep.interactionRow := by
  obtain ⟨reports, hreports⟩ := mapM_ok_of_forall
    fun pair (_ : pair ∈ Epistasis.pairs allOperatorIds) =>
      pairReport_ok draws (sweep.designs.map sweep.interactionRow) pair
  rw [analyzeD]
  simp only [hreports]
  exact ⟨_, rfl, rfl⟩

/-- The rows of `analyze_D` and the gains of `analyze_E` are those that are left when the
points and seeds with a missing cell are left out. -/
def MissingOmitted (draws : Draws) : Prop :=
  (∀ report, sweep.analyzeD draws = .ok report →
      report.rows = (sweep.designs.filter sweep.complete).map sweep.interactionRow) ∧
    ∀ operator ∈ allOperatorIds, ∀ task ∈ sweep.tasks,
      sweep.gains operator task = sweep.observedGains operator task

theorem missingOmitted_iff (draws : Draws) :
    sweep.MissingOmitted draws ↔ ∀ design ∈ sweep.designs, sweep.complete design = true := by
  obtain ⟨report, hreport, hrows⟩ := sweep.analyzeD_ok draws
  constructor
  · rintro ⟨hall, -⟩
    have hlength := congrArg List.length (hall report hreport)
    rw [hrows, List.length_map, List.length_map] at hlength
    exact List.length_filter_eq_length_iff.mp hlength.symm
  · intro hcomplete
    refine ⟨fun other hother => ?_, fun operator _ task _ => sweep.gains_eq operator task⟩
    obtain rfl := Except.ok.inj (hreport.symm.trans hother)
    rw [hrows, List.filter_eq_self.mpr hcomplete]

/-- The gain of a task is the same under every set of operators. -/
def ConstantGains : Prop :=
  ∀ task ∈ sweep.tasks, ∃ gain : Int, ∀ seed ∈ sweep.seeds, ∀ ids result,
    sweep.cell? task seed ids = some result →
      (result.bestPassed : Int) - sweep.initial task = gain

/-- No threshold is reported and missing cells are left out exactly when fewer than three tasks
were observed under each operator and no point of the design lacks a cell. -/
theorem threshold_detection_iff (draws : Draws) :
    ((sweep.analyzeE draws).conclusion ≠ "threshold_detected" ∧ sweep.MissingOmitted draws) ↔
      (∀ operator ∈ allOperatorIds, sweep.observedCount operator < 3) ∧
        ∀ design ∈ sweep.designs, sweep.complete design = true := by
  rw [conclusion_iff, missingOmitted_iff]

end Sweep

def allSubsets : List (List String) :=
  (List.range (allOperatorIds.length + 1)).flatMap fun r =>
    (combinations r allOperatorIds).map sortedIds

/-- A runtime in which no program loads, so that no initial program passes a case. -/
def emptySandbox : Sandbox Unit Unit where
  load _ := none
  dump _ := none
  transform operatorId source _ := ⟨operatorId, source, false, false, none⟩

def plainTask (taskId : String) : TaskSpec Unit Unit where
  taskId := taskId
  taskFamily := "plain"
  schema := ⟨"account", "value", "state", "settled", none, none, 2⟩
  initialSource := ""
  publicCases := []
  holdoutCases := []
  mechanisms := ["status", "amount"]
  distinct_ids := List.nodup_nil

def plainTasks : List (TaskSpec Unit Unit) := ["first", "second", "third"].map plainTask

/-- One more case passed than at the start. -/
def gainedCell (taskId : String) (ids : List String) : CellResult where
  taskId := taskId
  seed := 0
  operatorIds := ids
  mode := "deterministic"
  budget := 8
  initialPassed := 0
  bestSource := ""
  bestPassed := 1
  bestHoldout := 0
  acceptedCount := 1
  improvedCount := 1
  noOpCount := 0
  invalidCount := 0
  events := []

def gainedCells : List CellResult :=
  plainTasks.flatMap fun task => allSubsets.map (gainedCell task.taskId)

/-- `cell_key` of a result. -/
def keyOf (cell : CellResult) : String :=
  cellKey cell.taskId cell.seed cell.operatorIds cell.mode cell.budget

/-- Every set of operators gains one case in every task. -/
def plainSweep : Sweep Unit Unit where
  sandbox := emptySandbox
  tasks := plainTasks
  results := gainedCells.foldl (fun results cell => results.set (keyOf cell) cell) Dict.empty
  seeds := [0]
  budget := 8
  mode := "deterministic"

theorem bestPassed_of_gained {cell : CellResult} (h : cell ∈ gainedCells) :
    cell.bestPassed = 1 := by
  obtain ⟨task, -, hcell⟩ := List.mem_flatMap.mp h
  obtain ⟨ids, -, rfl⟩ := List.mem_map.mp hcell
  rfl

theorem constantGains_plain : plainSweep.ConstantGains := by
  intro task htask
  refine ⟨1, fun seed _ ids result hresult => ?_⟩
  have hvalue : result ∈ plainSweep.results.values :=
    (Dict.mem_values_iff _ result).mpr ⟨_, hresult⟩
  rcases Dict.mem_values_foldl_set keyOf hvalue with hgained | hempty
  · rw [bestPassed_of_gained hgained]
    obtain ⟨taskId, -, rfl⟩ := List.mem_map.mp htask
    rfl
  · cases hempty

theorem observed_plain {task : TaskSpec Unit Unit} (h : task ∈ plainTasks) :
    plainSweep.observed "canonicalize_status" task = true := by
  have hcell : gainedCell task.taskId ["canonicalize_status"] ∈ gainedCells := by
    refine List.mem_flatMap.mpr ⟨task, h, List.mem_map.mpr ⟨["canonicalize_status"], ?_, rfl⟩⟩
    decide
  rw [Sweep.observed]
  refine List.any_eq_true.mpr ⟨0, List.mem_singleton_self 0, ?_⟩
  exact Dict.isSome_get?_foldl_set keyOf (Or.inr ⟨_, hcell, rfl⟩)

/-- The gains of three tasks add up in a straight line, and a threshold is reported. -/
theorem straight_line_threshold :
    ¬∀ (sweep : Sweep Unit Unit) (draws : Draws), sweep.ConstantGains → 3 ≤ sweep.tasks.length →
      (sweep.analyzeE draws).conclusion ≠ "threshold_detected" ∧ sweep.MissingOmitted draws := by
  intro hall
  obtain ⟨hconclusion, -⟩ := hall plainSweep (fun _ _ _ => 0) constantGains_plain (by decide)
  have hcount : plainSweep.observedCount "canonicalize_status" = plainTasks.length :=
    List.countP_eq_length.mpr fun task htask => observed_plain htask
  have hthree : plainTasks.length = 3 := rfl
  have hfew := (plainSweep.conclusion_iff _).mp hconclusion "canonicalize_status" (by decide)
  omega

end JlensEvolve.Epistasis
