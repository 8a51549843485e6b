import JlensEvolve.Epistasis.Search

/-!
The cell plan of one task and seed, its execution with a set of cells to skip,
and the analysis of pairs of operators.
-/

namespace JlensEvolve.Epistasis

open Library

variable {Records Output : Type}

/-- `itertools.combinations(items, 2)`. -/
def pairs {α : Type} : List α → List (α × α)
  | [] => []
  | item :: rest => rest.map (item, ·) ++ pairs rest

/-- `itertools.combinations(items, r)`. -/
def combinations {α : Type} : Nat → List α → List (List α)
  | 0, _ => [[]]
  | _ + 1, [] => []
  | r + 1, item :: rest => (combinations r rest).map (item :: ·) ++ combinations (r + 1) rest

/-- `tuple(sorted(ids))`. -/
def sortedIds (ids : List String) : List String := ids.insertionSort (· ≤ ·)

def mechanismsToOperators (mechanisms : List String) : List String :=
  mechanisms.filterMap fun mechanism => operatorByMechanism.lookup mechanism

structure CellSpec where
  kind : String
  operatorIds : List String
  lineage : Bool
deriving DecidableEq

def planCellSpecs (task : TaskSpec Records Output) : List CellSpec :=
  let taskOps := mechanismsToOperators task.mechanisms
  let subsets := (List.range (allOperatorIds.length + 1)).flatMap fun r =>
    (combinations r allOperatorIds).map fun subset => (⟨"B", sortedIds subset, false⟩ : CellSpec)
  let orders := (pairs taskOps).flatMap fun pair =>
    [(⟨"A", [pair.1, pair.2], false⟩ : CellSpec), ⟨"A", [pair.2, pair.1], false⟩]
  let lineage := if taskOps = [] then [] else [(⟨"C", taskOps, true⟩ : CellSpec)]
  subsets ++ orders ++ lineage

/-- `dedupe_specs`, `seen` holding the keys met so far. -/
def dedupeFrom : List (List String × Bool) → List CellSpec → List CellSpec
  | _, [] => []
  | seen, spec :: rest =>
    if (spec.operatorIds, spec.lineage) ∈ seen then dedupeFrom seen rest
    else spec :: dedupeFrom ((spec.operatorIds, spec.lineage) :: seen) rest

def dedupeSpecs (specs : List CellSpec) : List CellSpec := dedupeFrom [] specs

/-- A model whose answer depends on the prompt alone. -/
structure Transport where
  modelId : String
  complete : String → String

/-- The parameters of a run that a cell belongs to. The mode of a lineage cell
is `lineage`. -/
structure CellConfig (Records Output : Type) where
  task : TaskSpec Records Output
  seed : Int
  operatorIds : List String
  mode : String
  budget : Int
  llmStyle : String
  model : Option Transport

namespace CellConfig

variable (config : CellConfig Records Output)

/-- The key that `run_cell_plan` looks up. -/
def key : String :=
  cellKey config.task.taskId config.seed config.operatorIds config.mode config.budget

def lineageCall : LineageCall Records Output :=
  ⟨config.task, config.operatorIds, config.seed, config.budget, true⟩

def cellCall : CellCall Records Output :=
  { task := config.task
    operatorIds := config.operatorIds
    seed := config.seed
    budget := config.budget
    mode := config.mode
    model := config.model.map fun transport _ prompt => transport.complete prompt
    targetFailure := none
    trackHoldout := true
    llmStyle := config.llmStyle }

def run [BEq Output] (sandbox : Sandbox Records Output) : Except SearchError CellResult :=
  if config.mode = "lineage" then config.lineageCall.runLineageCell sandbox
  else config.cellCall.runCell sandbox

end CellConfig

/-- The arguments of `run_cell_plan`, the skip set apart. -/
structure PlanArgs (Records Output : Type) where
  task : TaskSpec Records Output
  seed : Int
  budget : Int
  mode : String
  llmStyle : String
  model : Option Transport

namespace PlanArgs

variable (args : PlanArgs Records Output)

def config (spec : CellSpec) : CellConfig Records Output :=
  ⟨args.task, args.seed, spec.operatorIds, if spec.lineage then "lineage" else args.mode,
    args.budget, args.llmStyle, args.model⟩

/-- The cells of the plan, in the order they are run. -/
def planned : List (CellConfig Records Output) :=
  (dedupeSpecs (planCellSpecs args.task)).map args.config

end PlanArgs

/-- The loop of `run_cell_plan`: cells whose key is in the skip set are passed
over. -/
def runCells [BEq Output] (sandbox : Sandbox Records Output) (skipExisting : List String) :
    List (CellConfig Records Output) → Dict String CellResult →
      Except SearchError (Dict String CellResult)
  | [], results => .ok results
  | config :: rest, results =>
    if config.key ∈ skipExisting then runCells sandbox skipExisting rest results
    else do
      let result ← config.run sandbox
      runCells sandbox skipExisting rest (results.set config.key result)

def runCellPlan [BEq Output] (sandbox : Sandbox Records Output) (skipExisting : List String)
    (args : PlanArgs Records Output) : Except SearchError (Dict String CellResult) :=
  runCells sandbox skipExisting args.planned Dict.empty

def initialPassed [BEq Output] (sandbox : Sandbox Records Output) (task : TaskSpec Records Output) :
    Int :=
  (task.scoreSource sandbox task.initialSource).passedCases

/-- `_best_passed` of a cell that is not a lineage cell. -/
def bestPassed (results : Dict String CellResult) (taskId : String) (seed : Int)
    (ids : List String) (budget : Int) (mode : String) : Int :=
  match results.get? (cellKey taskId seed ids mode budget) with
  | some result => result.bestPassed
  | none => -1

structure PairRow where
  taskId : String
  seed : Int
  pair : String × String
  initial : Int
  singleI : Int
  singleJ : Int
  bestSingle : Int
  composedAb : Int
  composedBa : Int
  composed : Int
  orderSensitive : Bool
  deltaOverBest : Int
  deltaOverAdditive : Int

/-- The body of the loops of `analyze_A`. -/
def pairRow [BEq Output] (sandbox : Sandbox Records Output) (results : Dict String CellResult)
    (budget : Int) (mode : String) (task : TaskSpec Records Output) (seed : Int)
    (pair : String × String) : PairRow :=
  let best ids := bestPassed results task.taskId seed ids budget mode
  let initial := initialPassed sandbox task
  let singleI := best [pair.1]
  let singleJ := best [pair.2]
  let composedAb := best (sortedIds [pair.1, pair.2])
  let composedBa := best (sortedIds [pair.2, pair.1])
  let composed := max composedAb composedBa
  let additivePrediction := initial + (singleI - initial) + (singleJ - initial)
  { taskId := task.taskId
    seed
    pair
    initial
    singleI
    singleJ
    bestSingle := max singleI singleJ
    composedAb
    composedBa
    composed
    orderSensitive := composedAb ≠ composedBa
    deltaOverBest := composed - max singleI singleJ
    deltaOverAdditive := composed - additivePrediction }

/-- The counts that `analyze_A` reports beside its rows; the statistics that are
floats are left out. -/
structure CompositionReport where
  rows : List PairRow
  cells : Nat
  wins : Nat
  losses : Nat
  ties : Nat
  synergyCells : Nat
  orderSensitiveCells : Nat

def analyzeA [BEq Output] (sandbox : Sandbox Records Output) (tasks : List (TaskSpec Records Output))
    (results : Dict String CellResult) (seeds : List Int) (budget : Int) (mode : String) :
    CompositionReport :=
  let rows := tasks.flatMap fun task =>
    (pairs (mechanismsToOperators task.mechanisms)).flatMap fun pair =>
      seeds.map fun seed => pairRow sandbox results budget mode task seed pair
  { rows
    cells := rows.length
    wins := rows.countP (0 < ·.deltaOverBest)
    losses := rows.countP (·.deltaOverBest < 0)
    ties := rows.countP (·.deltaOverBest = 0)
    synergyCells := rows.countP (0 < ·.deltaOverAdditive)
    orderSensitiveCells := rows.countP (·.orderSensitive) }

end JlensEvolve.Epistasis
