import JlensEvolve.SkillLoop.ExperimentCells

/-!
The calls of `PairedExperimentRunner.run` in `experiment.py`. A call goes through
the cells in order, and it may die in the freeze of any cell. The metrics of a
summary, all computed from its reports, are not spelled out.
-/

namespace JlensEvolve.SkillLoop

open Library Contracts

structure RunOptions where
  taskIds : Option (List String)
  conditionIds : Option (List String)
  futilityMinCells : Option Nat
  futilityMinRate : ℚ

structure RunCall where
  maxCells : Option Nat
  /-- The process dies in the freeze of the cell of this number. -/
  crash : Option (Nat × FreezePoint)
  /-- What `mkdtemp` appends. -/
  suffix : Nat → String

/-- One call that nothing cuts short. -/
def RunCall.unlimited : RunCall := ⟨none, none, fun _ => "k3x0_v2a"⟩

/-- `task_ids or known_tasks`. -/
def eligible (filter : Option (List String)) (name : String) : Bool :=
  match filter with
  | none | some [] => true
  | some names => name ∈ names

inductive RunEnding where
  | finished (summary : Summary)
  | raised (error : String)
  | crashed (cell : Cell) (point : FreezePoint)

structure RunState extends ExperimentRoot where
  stopped : Dict String StoppedMechanism
  executed : Nat

section Run

variable (rounded : ℚ → ℚ) (runner : PairedExperimentRunner) (options : RunOptions)

def RunOptions.check : Except String Unit := do
  require (∀ ids ∈ options.taskIds, ∀ id ∈ ids,
    id ∈ runner.taskset.tasks.map EvaluationTask.taskId) "unknown experiment task filter"
  require (∀ ids ∈ options.conditionIds, ∀ id ∈ ids,
    id ∈ runner.conditions.map ExperimentCondition.conditionId)
    "unknown experiment condition filter"
  require (∀ minimum ∈ options.futilityMinCells, 2 ≤ minimum)
    "futility smoke window must contain at least two cells"
  require (0 ≤ options.futilityMinRate ∧ options.futilityMinRate ≤ 1)
    "futility structural rate must be between zero and one"
  runner.preflight

/-- The cells that the futility gate of a mechanism counts if they are there. -/
def countedCells (mechanism : String) : List Cell :=
  runner.cells.filter fun cell => cell.2.mechanism = mechanism &&
    eligible options.taskIds cell.1.taskId && eligible options.conditionIds cell.2.conditionId

/-- The reports of those of the cells that are there. -/
def loadCells (evidence : CellEvidence) (cells : List Cell) : Except String (List CellReport) :=
  (cells.filter (cellExists evidence)).mapM (loadCell runner evidence)

/-- Why a mechanism with these reports is stopped. -/
def futility (minimumCells : Nat) (reports : List CellReport) : Option StoppedMechanism :=
  if reports.length < minimumCells then none
  else
    let structural := reports.countP fun report => report.structuralValid
    let structuralRate := rate rounded structural reports.length
    if structuralRate < options.futilityMinRate then
      some ⟨reports.length, structural, structuralRate⟩
    else none

/-- `_apply_futility_gate`, when there is a smoke window. -/
def applyFutilityGate (evidence : CellEvidence) (mechanism : String)
    (stopped : Dict String StoppedMechanism) : Except String (Dict String StoppedMechanism) :=
  match options.futilityMinCells with
  | none => .ok stopped
  | some minimumCells => do
      let reports ← loadCells runner evidence (countedCells runner options mechanism)
      match futility rounded options minimumCells reports with
      | none => pure stopped
      | some reason => pure (stopped.set mechanism reason)

def mechanisms : List String :=
  (runner.conditions.map ExperimentCondition.mechanism).dedup.insertionSort (· ≤ ·)

/-- The gates before the first cell. -/
def startGates (evidence : CellEvidence) : Except String (Dict String StoppedMechanism) :=
  (mechanisms runner).foldlM (fun stopped mechanism =>
    applyFutilityGate rounded runner options evidence mechanism stopped) Dict.empty

def summarize (evidence : CellEvidence) (stopped : Dict String StoppedMechanism) :
    Except String Summary := do
  let reports ← loadCells runner evidence runner.cells
  pure {
    plannedCells := runner.cells.length
    reports
    stoppedMechanisms :=
      stopped.entries.insertionSort fun first second => first.1 ≤ second.1 }

/-- `_write_summary`: a complete summary is written once. -/
def writeSummary (existing : Option Summary) (summary : Summary) :
    Except String (Option Summary) :=
  if summary.complete then
    match existing with
    | none => .ok (some summary)
    | some other =>
      if other = summary then .ok existing
      else .error "frozen experiment summary does not match evidence"
  else .ok existing

/-- What follows a freeze: the gate of the mechanism and the progress. -/
def afterFreeze (cell : Cell) (state : RunState) : Except (RunEnding × RunState) RunState :=
  match applyFutilityGate rounded runner options state.evidence cell.2.mechanism state.stopped with
  | .error error => .error (.raised error, state)
  | .ok stopped =>
    match summarize runner state.evidence stopped with
    | .error error => .error (.raised error, { state with stopped })
    | .ok summary =>
      match writeSummary state.summary summary with
      | .error error => .error (.raised error, { state with stopped })
      | .ok kept => .ok { state with stopped, summary := kept }

def RunCall.crashIn (call : RunCall) (executed : Nat) : Option FreezePoint :=
  call.crash.bind fun crash => if crash.1 = executed then some crash.2 else none

/-- A cell of the run that is not there yet. -/
def executeCell (call : RunCall) (cell : Cell) (state : RunState) :
    Except (RunEnding × RunState) RunState :=
  match makeCell runner state.evidence cell with
  | (.error error, evidence) => .error (.raised error, { state with evidence })
  | (.ok made, evidence) =>
    let suffix := call.suffix state.executed
    match call.crashIn state.executed with
    | some point => .error (.crashed cell point, { state with
        evidence := interruptFreeze runner evidence cell made suffix point
        executed := if point = .renamed then state.executed + 1 else state.executed })
    | none =>
      match freezeCell runner evidence cell made suffix with
      | (.error error, evidence) => .error (.raised error, { state with evidence })
      | (.ok _, evidence) =>
        afterFreeze rounded runner options cell
          { state with evidence, executed := state.executed + 1 }

/-- Whether the filters leave the cell to the run. -/
def selected (cell : Cell) : Bool :=
  options.taskIds.all (fun ids => cell.1.taskId ∈ ids) &&
    options.conditionIds.all fun ids => cell.2.conditionId ∈ ids

/-- The loop over the cells and what follows it. -/
def runCells (call : RunCall) : List Cell → RunState → RunEnding × RunState
  | [], state =>
    match summarize runner state.evidence state.stopped with
    | .error error => (.raised error, state)
    | .ok summary =>
      match writeSummary state.summary summary with
      | .error error => (.raised error, state)
      | .ok kept => (.finished summary, { state with summary := kept })
  | cell :: rest, state =>
    if !selected options cell || (state.stopped.get? cell.2.mechanism).isSome then
      runCells call rest state
    else if cellExists state.evidence cell then
      match loadCell runner state.evidence cell with
      | .error error => (.raised error, state)
      | .ok _ => runCells call rest state
    else if call.maxCells.any (· ≤ state.executed) then runCells call rest state
    else
      match executeCell rounded runner options call cell state with
      | .error ended => ended
      | .ok state => runCells call rest state

/-- `run`. -/
def runExperiment (call : RunCall) (root : ExperimentRoot) : RunEnding × RunState :=
  let start : RunState := ⟨root, Dict.empty, 0⟩
  if call.maxCells = some 0 then (.raised "max_cells must be a positive integer", start)
  else
    match options.check runner with
    | .error error => (.raised error, start)
    | .ok () =>
      match startGates rounded runner options root.evidence with
      | .error error => (.raised error, start)
      | .ok stopped => runCells rounded runner options call runner.cells { start with stopped }

def rootAfter (root : ExperimentRoot) (calls : List RunCall) : ExperimentRoot :=
  Library.run (fun root call => (runExperiment rounded runner options call root).2.toExperimentRoot)
    root calls

end Run

end JlensEvolve.SkillLoop
