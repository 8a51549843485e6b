import JlensEvolve.SkillLoop.PairedExperiment

/-!
`compose_experiment_evidence` of `composition.py`. It takes the cells of a task
from every folder below the task's that holds an `ATTEMPT.json`, whatever the
folder is called. The metrics of the report, all computed from its cells, are not
spelled out.
-/

namespace JlensEvolve.SkillLoop

open Library Contracts

/-- The records by the task, with their fingerprints. -/
structure TargetSelection where
  records : List (String × String)
  fingerprint : String

structure EvidenceSource where
  cohort : Cohort
  experimentRoot : String
  taskset : EvaluationTaskSet
  selection : TargetSelection

structure ComposedCell where
  taskId : String
  conditionId : String
  evidenceSha256 : String
  /-- The folder that holds the attempt. -/
  attemptFolder : String × String × String
  structuralValid : Bool
  failureReason : Option String
deriving DecidableEq

def ComposedCell.key (cell : ComposedCell) : String × String := (cell.taskId, cell.conditionId)

/-- The order of the pairs of task and condition. -/
def ComposedCell.sortsBefore (first second : ComposedCell) : Bool :=
  first.taskId < second.taskId ||
    first.taskId = second.taskId && decide (first.conditionId ≤ second.conditionId)

structure SourceRow where
  cohort : Cohort
  experimentRoot : String
  tasksetId : String
  tasksetFingerprint : String
  qualificationFingerprint : String
  cellCount : Nat
deriving DecidableEq

structure Composition where
  tasksetId : String
  tasksetFingerprint : String
  qualificationFingerprint : String
  conditionFingerprints : List (String × String)
  plannedCells : Nat
  sources : List SourceRow
  cells : List ComposedCell
deriving DecidableEq

structure Gathered where
  conditionFingerprints : Dict String String
  cells : List ComposedCell
  sources : List SourceRow

def Gathered.empty : Gathered := ⟨Dict.empty, [], []⟩

def loadFrozenAttempt (folder : CellFolder) : Except String CellReport :=
  match folder.attempt with
  | some (.whole report) => do
      require (report.evidenceSha256 = report.toCellContent.sha256)
        "composition attempt evidence sha256 mismatch"
      checkArtifacts folder.files report.artifactSha256 "composition artifact sha256 mismatch"
      pure report
  | _ => .error "composition attempt evidence is unreadable"

/-- `sorted(task_root.glob("*/ATTEMPT.json"))`. What a condition called `.` froze
lies in the folder of the task itself. -/
def attemptsOf (evidence : CellEvidence) (taskId : String) : List (String × CellFolder) :=
  (((evidence.cells.entries ++ evidence.leftovers.entries).filter fun entry =>
    entry.1.1 = taskId && !dotted entry.1.2 && entry.2.attempt.isSome).map fun entry =>
      (entry.1.2, entry.2)).insertionSort fun first second => first.1 ≤ second.1

section Compose

variable (roots : String → CellEvidence) (taskset : EvaluationTaskSet)
  (selection : TargetSelection)

def readAttempt (source : EvidenceSource) (task : EvaluationTask) (attempt : String × CellFolder)
    (gathered : Gathered) : Except String Gathered := do
  let report ← loadFrozenAttempt attempt.2
  let existing := (gathered.conditionFingerprints.get? report.conditionId).getD
    report.conditionFingerprint
  require (existing = report.conditionFingerprint) "composition condition fingerprint mismatch"
  require (report.tasksetFingerprint = source.taskset.fingerprint)
    "composition source taskset fingerprint mismatch"
  require (report.qualificationFingerprint = some source.selection.fingerprint)
    "composition source qualification fingerprint mismatch"
  require (report.taskFingerprint = task.fingerprint)
    "composition attempt task fingerprint mismatch"
  require (report.networkCallsPerformed = false) "composition accepts offline evidence only"
  pure { gathered with
    conditionFingerprints := gathered.conditionFingerprints.set report.conditionId existing
    cells := gathered.cells ++ [{
      taskId := task.taskId
      conditionId := report.conditionId
      evidenceSha256 := report.evidenceSha256
      attemptFolder := (source.experimentRoot, task.taskId, attempt.1)
      structuralValid := report.structuralValid
      failureReason := report.failureReason }] }

def readAttempts (source : EvidenceSource) (task : EvaluationTask) :
    List (String × CellFolder) → Gathered → Except String Gathered
  | [], gathered => .ok gathered
  | attempt :: rest, gathered => do
      let gathered ← readAttempt source task attempt gathered
      readAttempts source task rest gathered

def readTasks (source : EvidenceSource) : List EvaluationTask → Gathered → Except String Gathered
  | [], gathered => .ok gathered
  | task :: rest, gathered => do
      let evidence := roots source.experimentRoot
      require (task.taskId ∈ evidence.taskFolders) "composition source task evidence is missing"
      let attempts := attemptsOf evidence task.taskId
      require (attempts.length ≠ 0) "composition source has no condition evidence"
      let gathered ← readAttempts source task attempts gathered
      readTasks source rest gathered

def cohortTasks (cohort : Cohort) : List EvaluationTask :=
  (taskset.tasks.filter fun task => task.cohort = cohort).insertionSort
    fun first second => first.taskId ≤ second.taskId

/-- The source knows the task as the composition does. -/
def checkTask (source : EvidenceSource) (task : EvaluationTask) : Except String Unit := do
  let sourceTask := source.taskset.tasks.find? fun other => other.taskId = task.taskId
  let record (records : List (String × String)) := (records.find? (·.1 = task.taskId)).map Prod.snd
  require (sourceTask.isSome ∧ (record source.selection.records).isSome)
    "composition source is missing a qualified task"
  require (sourceTask.map EvaluationTask.fingerprint = some task.fingerprint)
    "composition source task fingerprint mismatch"
  require (record source.selection.records = record selection.records)
    "composition source target selection fingerprint mismatch"

def readSource (source : EvidenceSource) (gathered : Gathered) : Except String Gathered := do
  let tasks := cohortTasks taskset source.cohort
  tasks.forM (checkTask selection source)
  let after ← readTasks roots source tasks gathered
  pure { after with
    sources := after.sources ++ [{
      cohort := source.cohort
      experimentRoot := source.experimentRoot
      tasksetId := source.taskset.tasksetId
      tasksetFingerprint := source.taskset.fingerprint
      qualificationFingerprint := source.selection.fingerprint
      cellCount := after.cells.length - gathered.cells.length }] }

def readSources : List EvidenceSource → Gathered → Except String Gathered
  | [], gathered => .ok gathered
  | source :: rest, gathered => do
      let gathered ← readSource roots taskset selection source gathered
      readSources rest gathered

/-- The sources in the order of the names of their cohorts. -/
def sortedSources (sources : List EvidenceSource) : List EvidenceSource :=
  (sources.filter fun source => source.cohort = .feedback) ++
    sources.filter fun source => source.cohort = .holdout

def expectedCells (conditionIds : List String) : List (String × String) :=
  taskset.tasks.flatMap fun task => conditionIds.map (task.taskId, ·)

/-- `compose_experiment_evidence`, with what is at the output path. -/
def composeExperimentEvidence (sources : List EvidenceSource) (existing : Option Composition) :
    Except String Composition := do
  require (sources.map EvidenceSource.cohort).Nodup "composition evidence cohorts must be unique"
  require ((∀ source ∈ sources, source.cohort ∈ taskset.tasks.map EvaluationTask.cohort) ∧
    ∀ task ∈ taskset.tasks, task.cohort ∈ sources.map EvidenceSource.cohort)
    "composition requires exactly one source per cohort"
  let gathered ← readSources roots taskset selection (sortedSources sources) Gathered.empty
  let expected := expectedCells taskset gathered.conditionFingerprints.keys
  let actual := gathered.cells.map ComposedCell.key
  require (actual.Nodup ∧ (∀ key ∈ actual, key ∈ expected) ∧ ∀ key ∈ expected, key ∈ actual)
    "composition cells are incomplete or duplicated"
  let report : Composition := {
    tasksetId := taskset.tasksetId
    tasksetFingerprint := taskset.fingerprint
    qualificationFingerprint := selection.fingerprint
    conditionFingerprints := gathered.conditionFingerprints.entries.insertionSort
      fun first second => first.1 ≤ second.1
    plannedCells := expected.dedup.length
    sources := gathered.sources
    cells := gathered.cells.insertionSort fun first second =>
      ComposedCell.sortsBefore first second = true }
  require (∀ other ∈ existing, other = report)
    "frozen composition output does not match evidence"
  pure report

end Compose

end JlensEvolve.SkillLoop
