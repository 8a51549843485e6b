import JlensEvolve.SkillLoop.Driver
import Mathlib.Data.List.Dedup

/-!
The cells of `PairedExperimentRunner` in `experiment.py`: every task under every
condition is a cell, and a cell that ran is a folder of the experiment root. A
freeze may die at any point. Contexts are kept by the task and the mechanism that
name their file, and an object is what its text decodes to.
-/

namespace JlensEvolve.SkillLoop

open Library Contracts

/-- `_IDENTIFIER.fullmatch(value) is not None` in `eval_manifest.py`. -/
def isEvaluationIdentifier (value : String) : Bool :=
  match value.toList with
  | [] => false
  | c :: rest =>
    c.isAlphanum && decide (rest.length ≤ 255) &&
      rest.all fun c => c.isAlphanum || c == '.' || c == '_' || c == '-'

/-- The fields that an experiment and its composition read. -/
structure EvaluationTask where
  taskId : String
  cohort : Cohort
  fingerprint : String
  id_valid : isEvaluationIdentifier taskId = true
deriving DecidableEq

structure EvaluationTaskSet where
  tasksetId : String
  tasks : List EvaluationTask
  fingerprint : String
  feedback : 3 ≤ tasks.countP fun task => task.cohort = .feedback
  holdout : 3 ≤ tasks.countP fun task => task.cohort = .holdout
  unique : (tasks.map EvaluationTask.taskId).Nodup

inductive TeachingArm where
  | baseline
  | taught
deriving DecidableEq

def isConditionId (value : String) : Bool :=
  value != "" && value.toList.all isIdentifierChar

structure ExperimentCondition where
  conditionId : String
  mechanism : String
  teaching : TeachingArm
  revision : LoopRevision
  fingerprint : String
  id_valid : isConditionId conditionId = true
  mechanism_valid : isText mechanism = true
deriving DecidableEq

abbrev Cell := EvaluationTask × ExperimentCondition

/-- The names of the folder of a cell below `cells`. -/
def Cell.key (cell : Cell) : String × String := (cell.1.taskId, cell.2.conditionId)

structure GenerationOutput where
  output : String
  prompt : Option String

/-- What `adapter.run` and the evidence of the adapter come to. -/
structure StudentRun where
  rawOutput : String
  patch : String
  structuralValid : Bool
  failureReason : Option String
  trace : List GenerationOutput
  realization : Option Json
  /-- The fields of the report that no check reads. -/
  details : List (String × Json)

def fileSha256 (text : String) : String := Sha256.hexdigest (Json.utf8 text)

def traceFiles (index : Nat) : List GenerationOutput → List (String × String)
  | [] => []
  | generation :: rest =>
    ("generation-output-" ++ pad3 index ++ ".txt", generation.output) ::
      (generation.prompt.toList.map fun prompt =>
        ("generation-prompt-" ++ pad3 index ++ ".txt", prompt)) ++ traceFiles (index + 1) rest

/-- The files of a cell but its report, in the order in which they are written. -/
def StudentRun.files (run : StudentRun) : List (String × String) :=
  [("raw-output.txt", run.rawOutput), ("patch.diff", run.patch)] ++ traceFiles 0 run.trace ++
    run.realization.toList.map fun evidence =>
      ("realization-selection.json", evidence.canonicalJson ++ "\n")

def writeFiles (files : List (String × String)) : Dict String String :=
  files.foldl (fun written file => written.set file.1 file.2) Dict.empty

structure SharedReference where
  taskId : String
  mechanism : String
  sha256 : String
  evidenceSha256 : Json
deriving DecidableEq

def SharedReference.toJson (reference : SharedReference) : Json :=
  .obj [("path", .str ("shared-contexts/" ++ reference.taskId ++ "/" ++ reference.mechanism ++
    ".json")), ("sha256", .str reference.sha256), ("evidence_sha256", reference.evidenceSha256)]

/-- The content of `ATTEMPT.json`. -/
structure CellContent where
  tasksetFingerprint : String
  taskFingerprint : String
  conditionId : String
  conditionFingerprint : String
  structuralValid : Bool
  failureReason : Option String
  artifactSha256 : List (String × String)
  details : List (String × Json)
  networkCallsPerformed : Bool
  sharedContext : Option SharedReference
  qualificationFingerprint : Option String
deriving DecidableEq

def CellContent.sha256 (content : CellContent) : String :=
  (Json.obj ([("schema_version", .int 1),
    ("taskset_fingerprint", .str content.tasksetFingerprint),
    ("task", .obj [("fingerprint", .str content.taskFingerprint)]),
    ("condition", .obj [("condition_id", .str content.conditionId),
      ("fingerprint", .str content.conditionFingerprint)]),
    ("attempt", .obj [("structural_valid", .bool content.structuralValid),
      ("failure_reason", optionText content.failureReason)]),
    ("artifact_sha256", .obj (content.artifactSha256.map fun file => (file.1, .str file.2))),
    ("network_calls_performed", .bool content.networkCallsPerformed)] ++ content.details ++
    (content.sharedContext.toList.map fun shared => ("shared_context", shared.toJson)) ++
    content.qualificationFingerprint.toList.map fun fingerprint =>
      ("qualification_fingerprint", .str fingerprint))).contentSha256

structure CellReport extends CellContent where
  evidenceSha256 : String
deriving DecidableEq

inductive AttemptFile where
  | cut
  | whole (report : CellReport)
deriving DecidableEq

structure CellFolder where
  files : Dict String String
  attempt : Option AttemptFile

structure ContextFile where
  text : String
  decoded : Option Json

structure StoppedMechanism where
  completedCells : Nat
  structuralValid : Nat
  structuralRate : ℚ
deriving DecidableEq

structure Summary where
  plannedCells : Nat
  reports : List CellReport
  stoppedMechanisms : List (String × StoppedMechanism)
deriving DecidableEq

def Summary.complete (summary : Summary) : Bool := summary.reports.length = summary.plannedCells

/-- `cells` and `shared-contexts` of an experiment root. -/
structure CellEvidence where
  cells : Dict (String × String) CellFolder
  /-- Folders under the temporary names that an unfinished freeze left. -/
  leftovers : Dict (String × String) CellFolder
  taskFolders : List String
  contexts : Dict (String × String) ContextFile

def CellEvidence.empty : CellEvidence := ⟨Dict.empty, Dict.empty, [], Dict.empty⟩

structure ExperimentRoot where
  evidence : CellEvidence
  summary : Option Summary

def CellEvidence.folder? (evidence : CellEvidence) (taskId name : String) : Option CellFolder :=
  (evidence.cells.get? (taskId, name)).or (evidence.leftovers.get? (taskId, name))

/-- Names that lead to the folder of the task or to the one above it. -/
def dotted (name : String) : Bool := name = "." || name = ".."

/-- `self._cell_path(task, condition).exists()`. -/
def cellExists (evidence : CellEvidence) (cell : Cell) : Bool :=
  if dotted cell.2.conditionId then cell.1.taskId ∈ evidence.taskFolders
  else (evidence.folder? cell.1.taskId cell.2.conditionId).isSome

structure StudentAdapter where
  prepareSharedContext : Option (EvaluationTask → LoopRevision → Except String Json)
  bindsSharedContext : Bool
  run : EvaluationTask → LoopRevision → Option Json → Except String StudentRun

structure PairedExperimentRunner where
  taskset : EvaluationTaskSet
  adapters : String → StudentAdapter
  conditions : List ExperimentCondition
  conditions_unique : (conditions.map ExperimentCondition.conditionId).Nodup
  qualificationFingerprint : Option String
  mechanismRoutes : Option (String → String)
  sharedContextSource : Dict (String × String) ContextFile
  /-- `self.taskset.preflight()`. -/
  preflight : Except String Unit
  /-- `materialize_evaluation_task` and `StudentTask.create`. -/
  checkout : EvaluationTask → Except String Unit

namespace PairedExperimentRunner

variable (runner : PairedExperimentRunner)

def conditionsForTask (task : EvaluationTask) : List ExperimentCondition :=
  match runner.mechanismRoutes with
  | none => runner.conditions
  | some route => runner.conditions.filter fun condition => condition.mechanism = route task.taskId

def cells : List Cell :=
  runner.taskset.tasks.flatMap fun task => (runner.conditionsForTask task).map (task, ·)

end PairedExperimentRunner

def validateSharedContext (evidence : Json) (taskId mechanism : String) : Except String Unit :=
  match evidence with
  | .obj fields => do
      require (fields ≠ []) "shared context evidence must be an object"
      require (payloadGet fields "evidence_sha256" =
        .str (Json.obj (fields.filter (·.1 ≠ "evidence_sha256"))).contentSha256)
        "shared context evidence sha256 mismatch"
      require (payloadGet fields "task_id" = .str taskId ∧
        payloadGet fields "mechanism" = .str mechanism) "shared context task or mechanism mismatch"
      require (payloadGet fields "native_labels_visible" = .bool false ∧
        payloadGet fields "reference_patch_visible" = .bool false)
        "shared context leaks evaluator-only evidence"
  | _ => .error "shared context evidence must be an object"

def loadSharedContext (file : ContextFile) (taskId mechanism : String) : Except String Json :=
  match file.decoded with
  | none => .error "shared context evidence is unreadable"
  | some evidence => do
      validateSharedContext evidence taskId mechanism
      pure evidence

/-- `evidence["evidence_sha256"]`. -/
def evidenceSha256Of (evidence : Json) : Json := (evidence.get? "evidence_sha256").getD .null

def contextFile (adapter : StudentAdapter) (source : Dict (String × String) ContextFile)
    (cell : Cell) (contexts : Dict (String × String) ContextFile) :
    Except String (ContextFile × Dict (String × String) ContextFile) :=
  let key := (cell.1.taskId, cell.2.mechanism)
  match contexts.get? key with
  | some file => .ok (file, contexts)
  | none =>
    match source.get? key with
    | some file => do
        let _ ← loadSharedContext file cell.1.taskId cell.2.mechanism
        pure (file, contexts.set key file)
    | none =>
      match adapter.prepareSharedContext with
      | none => .error "shared context adapter requires prepare and bind methods"
      | some prepare => do
          require (cell.2.teaching = .baseline)
            "shared context must be prepared by the baseline arm"
          let evidence ← prepare cell.1 cell.2.revision
          validateSharedContext evidence cell.1.taskId cell.2.mechanism
          let file : ContextFile := ⟨evidence.canonicalJson ++ "\n", some evidence⟩
          pure (file, contexts.set key file)

def bindSharedContext (adapter : StudentAdapter) (source : Dict (String × String) ContextFile)
    (cell : Cell) (contexts : Dict (String × String) ContextFile) :
    Except String (Option (Json × SharedReference) × Dict (String × String) ContextFile) :=
  if adapter.prepareSharedContext.isNone && !adapter.bindsSharedContext then .ok (none, contexts)
  else do
    require (adapter.prepareSharedContext.isSome ∧ adapter.bindsSharedContext = true)
      "shared context adapter requires prepare and bind methods"
    let (file, after) ← contextFile adapter source cell contexts
    let evidence ← loadSharedContext file cell.1.taskId cell.2.mechanism
    pure (some (evidence, {
      taskId := cell.1.taskId
      mechanism := cell.2.mechanism
      sha256 := fileSha256 file.text
      evidenceSha256 := evidenceSha256Of evidence }), after)

section Cells

variable (runner : PairedExperimentRunner)

structure MadeCell where
  run : StudentRun
  shared : Option SharedReference

/-- `_run_cell` up to the freeze. An adapter that raises leaves the context it was bound to. -/
def makeCell (evidence : CellEvidence) (cell : Cell) : Except String MadeCell × CellEvidence :=
  match runner.checkout cell.1 with
  | .error error => (.error error, evidence)
  | .ok () =>
    let adapter := runner.adapters cell.2.mechanism
    match bindSharedContext adapter runner.sharedContextSource cell evidence.contexts with
    | .error error => (.error error, evidence)
    | .ok (bound, contexts) =>
      let evidence := { evidence with contexts }
      match adapter.run cell.1 cell.2.revision (bound.map Prod.fst) with
      | .error error => (.error error, evidence)
      | .ok run => (.ok ⟨run, bound.map Prod.snd⟩, evidence)

def reportContent (cell : Cell) (made : MadeCell) : CellContent where
  tasksetFingerprint := runner.taskset.fingerprint
  taskFingerprint := cell.1.fingerprint
  conditionId := cell.2.conditionId
  conditionFingerprint := cell.2.fingerprint
  structuralValid := made.run.structuralValid
  failureReason := made.run.failureReason
  artifactSha256 := (writeFiles made.run.files).entries.map fun file => (file.1, fileSha256 file.2)
  details := made.run.details
  networkCallsPerformed := false
  sharedContext := made.shared
  qualificationFingerprint := runner.qualificationFingerprint

def reportOf (cell : Cell) (made : MadeCell) : CellReport where
  toCellContent := reportContent runner cell made
  evidenceSha256 := (reportContent runner cell made).sha256

def frozenFolder (cell : Cell) (made : MadeCell) : CellFolder where
  files := writeFiles made.run.files
  attempt := some (.whole (reportOf runner cell made))

/-- The name that `mkdtemp` makes up. -/
def temporaryName (condition : ExperimentCondition) (suffix : String) : String :=
  "." ++ condition.conditionId ++ "-" ++ suffix

def withTaskFolder (evidence : CellEvidence) (task : EvaluationTask) : CellEvidence :=
  { evidence with
    taskFolders := if task.taskId ∈ evidence.taskFolders then evidence.taskFolders
      else evidence.taskFolders ++ [task.taskId] }

/-- The temporary folder of the cell, which lies beside the folder of the cell.
Beside the folder of a task nothing looks for it. -/
def withTemporary (evidence : CellEvidence) (cell : Cell) (suffix : String)
    (folder : CellFolder) : CellEvidence :=
  if cell.2.conditionId = "." then evidence
  else { withTaskFolder evidence cell.1 with
    leftovers := evidence.leftovers.set (cell.1.taskId, temporaryName cell.2 suffix) folder }

/-- `_freeze_cell`: the folder is made under its temporary name and then renamed;
it cannot become the folder above its own. -/
def freezeCell (evidence : CellEvidence) (cell : Cell) (made : MadeCell) (suffix : String) :
    Except String CellReport × CellEvidence :=
  if cellExists evidence cell then (.error "experiment cell evidence already exists", evidence)
  else if cell.2.conditionId = ".." then
    (.error "OSError", withTemporary evidence cell suffix (frozenFolder runner cell made))
  else (.ok (reportOf runner cell made), { withTaskFolder evidence cell.1 with
    cells := evidence.cells.set cell.key (frozenFolder runner cell made) })

/-- How far a freeze got. -/
inductive FreezePoint where
  /-- The folder of the task is there. -/
  | parent
  /-- So many files are whole, and the next one, if there is any of it, holds a part. -/
  | files (whole : Nat) (part : Option String)
  /-- `ATTEMPT.json` is there but not all of it. -/
  | attemptCut
  | attemptWhole
  | renamed
deriving DecidableEq

/-- The evidence that a freeze leaves when the process dies. -/
def interruptFreeze (evidence : CellEvidence) (cell : Cell) (made : MadeCell) (suffix : String) :
    FreezePoint → CellEvidence
  | .parent => if cell.2.conditionId = "." then evidence else withTaskFolder evidence cell.1
  | .files whole part =>
    let files := made.run.files
    let next := (files[whole]?.bind fun file => part.map fun text => (file.1, text)).toList
    withTemporary evidence cell suffix ⟨writeFiles (files.take whole ++ next), none⟩
  | .attemptCut => withTemporary evidence cell suffix ⟨writeFiles made.run.files, some .cut⟩
  | .attemptWhole => withTemporary evidence cell suffix (frozenFolder runner cell made)
  | .renamed => (freezeCell runner evidence cell made suffix).2

def checkShared (evidence : CellEvidence) (cell : Cell) (reference : SharedReference) :
    Except String Unit :=
  match evidence.contexts.get? (reference.taskId, reference.mechanism) with
  | none => .error "shared context artifact sha256 mismatch"
  | some file => do
      require (fileSha256 file.text = reference.sha256) "shared context artifact sha256 mismatch"
      let frozen ← loadSharedContext file cell.1.taskId cell.2.mechanism
      require (evidenceSha256Of frozen = reference.evidenceSha256)
        "shared context evidence reference mismatch"

def checkArtifacts (files : Dict String String) (artifactSha256 : List (String × String))
    (error : String) : Except String Unit :=
  artifactSha256.forM fun artifact =>
    require ((files.get? artifact.1).map fileSha256 = some artifact.2) error

def loadCell (evidence : CellEvidence) (cell : Cell) : Except String CellReport :=
  match evidence.folder? cell.1.taskId cell.2.conditionId with
  | some ⟨files, some (.whole report)⟩ => do
      require (report.evidenceSha256 = report.toCellContent.sha256)
        "experiment cell evidence sha256 mismatch"
      require (report.tasksetFingerprint = runner.taskset.fingerprint)
        "experiment taskset fingerprint mismatch"
      require (report.taskFingerprint = cell.1.fingerprint)
        "experiment task fingerprint mismatch"
      require (report.conditionFingerprint = cell.2.fingerprint)
        "experiment condition fingerprint mismatch"
      require (report.qualificationFingerprint = runner.qualificationFingerprint)
        "experiment qualification fingerprint mismatch"
      checkArtifacts files report.artifactSha256 "experiment cell artifact sha256 mismatch"
      report.sharedContext.forM (checkShared evidence cell)
      pure report
  | _ => .error "experiment cell evidence is unreadable"

end Cells

end JlensEvolve.SkillLoop
