import JlensEvolve.Contracts
import JlensEvolve.Library.JsonChars
import JlensEvolve.Epistasis.AdmissionPolicy

/-!
The search cells. A cell starts from the frozen initial program of its task and
mutates the best program so far, by operators or by a model that repairs what
the operators built; an accepted candidate that passes more cases becomes the
best one.
-/

namespace JlensEvolve.Epistasis

open Library

variable {Records Output : Type}

structure AttemptEvent where
  iteration : Nat
  operatorIds : List String
  parentSourceHash : String
  parentPassed : Nat
  source : String
  sourceHash : String
  astHash : String
  changed : Bool
  postconditionOk : Bool
  reason : String
  passedCases : Nat
  totalCases : Nat
  accepted : Bool
  improved : Bool
  admissionReasons : List String
  holdoutPassed : Option Nat

structure CellResult where
  taskId : String
  seed : Int
  operatorIds : List String
  mode : String
  budget : Int
  initialPassed : Nat
  bestSource : String
  bestPassed : Nat
  bestHoldout : Nat
  acceptedCount : Nat
  improvedCount : Nat
  noOpCount : Nat
  invalidCount : Nat
  events : List AttemptEvent

/-- What the key of a cell is taken over. -/
def keyJson (taskId : String) (seed : Int) (ids : List String) (mode : String) (budget : Int) :
    Json :=
  .arr [.str taskId, .int seed, .arr (ids.map Json.str), .str mode, .int budget]

def cellKey (taskId : String) (seed : Int) (ids : List String) (mode : String) (budget : Int) :
    String :=
  String.ofList ((keyJson taskId seed ids mode budget).asciiSha256.toList.take 16)

/-- A model transport: its answer to the prompt of an iteration. -/
abbrev RepairModel := Nat → String → String

/-- `target_failure or default`. -/
def targetOr (targetFailure : Option String) (default : String) : String :=
  match targetFailure with
  | none => default
  | some target => if target = "" then default else target

def repairPrompt (scaffold : String) (task : TaskSpec Records Output)
    (targetFailure : Option String) : String :=
  let failing := (task.publicCases.map (·.id)).filter fun id =>
    targetFailure = none ∨ some id = targetFailure
  "[Structured repair; observer signal only]\n" ++
    "Task: " ++ task.taskId ++ "\n" ++
    "Target public failure to fix: " ++ targetOr targetFailure (failing.headD "unknown") ++ "\n" ++
    "Repair the scaffold below so the target failure passes while preserving " ++
    "already-passing behavior. Do not remove the scaffold's guards. " ++
    "Return only the full final python program inside a ```python fence.\n\n" ++
    "Scaffold:\n```python\n" ++ scaffold ++ "\n```\n"

def freePrompt (source : String) (task : TaskSpec Records Output)
    (targetFailure : Option String) : String :=
  "[Free generation; observer signal only]\n" ++
    "Task: " ++ task.taskId ++ "\n" ++
    "Target public failure to fix: " ++ targetOr targetFailure "unknown" ++ "\n" ++
    "Produce an improved full program that fixes the target failure while " ++
    "preserving already-passing behavior. Return only the full final python " ++
    "program inside a ```python fence.\n\n" ++
    "Current program:\n```python\n" ++ source ++ "\n```\n"

def fence : List Char := "```".toList

/-- `str.strip` on characters. -/
def stripped (chars : List Char) : List Char :=
  ((chars.dropWhile Contracts.isSpace).reverse.dropWhile Contracts.isSpace).reverse

/-- The shortest text before the next fence, and what follows that fence. -/
def untilFence : List Char → Option (List Char × List Char)
  | [] => none
  | c :: rest =>
    if fence.isPrefixOf (c :: rest) then some ([], (c :: rest).drop 3)
    else (untilFence rest).map fun found => (c :: found.1, found.2)

/-- `findall` of the fence pattern: the rest of the opening line is skipped, the
block ends at the next fence, and the search goes on behind it. -/
def fencedBlocks : Nat → List Char → List (List Char)
  | 0, _ => []
  | _, [] => []
  | fuel + 1, c :: rest =>
    if fence.isPrefixOf (c :: rest) then
      match ((c :: rest).drop 3).dropWhile (· ≠ '\n') with
      | [] => fencedBlocks fuel rest
      | _ :: body =>
        match untilFence body with
        | none => fencedBlocks fuel rest
        | some (block, after) => block :: fencedBlocks fuel after
    else fencedBlocks fuel rest

/-- `max(blocks, key=len)`: the first of the longest. -/
def longest (first : List Char) (rest : List (List Char)) : List Char :=
  rest.foldl (fun best block => if best.length < block.length then block else best) first

def extractFencedSource (text : String) : Option String :=
  let chars := text.toList
  match ((fencedBlocks chars.length chars).map stripped).filter (!·.isEmpty) with
  | first :: rest => some (String.ofList (longest first rest))
  | [] =>
    if "def solve".toList <:+: stripped chars then some (String.ofList (stripped chars)) else none

structure SearchState where
  bestSource : String
  bestPassed : Nat
  events : List AttemptEvent
  acceptedCount : Nat
  improvedCount : Nat
  noOpCount : Nat
  invalidCount : Nat

namespace SearchState

variable (state : SearchState)

def start (initialSource : String) (initialPassed : Nat) : SearchState :=
  ⟨initialSource, initialPassed, [], 0, 0, 0, 0⟩

/-- The counters and the best program after a candidate was scored. -/
def scored (candidate : String) (candidatePassed parentPassed : Nat) (accepted : Bool) :
    SearchState :=
  { state with
    bestSource := if accepted ∧ state.bestPassed < candidatePassed then candidate
      else state.bestSource
    bestPassed := if accepted ∧ state.bestPassed < candidatePassed then candidatePassed
      else state.bestPassed
    acceptedCount := if accepted then state.acceptedCount + 1 else state.acceptedCount
    improvedCount := if accepted ∧ parentPassed < candidatePassed then state.improvedCount + 1
      else state.improvedCount }

/-- The counters when there was nothing to score. -/
def unscored (changed : Bool) : SearchState :=
  if changed then { state with invalidCount := state.invalidCount + 1 }
  else { state with noOpCount := state.noOpCount + 1 }

def record (event : AttemptEvent) : SearchState := { state with events := state.events ++ [event] }

end SearchState

/-- The arguments of `run_cell`. -/
structure CellCall (Records Output : Type) where
  task : TaskSpec Records Output
  operatorIds : List String
  seed : Int
  budget : Int
  mode : String
  model : Option RepairModel
  targetFailure : Option String
  trackHoldout : Bool
  llmStyle : String

/-- Where candidates come from, once the mode, the model and the style have
been checked. -/
inductive Generator where
  | deterministic
  | free (model : RepairModel)
  | scaffold (model : RepairModel)

structure Proposal where
  changed : Bool
  postconditionOk : Bool
  reason : String
  candidate : Option String

namespace CellCall

variable (call : CellCall Records Output)

def generator : Except SearchError Generator :=
  if call.mode ∉ ["deterministic", "llm"] then
    .error (.value ("unsupported cell mode: " ++ call.mode))
  else if call.mode = "llm" then
    match call.model with
    | none => .error (.value "llm mode requires a model transport")
    | some model =>
      if call.llmStyle = "scaffold" then .ok (.scaffold model)
      else if call.llmStyle = "free" then .ok (.free model)
      else .error (.value ("unsupported llm_style: " ++ call.llmStyle))
  else .ok .deterministic

/-- The candidate of an iteration. -/
def propose (generator : Generator) (iteration : Nat) (parentSource : String)
    (composed : ComposeResult) : Proposal :=
  match generator with
  | .deterministic =>
    ⟨composed.lastChanged, composed.ok, composed.reason,
      if composed.ok then some composed.source else none⟩
  | .free model =>
    match extractFencedSource
        (model iteration (freePrompt parentSource call.task call.targetFailure)) with
    | none => ⟨false, false, "llm-extraction-failed", none⟩
    | some candidate => ⟨true, true, "llm-free", some candidate⟩
  | .scaffold model =>
    if !composed.ok then ⟨false, false, "scaffold:" ++ composed.reason, none⟩
    else
      match extractFencedSource
          (model iteration (repairPrompt composed.source call.task call.targetFailure)) with
      | none => ⟨true, true, "llm-extraction-fallback", some composed.source⟩
      | some candidate => ⟨true, true, "llm-repair", some candidate⟩

end CellCall

variable [BEq Output] (sandbox : Sandbox Records Output)

def initialPolicy (task : TaskSpec Records Output) : AdmissionPolicy :=
  let hashes := sourceFingerprints sandbox task.initialSource
  let signature := behaviorSignature
    (admissionMetrics (task.scoreSource sandbox task.initialSource)) casePrefix
  { AdmissionPolicy.fresh with
    sourceHashes := [hashes.1]
    astHashes := [hashes.2]
    behaviorCounts := Dict.empty.set signature 1 }

def initialState (task : TaskSpec Records Output) : SearchState :=
  .start task.initialSource (task.scoreSource sandbox task.initialSource).passedCases

namespace CellCall

variable (call : CellCall Records Output)

/-- The iteration after its proposal: the candidate is scored and assessed
against the best program, its parent. -/
def assessed (iteration : Nat) (policy : AdmissionPolicy) (state : SearchState)
    (proposal : Proposal) : AdmissionPolicy × SearchState :=
  let parentMetrics := call.task.scoreSource sandbox state.bestSource
  let parentPassed := parentMetrics.passedCases
  let parentHash := (sourceFingerprints sandbox state.bestSource).1
  let totalCases := call.task.publicCases.length
  match proposal.candidate, proposal.changed with
  | some candidate, true =>
    let hashes := sourceFingerprints sandbox candidate
    let metrics := call.task.scoreSource sandbox candidate
    let assessment := policy.assessAndRegister sandbox candidate (admissionMetrics metrics)
      (some (admissionMetrics parentMetrics))
    let accepted := assessment.1.accepted
    (assessment.2,
      (state.scored candidate metrics.passedCases parentPassed accepted).record
        ⟨iteration, call.operatorIds, parentHash, parentPassed, candidate, hashes.1, hashes.2,
          true, proposal.postconditionOk, proposal.reason, metrics.passedCases, totalCases,
          accepted, accepted && decide (parentPassed < metrics.passedCases),
          assessment.1.reasons,
          if call.trackHoldout && accepted then
            some (call.task.scoreHoldout sandbox candidate).passedCases
          else none⟩)
  | candidate, changed =>
    (policy, (state.unscored changed).record
      ⟨iteration, call.operatorIds, parentHash, parentPassed, candidate.getD "", "", "",
        changed, proposal.postconditionOk, proposal.reason, parentPassed, totalCases,
        false, false, [], none⟩)

/-- One iteration of the loop of `run_cell`. -/
def attempt (generator : Generator) (iteration : Nat) (policy : AdmissionPolicy)
    (state : SearchState) : Except SearchError (AdmissionPolicy × SearchState) := do
  let composed ← applyOperators sandbox state.bestSource call.operatorIds call.task.schema
  return call.assessed sandbox iteration policy state
    (call.propose generator iteration state.bestSource composed)

/-- The loop of `run_cell` after its first iterations. -/
def attempts (generator : Generator) : Nat → Except SearchError (AdmissionPolicy × SearchState)
  | 0 => .ok (initialPolicy sandbox call.task, initialState sandbox call.task)
  | iterations + 1 => do
      let (policy, state) ← attempts generator iterations
      call.attempt sandbox generator (iterations + 1) policy state

def runCell : Except SearchError CellResult := do
  let generator ← call.generator
  let (_, state) ← call.attempts sandbox generator call.budget.toNat
  return {
    taskId := call.task.taskId
    seed := call.seed
    operatorIds := call.operatorIds
    mode := call.mode
    budget := call.budget
    initialPassed := (call.task.scoreSource sandbox call.task.initialSource).passedCases
    bestSource := state.bestSource
    bestPassed := state.bestPassed
    bestHoldout := if call.trackHoldout then
      (call.task.scoreHoldout sandbox state.bestSource).passedCases else 0
    acceptedCount := state.acceptedCount
    improvedCount := state.improvedCount
    noOpCount := state.noOpCount
    invalidCount := state.invalidCount
    events := state.events }

end CellCall

/-- The arguments of `run_lineage_cell`. -/
structure LineageCall (Records Output : Type) where
  task : TaskSpec Records Output
  operatorOrder : List String
  seed : Int
  budget : Int
  trackHoldout : Bool

namespace LineageCall

variable (call : LineageCall Records Output)

def operatorAt (iteration : Nat) : String :=
  call.operatorOrder.getD ((iteration - 1) % call.operatorOrder.length) ""

/-- The iteration after its operator ran. There is no admission policy here: a
candidate that regresses or scores less is turned down, and any other is
accepted. -/
def assessed (iteration : Nat) (state : SearchState) (composed : ComposeResult) : SearchState :=
  let parentMetrics := call.task.scoreSource sandbox state.bestSource
  let parentPassed := parentMetrics.passedCases
  let parentHash := (sourceFingerprints sandbox state.bestSource).1
  let totalCases := call.task.publicCases.length
  let changed := composed.ok && composed.lastChanged
  if changed then
    let candidate := composed.source
    let hashes := sourceFingerprints sandbox candidate
    let metrics := call.task.scoreSource sandbox candidate
    let caseMetrics := admissionMetrics metrics
    let lost := regressed caseMetrics (admissionMetrics parentMetrics)
      (caseMetrics.keys.filter (startsWith · casePrefix))
    let reasons := if lost ≠ [] then ["parent_regression"]
      else if metrics.passedCases < state.bestPassed then ["score_decrease"]
      else []
    let accepted := reasons.isEmpty
    (state.scored candidate metrics.passedCases parentPassed accepted).record
      ⟨iteration, [call.operatorAt iteration], parentHash, parentPassed, candidate, hashes.1,
        hashes.2, true, composed.ok, "ok", metrics.passedCases, totalCases, accepted,
        accepted && decide (parentPassed < metrics.passedCases), reasons, none⟩
  else
    (state.unscored false).record
      ⟨iteration, [call.operatorAt iteration], parentHash, parentPassed, "", "", "", false,
        composed.ok, composed.reason, parentPassed, totalCases, false, false, [], none⟩

def attempt (iteration : Nat) (state : SearchState) : Except SearchError SearchState := do
  let composed ← applyOperators sandbox state.bestSource [call.operatorAt iteration]
    call.task.schema
  return call.assessed sandbox iteration state composed

def attempts : Nat → Except SearchError SearchState
  | 0 => .ok (initialState sandbox call.task)
  | iterations + 1 => do
      let state ← attempts iterations
      call.attempt sandbox (iterations + 1) state

def runLineageCell : Except SearchError CellResult := do
  require (call.operatorOrder ≠ []) (.value "lineage requires at least one operator")
  let state ← call.attempts sandbox call.budget.toNat
  return {
    taskId := call.task.taskId
    seed := call.seed
    operatorIds := call.operatorOrder
    mode := "lineage"
    budget := call.budget
    initialPassed := (call.task.scoreSource sandbox call.task.initialSource).passedCases
    bestSource := state.bestSource
    bestPassed := state.bestPassed
    bestHoldout := if call.trackHoldout then
      (call.task.scoreHoldout sandbox state.bestSource).passedCases else 0
    acceptedCount := state.acceptedCount
    improvedCount := state.improvedCount
    noOpCount := state.noOpCount
    invalidCount := state.invalidCount
    events := state.events }

end LineageCall

end JlensEvolve.Epistasis
