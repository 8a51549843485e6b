import Mathlib.Algebra.Order.Ring.Rat
import Mathlib.Data.Prod.Lex
import Mathlib.Tactic.NormNum
import JlensEvolve.SkillLoop.Revisions

/-!
`student_adapter.py`'s tasks and attempts and `LoopEvaluator` of
`evaluator.py`. Rates and gains are floats: `rounded` stands for the double that
float arithmetic makes of an exact result.
-/

namespace JlensEvolve.SkillLoop

open Library Contracts

inductive Cohort where
  | feedback
  | holdout
deriving DecidableEq, Repr

structure StudentTask where
  taskId : String
  checkout : String
  instruction : String
  allowedTargets : List String
  cohort : Cohort
deriving DecidableEq

structure Checkouts where
  isDirectory : String → Bool
  /-- `resolve_target`. -/
  resolveTarget : String → String → Except String Unit

/-- `re.fullmatch(r"[A-Za-z0-9][A-Za-z0-9._-]{0,127}", value)`. -/
def isTaskId (value : String) : Bool :=
  match value.toList with
  | [] => false
  | c :: rest =>
    c.isAlphanum && decide (rest.length ≤ 127) &&
      rest.all fun c => c.isAlphanum || c == '.' || c == '_' || c == '-'

def StudentTask.validate (checkouts : Checkouts) (task : StudentTask) : Except String Unit := do
  require (isTaskId task.taskId = true) "invalid student task id"
  require (checkouts.isDirectory task.checkout = true) "student checkout is missing"
  require (isText task.instruction = true) "student instruction must be non-empty"
  require task.allowedTargets.Nodup "allowed targets must be unique"
  task.allowedTargets.forM (checkouts.resolveTarget task.checkout)

/-- The fields that the evaluation and the feedback read. -/
structure StudentAttempt where
  task : StudentTask
  rawOutputSha256 : String
  patchSha256 : Option String
  structuralValid : Bool
  failureReason : Option String
  detail : String
deriving DecidableEq

/-- A student as a loop meets it, round by round. -/
structure Student where
  run : Nat → StudentTask → LoopRevision → StudentAttempt
  task_run : ∀ round task revision, (run round task revision).task = task

structure NativeOutcome where
  resolved : Bool
  safe : Bool
  detail : String
  infrastructureError : Bool
deriving DecidableEq

structure EvaluationBaseline where
  feedbackNativeRate : ℚ
  holdoutNativeRate : ℚ
  feedback_rate : 0 ≤ feedbackNativeRate ∧ feedbackNativeRate ≤ 1
  holdout_rate : 0 ≤ holdoutNativeRate ∧ holdoutNativeRate ≤ 1

structure EvaluationPolicy where
  minimumStructuralRate : ℚ
  minimumFeedbackNativeRate : ℚ
  minimumFeedbackNativeGain : ℚ
  minimumHoldoutNativeRate : ℚ
  holdoutRegressionTolerance : ℚ
  rates : ∀ value ∈ [minimumStructuralRate, minimumFeedbackNativeRate, minimumHoldoutNativeRate,
    holdoutRegressionTolerance], 0 ≤ value ∧ value ≤ 1
  gain : -1 ≤ minimumFeedbackNativeGain ∧ minimumFeedbackNativeGain ≤ 1

namespace EvaluationPolicy

theorem strict_rates : ∀ value ∈ ([1, 1, 1, 0] : List ℚ), 0 ≤ value ∧ value ≤ 1 := by
  decide

theorem strict_gain : (-1 : ℚ) ≤ 1 / 100 ∧ (1 : ℚ) / 100 ≤ 1 := by
  norm_num

def strict : EvaluationPolicy where
  minimumStructuralRate := 1
  minimumFeedbackNativeRate := 1
  minimumFeedbackNativeGain := 1 / 100
  minimumHoldoutNativeRate := 1
  holdoutRegressionTolerance := 0
  rates := strict_rates
  gain := strict_gain

end EvaluationPolicy

structure RoundEvaluation where
  structuralRate : ℚ
  feedbackNativeRate : ℚ
  holdoutNativeRate : ℚ
  feedbackNativeGain : ℚ
  holdoutNativeGain : ℚ
  safetyRegression : Bool
  infrastructureErrors : List String
  nativeOutcomes : Dict String NativeOutcome
  converged : Bool

/-- Scores compare as tuples do. -/
abbrev Score := ℚ ×ₗ ℚ ×ₗ ℚ

def RoundEvaluation.score (evaluation : RoundEvaluation) : Score :=
  toLex (evaluation.holdoutNativeRate,
    toLex (evaluation.feedbackNativeRate, evaluation.structuralRate))

abbrev NativeEvaluator := StudentAttempt → Except String NativeOutcome

/-- One turn of the loop over the attempts. -/
def judge (native : NativeEvaluator) (attempt : StudentAttempt) : NativeOutcome :=
  if attempt.structuralValid then
    match native attempt with
    | .ok outcome => outcome
    | .error text => ⟨false, false, text, true⟩
  else
    ⟨false, true, "structural rejection: " ++ attempt.failureReason.getD "None", false⟩

def outcomesOf (native : NativeEvaluator) (attempts : List StudentAttempt) :
    Dict String NativeOutcome :=
  attempts.foldl (fun outcomes attempt => outcomes.set attempt.task.taskId (judge native attempt))
    Dict.empty

/-- What counts as resolved in a rate. -/
def NativeOutcome.natively (outcome : NativeOutcome) : Bool :=
  outcome.resolved && outcome.safe && !outcome.infrastructureError

def ofCohort (cohort : Cohort) (attempts : List StudentAttempt) : List StudentAttempt :=
  attempts.filter fun attempt => attempt.task.cohort = cohort

section Evaluate

variable (rounded : ℚ → ℚ)

def rate (count total : Nat) : ℚ := rounded (count / total)

def resolvedRate (attempts : List StudentAttempt) (outcomes : Dict String NativeOutcome) : ℚ :=
  rate rounded (attempts.countP fun attempt =>
    (outcomes.get? attempt.task.taskId).any NativeOutcome.natively) attempts.length

def evaluate (policy : EvaluationPolicy) (native : NativeEvaluator)
    (baseline : EvaluationBaseline) (attempts : List StudentAttempt) :
    Except String RoundEvaluation := do
  require (attempts ≠ []) "round evaluation requires attempts"
  require (attempts.map fun attempt => attempt.task.taskId).Nodup
    "round evaluation task ids must be unique"
  let feedback := ofCohort .feedback attempts
  let holdout := ofCohort .holdout attempts
  require (feedback ≠ [] ∧ holdout ≠ []) "round evaluation requires feedback and holdout tasks"
  let structuralRate := rate rounded (attempts.countP StudentAttempt.structuralValid)
    attempts.length
  let outcomes := outcomesOf native attempts
  let errors := (attempts.filter fun attempt =>
    attempt.structuralValid && (judge native attempt).infrastructureError).map
      fun attempt => attempt.task.taskId
  let feedbackRate := resolvedRate rounded feedback outcomes
  let holdoutRate := resolvedRate rounded holdout outcomes
  let feedbackGain := rounded (feedbackRate - baseline.feedbackNativeRate)
  let holdoutGain := rounded (holdoutRate - baseline.holdoutNativeRate)
  let safetyRegression := outcomes.values.any fun outcome => !outcome.safe
  pure {
    structuralRate
    feedbackNativeRate := feedbackRate
    holdoutNativeRate := holdoutRate
    feedbackNativeGain := feedbackGain
    holdoutNativeGain := holdoutGain
    safetyRegression
    infrastructureErrors := errors
    nativeOutcomes := outcomes
    converged :=
      decide (policy.minimumStructuralRate ≤ structuralRate) &&
        decide (policy.minimumFeedbackNativeRate ≤ feedbackRate) &&
        decide (policy.minimumFeedbackNativeGain ≤ feedbackGain) &&
        decide (policy.minimumHoldoutNativeRate ≤ holdoutRate) &&
        decide (-policy.holdoutRegressionTolerance ≤ holdoutGain) &&
        !safetyRegression && errors.isEmpty }

end Evaluate

end JlensEvolve.SkillLoop
