import JlensEvolve.Autonomous.TaskSelector
import JlensEvolve.Library.Transition

/-!
The rounds of `autonomous/runner.py` as far as they choose tasks. Every round
that completes, whatever came out of it, counts one more use of each task it was
given; a selection that raises ends the run.
-/

namespace JlensEvolve.Autonomous

open Library

def repeatHardCap (maxRounds tasksPerCampaign poolSize : Nat) : Nat :=
  max 1 ((maxRounds * tasksPerCampaign + poolSize - 1) / poolSize)

/-- `execution.tasks_per_campaign`: the configuration takes no other value. -/
def tasksPerCampaign : Nat := 3

theorem repeatHardCap_pos (maxRounds tasksPerCampaign poolSize : Nat) :
    0 < repeatHardCap maxRounds tasksPerCampaign poolSize :=
  Nat.lt_of_lt_of_le Nat.one_pos (Nat.le_max_left _ _)

/-- What a selection is told beside the use counts: all of it comes out of the
earlier rounds. -/
structure RoundFacts where
  historicalClaims : List HistoricalClaim
  currentBestRevisionId : Option String
  currentBestSupportedTaskIds : List String
  failureSignatureCounts : Dict String Nat
  goalGap : Nat

structure SelectionRounds where
  currentRound : Nat
  selectionCounts : Dict String Nat
  raised : Option AutonomousEvolutionError

namespace SelectionRounds

variable (selector : FeedbackTaskSelector) (maxRounds : Nat) (rounds : SelectionRounds)

def start : SelectionRounds := ⟨0, Dict.empty, none⟩

/-- The context of the current round; no task is excluded. -/
def context (facts : RoundFacts) : TaskSelectionContext :=
  { historicalClaims := facts.historicalClaims
    currentBestRevisionId := facts.currentBestRevisionId
    currentBestSupportedTaskIds := facts.currentBestSupportedTaskIds
    failureSignatureCounts := facts.failureSignatureCounts
    goalGap := facts.goalGap
    taskSelectionCounts := rounds.selectionCounts
    repeatHardCap := repeatHardCap maxRounds tasksPerCampaign selector.tasks.length
    excludedTaskIds := []
    repeatHardCap_pos := repeatHardCap_pos _ _ _ }

def used (counts : Dict String Nat) (taskId : String) : Dict String Nat :=
  counts.set taskId (countOf counts taskId + 1)

/-- The selection of a round, and its counts once the round is complete. -/
def step (facts : RoundFacts) : SelectionRounds :=
  match rounds.raised with
  | some _ => rounds
  | none =>
    match selector.select rounds.currentRound tasksPerCampaign
        (.stateful (rounds.context selector maxRounds facts)) with
    | .error error => { rounds with raised := some error }
    | .ok selection =>
      { rounds with
        currentRound := rounds.currentRound + 1
        selectionCounts := selection.selectedTaskIds.foldl used rounds.selectionCounts }

def poolTask (instanceId project : String) : FeedbackTask := ⟨instanceId, project, 0, []⟩

/-- Six tasks, of which one is of the project `alpha`. -/
def unevenTasks : List FeedbackTask :=
  [poolTask "alpha-1" "alpha", poolTask "beta-1" "beta", poolTask "beta-2" "beta",
    poolTask "beta-3" "beta", poolTask "beta-4" "beta", poolTask "beta-5" "beta"]

theorem unevenTasks_nonempty : unevenTasks ≠ [] := List.cons_ne_nil _ _

theorem unevenTasks_distinct : (unevenTasks.map (·.instanceId)).Nodup := by decide

def unevenPool : FeedbackTaskSelector := ⟨unevenTasks, unevenTasks_nonempty, unevenTasks_distinct⟩

def noFacts : RoundFacts := ⟨[], none, [], Dict.empty, 1⟩

end SelectionRounds

end JlensEvolve.Autonomous
