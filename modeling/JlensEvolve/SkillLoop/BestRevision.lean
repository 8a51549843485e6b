import JlensEvolve.Library.KeyedSort
import JlensEvolve.SkillLoop.Driver
import JlensEvolve.SkillLoop.RevisionReadback

/-!
The revision that `run` returns: the first of those with the highest score
among the revisions that were evaluated, or the last one where its evaluation
converged. A revision that is appended after the last evaluation is never it.
-/

namespace JlensEvolve.SkillLoop

open Library Contracts

/-- Every threshold of the policy is met, and no outcome is unsafe or an
infrastructure error. -/
structure MeetsPolicy (policy : EvaluationPolicy) (evaluation : RoundEvaluation) : Prop where
  structural : policy.minimumStructuralRate ≤ evaluation.structuralRate
  feedback : policy.minimumFeedbackNativeRate ≤ evaluation.feedbackNativeRate
  feedbackGain : policy.minimumFeedbackNativeGain ≤ evaluation.feedbackNativeGain
  holdout : policy.minimumHoldoutNativeRate ≤ evaluation.holdoutNativeRate
  holdoutGain : -policy.holdoutRegressionTolerance ≤ evaluation.holdoutNativeGain
  outcomes : ∀ outcome ∈ evaluation.nativeOutcomes.values,
    outcome.safe = true ∧ outcome.infrastructureError = false

section Outcomes

variable {native : NativeEvaluator} {attempts : List StudentAttempt}

theorem mem_outcomesOf {outcome : NativeOutcome}
    (h : outcome ∈ (outcomesOf native attempts).values) :
    ∃ attempt ∈ attempts, outcome = judge native attempt := by
  have hfold : ∀ acc : Dict String NativeOutcome, outcome ∈ (attempts.foldl (fun outcomes attempt =>
      outcomes.set attempt.task.taskId (judge native attempt)) acc).values →
        outcome ∈ acc.values ∨ ∃ attempt ∈ attempts, outcome = judge native attempt := by
    clear h
    induction attempts with
    | nil => exact fun _ hmem => Or.inl hmem
    | cons attempt rest ih =>
      intro acc hmem
      rw [List.foldl_cons] at hmem
      rcases ih _ hmem with hset | ⟨other, hother, hsame⟩
      · obtain ⟨entry, hentry, hvalue⟩ := List.mem_map.mp hset
        obtain ⟨key, value⟩ := entry
        have hget := (Dict.get?_eq_some_iff _ key value).mpr hentry
        rw [Dict.get?_set] at hget
        split at hget
        · cases hget
          exact Or.inr ⟨attempt, List.mem_cons_self, hvalue.symm⟩
        · have hold := (Dict.get?_eq_some_iff _ key value).mp hget
          exact Or.inl (List.mem_map.mpr ⟨_, hold, hvalue⟩)
      · exact Or.inr ⟨other, List.mem_cons_of_mem _ hother, hsame⟩
  exact (hfold Dict.empty h).resolve_left fun hempty => absurd hempty List.not_mem_nil

end Outcomes

variable {rounded : ℚ → ℚ} {policy : EvaluationPolicy} {native : NativeEvaluator}
  {baseline : EvaluationBaseline} {attempts : List StudentAttempt} {evaluation : RoundEvaluation}

theorem meetsPolicy_of_converged
    (h : evaluate rounded policy native baseline attempts = .ok evaluation)
    (hconverged : evaluation.converged = true) : MeetsPolicy policy evaluation := by
  simp only [evaluate, except_bind_ok_iff, require_ok_iff, exists_const] at h
  obtain ⟨-, -, -, h⟩ := h
  cases h
  simp only [Bool.and_eq_true, decide_eq_true_eq, Bool.not_eq_true', List.isEmpty_iff,
    List.map_eq_nil_iff, List.filter_eq_nil_iff, List.any_eq_false] at hconverged
  obtain ⟨⟨⟨⟨⟨⟨hstructural, hfeedback⟩, hgain⟩, hholdout⟩, hloss⟩, hsafe⟩, herrors⟩ := hconverged
  refine ⟨hstructural, hfeedback, hgain, hholdout, hloss, ?_⟩
  intro outcome houtcome
  have hpassed : outcome.safe = true := by simpa using hsafe outcome houtcome
  refine ⟨hpassed, ?_⟩
  obtain ⟨attempt, hattempt, rfl⟩ := mem_outcomesOf houtcome
  have hfree := herrors attempt hattempt
  cases hvalid : attempt.structuralValid with
  | true => simpa [hvalid] using hfree
  | false => simp [judge, hvalid]

def EvaluatedRound.score (round : EvaluatedRound) : Score := round.evaluation.score

/-- `best` is the revision of the first round with the highest score. -/
def Progress.BestIn (progress : Progress) : Prop :=
  ∃ best, FirstMax EvaluatedRound.score progress.rounds best ∧ best.revision = progress.best ∧
    progress.bestScore = some best.score

/-- Before the first round there is no best score. -/
def Progress.Kept (progress : Progress) : Prop :=
  (progress.rounds = [] ∧ progress.bestScore = none) ∨ progress.BestIn

/-- The result of a run, against what was evaluated. -/
structure RollbackSafe (policy : EvaluationPolicy) (progress : Progress) (result : LoopResult) :
    Prop where
  evaluations : result.evaluations = progress.rounds.map EvaluatedRound.evaluation
  final : result.finalRevision = result.bestRevision
  evaluated : ∃ round ∈ progress.rounds, round.revision = result.bestRevision
  first : result.status ≠ .converged → ∃ best, FirstMax EvaluatedRound.score progress.rounds best ∧
    best.revision = result.bestRevision
  converged : result.status = .converged → ∃ last, progress.rounds.getLast? = some last ∧
    last.revision = result.bestRevision ∧ MeetsPolicy policy last.evaluation

namespace LoopDriver

variable {driver : LoopDriver} {progress next : Progress} {round : EvaluatedRound}

theorem bestIn_evaluated (h : progress.Kept) (hcurrent : round.revision = progress.current) :
    (progress.evaluated round).BestIn := by
  rcases h with ⟨hrounds, hscore⟩ | ⟨best, hfirst, hrevision, hscore⟩
  · have himproves : progress.improves round.evaluation.score = true := by
      rw [Progress.improves, hscore]
      rfl
    refine ⟨round, ?_, ?_, ?_⟩
    · change FirstMax _ (progress.rounds ++ [round]) round
      rw [hrounds]
      exact firstMax_singleton
    · rw [Progress.evaluated, himproves, if_pos rfl]
      exact hcurrent
    · rw [Progress.evaluated, himproves, if_pos rfl]
      rfl
  · by_cases hhigher : best.score < round.score
    · have himproves : progress.improves round.evaluation.score = true := by
        rw [Progress.improves, hscore]
        exact decide_eq_true hhigher
      refine ⟨round, hfirst.concat_of_lt hhigher, ?_, ?_⟩
      · rw [Progress.evaluated, himproves, if_pos rfl]
        exact hcurrent
      · rw [Progress.evaluated, himproves, if_pos rfl]
        rfl
    · have himproves : progress.improves round.evaluation.score = false := by
        rw [Progress.improves, hscore]
        exact decide_eq_false hhigher
      refine ⟨best, hfirst.concat_of_le (not_lt.mp hhigher), ?_, ?_⟩
      · rw [Progress.evaluated, himproves]
        exact hrevision
      · rw [Progress.evaluated, himproves]
        exact hscore

/-- While the loop goes on the best revision is kept; what it returns is safe. -/
def Safe (driver : LoopDriver) : LoopPhase → Prop
  | .going progress => progress.Kept
  | .returned progress result => RollbackSafe driver.policy progress result
  | .raised _ _ => True

theorem safe_finish_best (h : progress.BestIn) {status : LoopStatus} (hstatus : status ≠ .converged)
    {revision : LoopRevision} (hrevision : revision = progress.best) :
    driver.Safe (finish progress status revision) := by
  by_cases htaken : progress.roundIndex ∈ progress.directories
  · obtain ⟨error, heq⟩ := finish_of_taken htaken
    rw [heq]
    trivial
  · rw [finish_of_free htaken]
    obtain ⟨best, hfirst, hbest, -⟩ := h
    have hsame : best.revision = revision := hbest.trans hrevision.symm
    refine ⟨rfl, rfl, ⟨best, hfirst.mem, hsame⟩, ?_, ?_⟩
    · intro _
      exact ⟨best, hfirst, hsame⟩
    · intro hconverged
      exact absurd hconverged hstatus

theorem safe_finish_converged {evaluation : RoundEvaluation}
    (hevaluation : driver.evaluation progress = .ok evaluation)
    (hconverged : evaluation.converged = true) :
    driver.Safe (finish (progress.evaluated (driver.evaluatedRound progress evaluation)) .converged
      progress.current) := by
  by_cases htaken : (progress.evaluated (driver.evaluatedRound progress evaluation)).roundIndex ∈
      (progress.evaluated (driver.evaluatedRound progress evaluation)).directories
  · obtain ⟨error, heq⟩ := finish_of_taken htaken
    rw [heq]
    trivial
  · rw [finish_of_free htaken]
    refine ⟨rfl, rfl, ⟨driver.evaluatedRound progress evaluation, ?_, rfl⟩, ?_, ?_⟩
    · change _ ∈ progress.rounds ++ [driver.evaluatedRound progress evaluation]
      simp
    · intro hstatus
      exact absurd rfl hstatus
    · intro _
      refine ⟨driver.evaluatedRound progress evaluation, ?_, rfl,
        meetsPolicy_of_converged hevaluation hconverged⟩
      change (progress.rounds ++ [driver.evaluatedRound progress evaluation]).getLast? = _
      exact List.getLast?_concat

theorem safe_teach (h : progress.BestIn) (scoreImproved : Bool) :
    driver.Safe (driver.teach progress scoreImproved round) := by
  have hmove := driver.teach_moves progress scoreImproved round
  generalize driver.teach progress scoreImproved round = phase at hmove
  cases hmove with
  | unasked hrequest => trivial
  | unanswered hrequest hresponse => trivial
  | unproposed hrequest hresponse hpropose => trivial
  | stalled hrequest hresponse hpropose hpatience =>
    refine safe_finish_best ?_ (by simp) rfl
    exact h
  | unfrozen hrequest hresponse hpropose hfreeze => trivial
  | continued hrequest hresponse hpropose hfreeze =>
    exact Or.inr h

theorem safe_round (h : progress.Kept) : driver.Safe (driver.round progress) := by
  have hmove := driver.round_moves progress
  generalize driver.round progress = phase at hmove
  cases hmove with
  | unevaluated hevaluation => trivial
  | converged hevaluation hconverged => exact safe_finish_converged hevaluation hconverged
  | @exhausted evaluation hevaluation hconverged hlast =>
    have hbest : (progress.evaluated (driver.evaluatedRound progress evaluation)).BestIn :=
      bestIn_evaluated h rfl
    refine safe_finish_best ?_ (by simp) rfl
    exact hbest
  | @taught evaluation next hevaluation hconverged hmore hnext =>
    rw [hnext]
    have hbest : (progress.evaluated (driver.evaluatedRound progress evaluation)).BestIn :=
      bestIn_evaluated h rfl
    refine safe_teach ?_ _
    exact hbest

theorem safe_step (phase : LoopPhase) (turn : Unit) (h : driver.Safe phase) :
    driver.Safe (driver.step phase turn) := by
  cases phase with
  | going progress => exact safe_round h
  | returned progress result => exact h
  | raised progress error => trivial

theorem start_ok {initial : LoopRevision} {registry : LoopRevisionRegistry}
    {directories : List Nat} (h : driver.start initial registry directories = .ok progress) :
    ∃ opened latest, registry.latest initial.skillId = .ok latest ∧
      start.openRegistry initial registry latest = .ok opened ∧ progress = {
        roundIndex := 0, current := initial, best := initial, bestScore := none,
        noProgressCount := 0, rejectedFingerprints := [], rounds := [], registry := opened,
        directories, lessons := [], responses := [], proposed := [] } := by
  simp only [start, except_bind_ok_iff] at h
  obtain ⟨-, -, -, -, -, -, -, -, -, -, -, -, latest, hlatest, opened, hopened, h⟩ := h
  exact ⟨opened, latest, hlatest, hopened, (Except.ok.inj h).symm⟩

/-- Whatever the student, the evaluator and the parent model do: a run that
returns gives the revision it promises. -/
theorem result_rollbackSafe {initial : LoopRevision} {registry : LoopRevisionRegistry}
    {directories : List Nat} {final : Progress} {result : LoopResult}
    (hstart : driver.start initial registry directories = .ok progress)
    (hreturned : driver.rounds progress = .returned final result) :
    RollbackSafe driver.policy final result := by
  obtain ⟨opened, latest, -, -, rfl⟩ := start_ok hstart
  rw [← show driver.Safe (.returned final result) = RollbackSafe driver.policy final result from rfl,
    ← hreturned]
  refine run_invariant (I := driver.Safe) safe_step _ driver.turns ?_
  exact Or.inl ⟨rfl, rfl⟩

/-- Every attempt is structurally valid. -/
def steadyStudent : Student where
  run _ task _ := {
    task
    rawOutputSha256 := "aaaaaaaaaaaaaaaaaaaaaaaaaaaaaaaaaaaaaaaaaaaaaaaaaaaaaaaaaaaaaaaa"
    patchSha256 := none
    structuralValid := true
    failureReason := none
    detail := "edit" }
  task_run _ _ _ := rfl

theorem zero_rate : (0 : ℚ) ≤ 0 ∧ (0 : ℚ) ≤ 1 := by
  decide

def smallTasks : List StudentTask :=
  [⟨"lesson", "checkout", "repair", [], .feedback⟩, ⟨"exam", "checkout", "repair", [], .holdout⟩]

/-- Every checkout is there, with every target. -/
def anyCheckout : Checkouts := ⟨fun _ => true, fun _ _ => .ok ()⟩

theorem validate_smallTasks : smallTasks.forM (StudentTask.validate anyCheckout) = .ok () := by
  decide

/-- One feedback and one holdout task, two rounds and a parent model that always
gives the same answer. -/
def smallLoop (native : NativeEvaluator) : LoopDriver where
  student := steadyStudent
  native _ := native
  rounded := id
  policy := .strict
  baseline := ⟨0, 0, zero_rate, zero_rate⟩
  generate _ _ _ := .ok ⟨.int 1, "protocol", "text", "prompt", "note", []⟩
  authorization := ⟨.int 1, "authorization", "reviewer", 1, "2030-01-01T00:00:00+00:00"⟩
  fromisoformat _ := some (.zoned 1893456000000000)
  now := 0
  config := ⟨2, 1, one_le_two, le_rfl⟩
  tasks := smallTasks
  checkouts := anyCheckout

/-- The state of a loop that begins with this revision in an empty registry. -/
def opening (initial : LoopRevision) : Progress where
  roundIndex := 0
  current := initial
  best := initial
  bestScore := none
  noProgressCount := 0
  rejectedFingerprints := []
  rounds := []
  registry := ⟨[initial.toDict]⟩
  directories := []
  lessons := []
  responses := []
  proposed := []

theorem start_smallLoop (native : NativeEvaluator) {initial : LoopRevision}
    (h : RevisionLog.empty.Extends initial) :
    (smallLoop native).start initial ⟨[]⟩ [] = .ok (opening initial) := by
  have happend := RevisionLog.holds_empty.append_true_iff.mpr ⟨h, rfl⟩
  have hopen : start.openRegistry initial ⟨[]⟩ none = .ok ⟨[initial.toDict]⟩ := by
    rw [start.openRegistry, show LoopRevisionRegistry.append ⟨[]⟩ initial = _ from happend]
    rfl
  have hidentifier : isIdentifier "authorization" = true := by decide
  have hreviewer : isText "reviewer" = true := by decide
  simp only [start, except_bind_ok_iff]
  refine ⟨(), (LoopRevision.validate_ok_iff ()).mpr h.valid, (), ?_, (), ?_, (), ?_, (), ?_, (),
    validate_smallTasks, none, rfl, _, hopen, rfl⟩
  · simp [LoopAuthorization.validate, smallLoop, requireIdentifier, requireNonempty, hidentifier,
      hreviewer, require, LoopAuthorization.expiry?, bind, Except.bind]
  · simp [LoopAuthorization.assertActive, smallLoop, LoopAuthorization.expiry?]
  · simp [smallLoop, smallTasks]
  · simp [smallLoop, smallTasks]

def resolvedOutcome : NativeOutcome := ⟨true, true, "", false⟩

def plainRevision : LoopRevision := RevisionLog.firstRevision "protocol"

theorem extends_plainRevision : RevisionLog.empty.Extends plainRevision :=
  RevisionLog.extends_firstRevision (by decide)

theorem converged_resolved :
    ((smallLoop fun _ => .ok resolvedOutcome).evaluation (opening plainRevision)).map
      RoundEvaluation.converged = .ok true := by
  decide +kernel

theorem rounds_resolved : ∃ final result, (smallLoop fun _ => .ok resolvedOutcome).rounds
    (opening plainRevision) = .returned final result := by
  obtain ⟨evaluation, hevaluation, hconverged⟩ :=
    (except_map_ok_iff _ _ _).mp converged_resolved
  have hround : (smallLoop fun _ => .ok resolvedOutcome).round (opening plainRevision) =
      finish ((opening plainRevision).evaluated ((smallLoop fun _ =>
        .ok resolvedOutcome).evaluatedRound (opening plainRevision) evaluation)) .converged
          plainRevision := by
    simp only [round, hevaluation, hconverged, if_true]
    rfl
  have hfree : ((opening plainRevision).evaluated ((smallLoop fun _ =>
      .ok resolvedOutcome).evaluatedRound (opening plainRevision) evaluation)).roundIndex ∉
        ((opening plainRevision).evaluated ((smallLoop fun _ =>
          .ok resolvedOutcome).evaluatedRound (opening plainRevision) evaluation)).directories :=
    List.not_mem_nil
  rw [finish_of_free hfree] at hround
  have hrounds : (smallLoop fun _ => .ok resolvedOutcome).rounds (opening plainRevision) =
      (smallLoop fun _ => .ok resolvedOutcome).step ((smallLoop fun _ => .ok resolvedOutcome).round
        (opening plainRevision)) () := rfl
  rw [hrounds, hround]
  exact ⟨_, _, rfl⟩

theorem result_rollbackSafe_resolved : ∃ final result,
    (smallLoop fun _ => .ok resolvedOutcome).rounds (opening plainRevision) =
      .returned final result ∧ RollbackSafe .strict final result := by
  obtain ⟨final, result, hreturned⟩ := rounds_resolved
  exact ⟨final, result, hreturned,
    result_rollbackSafe (start_smallLoop _ extends_plainRevision) hreturned⟩

end LoopDriver

end JlensEvolve.SkillLoop
