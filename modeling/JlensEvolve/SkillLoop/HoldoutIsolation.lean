import JlensEvolve.SkillLoop.Feedback

/-!
Two runs that begin with the same revision. What the parent model is asked in a
round depends on its earlier responses and on the attempts at the feedback
tasks; the holdout tasks reach it in the `no_progress` flag alone.
-/

namespace JlensEvolve.SkillLoop

open Library

def ParentModelRequest.flagged (request : ParentModelRequest) (noProgress : Bool) :
    ParentModelRequest :=
  { request with feedback := { request.feedback with noProgress } }

structure SameFeedback (first second : EvaluatedRound) : Prop where
  attempts : ofCohort .feedback first.attempts = ofCohort .feedback second.attempts
  outcomes : ∀ attempt ∈ ofCohort .feedback first.attempts,
    first.evaluation.nativeOutcomes.get? attempt.task.taskId =
      second.evaluation.nativeOutcomes.get? attempt.task.taskId

theorem SameFeedback.evidenceRows_eq {first second : EvaluatedRound}
    {firstNative secondNative : NativeEvaluator} (h : SameFeedback first second)
    (hfirst : first.Judged firstNative) (hsecond : second.Judged secondNative) :
    evidenceRows firstNative first.attempts = evidenceRows secondNative second.attempts := by
  rw [evidenceRows, evidenceRows, ← h.attempts]
  refine List.map_congr_left fun attempt hattempt => ?_
  have houtcome := h.outcomes attempt hattempt
  rw [hfirst.outcome hattempt, hsecond.outcome (h.attempts ▸ hattempt)] at houtcome
  rw [Option.some.inj houtcome]

theorem Lesson.At.flagged {lesson : Lesson} {native : NativeEvaluator} {initial : LoopRevision}
    {responses : List ParentModelResponse} {k : Nat} (h : lesson.At native initial responses k)
    (noProgress : Bool) :
    lesson.request.flagged noProgress = requestOn k (revisionAt initial (responses.take k))
      (rejectedBefore initial responses (k + 1)) noProgress
        (evidenceRows native lesson.taught.attempts) := by
  obtain ⟨flag, hrequest⟩ := h.request
  rw [hrequest]
  rfl

theorem rejectedBefore_take (initial : LoopRevision) (responses : List ParentModelResponse)
    (k : Nat) :
    rejectedBefore initial responses (k + 1) =
      rejectedBefore initial (responses.take k) (k + 1) := by
  refine List.map_congr_left fun j hj => ?_
  have hj : j ≤ k := by
    have hlt := List.mem_range.mp hj
    omega
  rw [List.take_take, Nat.min_eq_left hj]

namespace LoopDriver

variable {first second : LoopDriver} {initial : LoopRevision}
  {firstRegistry secondRegistry : LoopRevisionRegistry} {firstDirectories secondDirectories : List Nat}
  {firstLesson secondLesson : Lesson} {k : Nat}

/-- Two runs from the same revision whose parent model has responded alike ask
it the same in a round where the feedback tasks went alike, but for the flag. -/
theorem request_ignores_holdout
    (hfirst : (first.lessons initial firstRegistry firstDirectories)[k]? = some firstLesson)
    (hsecond : (second.lessons initial secondRegistry secondDirectories)[k]? = some secondLesson)
    (hresponses : (first.responses initial firstRegistry firstDirectories).take k =
      (second.responses initial secondRegistry secondDirectories).take k)
    (hfeedback : SameFeedback firstLesson.taught secondLesson.taught) (noProgress : Bool) :
    firstLesson.request.flagged noProgress = secondLesson.request.flagged noProgress := by
  have hone := lesson_at hfirst
  have htwo := lesson_at hsecond
  rw [hone.flagged, htwo.flagged, hfeedback.evidenceRows_eq hone.judged htwo.judged,
    rejectedBefore_take, hresponses, ← rejectedBefore_take]

/-- Lessons are resolved, and the exam cannot be evaluated. -/
def examErrs : NativeEvaluator := fun attempt =>
  if attempt.task.cohort = .feedback then .ok resolvedOutcome else .error "TimeoutError: exam"

theorem converged_examErrs :
    ((smallLoop examErrs).evaluation (opening plainRevision)).map RoundEvaluation.converged =
      .ok false := by
  decide +kernel

theorem reportable_examErrs : ∀ evidence ∈ evidenceRows examErrs
    ((smallLoop examErrs).attempts (opening plainRevision)), evidence.validate = .ok () := by
  decide

theorem outcomes_exam : ∀ attempt ∈ ofCohort .feedback
    ((smallLoop examFails).attempts (opening plainRevision)),
      (outcomesOf examFails ((smallLoop examFails).attempts (opening plainRevision))).get?
          attempt.task.taskId =
        (outcomesOf examErrs ((smallLoop examErrs).attempts (opening plainRevision))).get?
          attempt.task.taskId := by
  decide

theorem attempts_smallLoop (native : NativeEvaluator) (progress : Progress) :
    (smallLoop native).attempts progress = smallTasks.map fun task =>
      steadyStudent.run progress.roundIndex task progress.current := by
  rw [attempts]
  rfl

/-- An exam that fails and one that cannot be evaluated make the same request. -/
theorem request_ignores_holdout_exam : ∃ firstLesson secondLesson,
    ((smallLoop examFails).lessons plainRevision ⟨[]⟩ [])[0]? = some firstLesson ∧
      ((smallLoop examErrs).lessons plainRevision ⟨[]⟩ [])[0]? = some secondLesson ∧
        firstLesson.request.flagged false = secondLesson.request.flagged false := by
  obtain ⟨firstLesson, hfirst, hfirstAttempts⟩ :=
    lesson_smallLoop converged_examFails reportable_examFails
  obtain ⟨secondLesson, hsecond, hsecondAttempts⟩ :=
    lesson_smallLoop converged_examErrs reportable_examErrs
  have hone : firstLesson.taught.evaluation.nativeOutcomes =
      outcomesOf examFails firstLesson.taught.attempts := (lesson_at hfirst).judged.outcomes
  have htwo : secondLesson.taught.evaluation.nativeOutcomes =
      outcomesOf examErrs secondLesson.taught.attempts := (lesson_at hsecond).judged.outcomes
  have houtcomes := outcomes_exam
  rw [← hfirstAttempts, ← hone, ← hsecondAttempts, ← htwo] at houtcomes
  have hattempts : firstLesson.taught.attempts = secondLesson.taught.attempts := by
    rw [hfirstAttempts, hsecondAttempts, attempts_smallLoop, attempts_smallLoop]
  have hfeedback : SameFeedback firstLesson.taught secondLesson.taught :=
    ⟨congrArg (ofCohort .feedback) hattempts, houtcomes⟩
  have hresponses :
      ((smallLoop examFails).responses plainRevision ⟨[]⟩ []).take 0 =
        ((smallLoop examErrs).responses plainRevision ⟨[]⟩ []).take 0 := by
    rw [List.take_zero, List.take_zero]
  exact ⟨firstLesson, secondLesson, hfirst, hsecond,
    request_ignores_holdout hfirst hsecond hresponses hfeedback false⟩

end LoopDriver

end JlensEvolve.SkillLoop
