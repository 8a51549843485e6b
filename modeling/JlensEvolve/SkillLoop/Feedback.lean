import JlensEvolve.SkillLoop.BestRevision

/-!
What the parent model is told of a failed round. `_feedback` reports every
attempt on a feedback task, and gives one that is neither rejected nor unsafe
nor an infrastructure error the reason `native-unresolved`, whether it was
resolved or not.
-/

namespace JlensEvolve.SkillLoop

open Library Contracts

section Outcomes

variable {native : NativeEvaluator} {attempts : List StudentAttempt}

def recordOutcome (native : NativeEvaluator) (outcomes : Dict String NativeOutcome)
    (attempt : StudentAttempt) : Dict String NativeOutcome :=
  outcomes.set attempt.task.taskId (judge native attempt)

theorem get?_foldl_of_absent {taskId : String}
    (h : ∀ attempt ∈ attempts, attempt.task.taskId ≠ taskId) (outcomes : Dict String NativeOutcome) :
    (attempts.foldl (recordOutcome native) outcomes).get? taskId = outcomes.get? taskId := by
  induction attempts generalizing outcomes with
  | nil => rfl
  | cons first rest ih =>
    obtain ⟨hfirst, hrest⟩ := List.forall_mem_cons.mp h
    rw [List.foldl_cons, ih hrest, recordOutcome, Dict.get?_set_of_ne _ _ (Ne.symm hfirst)]

theorem get?_outcomesOf (hnodup : (attempts.map fun attempt => attempt.task.taskId).Nodup)
    {attempt : StudentAttempt} (hmem : attempt ∈ attempts) :
    (outcomesOf native attempts).get? attempt.task.taskId = some (judge native attempt) := by
  have hfold : ∀ outcomes : Dict String NativeOutcome,
      (attempts.foldl (recordOutcome native) outcomes).get? attempt.task.taskId =
        some (judge native attempt) := by
    induction attempts with
    | nil => cases hmem
    | cons first rest ih =>
      intro outcomes
      rw [List.map_cons, List.nodup_cons] at hnodup
      rw [List.foldl_cons]
      rcases List.mem_cons.mp hmem with rfl | hrest
      · rw [get?_foldl_of_absent, recordOutcome, Dict.get?_set_self]
        intro other hother hsame
        exact hnodup.1 (hsame ▸ List.mem_map_of_mem (f := fun attempt : StudentAttempt =>
          attempt.task.taskId) hother)
      · exact ih hnodup.2 hrest _
  exact hfold Dict.empty

end Outcomes

theorem get?_countReasons (evidence : List FailureEvidence) (reason : String) :
    ((countReasons evidence).get? reason).getD 0 =
      evidence.countP fun row => row.reasonCode = reason := by
  have hfold : ∀ counts : Dict String Nat,
      ((evidence.foldl (fun counts row =>
        counts.set row.reasonCode ((counts.get? row.reasonCode).getD 0 + 1)) counts).get?
          reason).getD 0 =
        (counts.get? reason).getD 0 + evidence.countP fun row => row.reasonCode = reason := by
    induction evidence with
    | nil => simp
    | cons first rest ih =>
      intro counts
      rw [List.foldl_cons, ih, List.countP_cons]
      by_cases hreason : first.reasonCode = reason
      · subst hreason
        simp only [Dict.get?_set_self, Option.getD_some, decide_true, if_true]
        omega
      · rw [Dict.get?_set_of_ne _ _ (Ne.symm hreason)]
        simp [hreason]
  have hempty := hfold Dict.empty
  rw [Dict.get?_empty, Option.getD_none, Nat.zero_add] at hempty
  exact hempty

theorem reason_of_mem_countReasons {evidence : List FailureEvidence} {reason : String}
    (h : ((countReasons evidence).get? reason).isSome) :
    ∃ row ∈ evidence, row.reasonCode = reason := by
  have hfold : ∀ counts : Dict String Nat,
      ((evidence.foldl (fun counts row =>
        counts.set row.reasonCode ((counts.get? row.reasonCode).getD 0 + 1)) counts).get?
          reason).isSome → (counts.get? reason).isSome ∨ ∃ row ∈ evidence, row.reasonCode = reason := by
    clear h
    induction evidence with
    | nil => exact fun _ hsome => Or.inl hsome
    | cons first rest ih =>
      intro counts hsome
      rw [List.foldl_cons] at hsome
      rcases ih _ hsome with hset | ⟨row, hrow, hreason⟩
      · by_cases hreason : first.reasonCode = reason
        · exact Or.inr ⟨first, List.mem_cons_self, hreason⟩
        · rw [Dict.get?_set_of_ne _ _ (Ne.symm hreason)] at hset
          exact Or.inl hset
      · exact Or.inr ⟨row, List.mem_cons_of_mem _ hrow, hreason⟩
  rcases hfold Dict.empty h with hempty | hfound
  · cases hempty
  · exact hfound

/-- The round was evaluated, with the outcome of each attempt under its task. -/
structure EvaluatedRound.Judged (round : EvaluatedRound) (native : NativeEvaluator) : Prop where
  nodup : (round.attempts.map fun attempt => attempt.task.taskId).Nodup
  feedback : ofCohort .feedback round.attempts ≠ []
  outcomes : round.evaluation.nativeOutcomes = outcomesOf native round.attempts

/-- The evidence on the feedback tasks. -/
def evidenceRows (native : NativeEvaluator) (attempts : List StudentAttempt) :
    List FailureEvidence :=
  (ofCohort .feedback attempts).map fun attempt => evidenceOf attempt (judge native attempt)

theorem judged_of_evaluation {driver : LoopDriver} {progress : Progress}
    {evaluation : RoundEvaluation} (h : driver.evaluation progress = .ok evaluation) :
    (driver.evaluatedRound progress evaluation).Judged (driver.native progress.roundIndex) := by
  simp only [LoopDriver.evaluation, evaluate, except_bind_ok_iff, require_ok_iff,
    exists_const] at h
  obtain ⟨-, hnodup, hcohorts, h⟩ := h
  cases h
  exact ⟨hnodup, hcohorts.1, rfl⟩

variable {round : EvaluatedRound} {native : NativeEvaluator}

theorem failureEvidence_ok_iff (h : round.Judged native) {attempt : StudentAttempt}
    (hmem : attempt ∈ ofCohort .feedback round.attempts) (evidence : FailureEvidence) :
    failureEvidence round.evaluation.nativeOutcomes attempt = .ok evidence ↔
      (evidenceOf attempt (judge native attempt)).validate = .ok () ∧
        evidence = evidenceOf attempt (judge native attempt) := by
  have hget : (outcomesOf native round.attempts).get? attempt.task.taskId =
      some (judge native attempt) := get?_outcomesOf h.nodup (List.mem_filter.mp hmem).1
  rw [failureEvidence, h.outcomes, hget]
  simp only [except_bind_ok_iff]
  constructor
  · rintro ⟨done, hvalid, hsame⟩
    exact ⟨hvalid, (Except.ok.inj hsame).symm⟩
  · rintro ⟨hvalid, rfl⟩
    exact ⟨(), hvalid, rfl⟩

theorem sameCounts_self (counts : Dict String Nat) : FeedbackPackage.sameCounts counts counts :=
  ⟨fun _ _ => rfl, fun _ _ => rfl⟩

/-- The request of a round on this evidence. -/
def requestOn (roundIndex : Nat) (current : LoopRevision) (rejectedFingerprints : List String)
    (noProgress : Bool) (evidence : List FailureEvidence) : ParentModelRequest where
  schemaVersion := .int 1
  feedback := {
    schemaVersion := .int 1
    currentRound := roundIndex
    reasonCounts := countReasons evidence
    armEvidence := evidence
    previousEvalNote := current.evalNote
    noProgress
    rejectedFingerprints := fromKeys rejectedFingerprints }
  currentRevision := current

def Progress.requestOn (progress : Progress) (evidence : List FailureEvidence) :
    ParentModelRequest :=
  SkillLoop.requestOn progress.roundIndex progress.current progress.rejectedFingerprints
    (decide (0 < progress.noProgressCount)) evidence

theorem ParentModelRequest.validate_ok_iff (request : ParentModelRequest) (u : Unit) :
    request.validate = .ok u ↔ Json.pyEq request.schemaVersion (.int 1) = true ∧
      request.feedback.validate = .ok () ∧ request.currentRevision.Valid := by
  simp only [ParentModelRequest.validate, except_bind_ok_iff, require_ok_iff, exists_const,
    LoopRevision.validate_ok_iff]
  constructor
  · intro h
    obtain ⟨hschema, _, hfeedback, hcurrent⟩ := h
    exact ⟨hschema, hfeedback, hcurrent⟩
  · intro h
    exact ⟨h.1, (), h.2.1, h.2.2⟩

/-- A request is made exactly when every feedback attempt can be reported and
the request is valid. -/
theorem request_ok_iff_valid {progress : Progress} (h : round.Judged native)
    (request : ParentModelRequest) :
    LoopDriver.request progress round = .ok request ↔
      (∀ evidence ∈ evidenceRows native round.attempts, evidence.validate = .ok ()) ∧
        (progress.requestOn (evidenceRows native round.attempts)).validate = .ok () ∧
        request = progress.requestOn (evidenceRows native round.attempts) := by
  have hrows := mapM_checked_iff (fun attempt hmem evidence =>
    failureEvidence_ok_iff h hmem evidence)
  have hne : evidenceRows native round.attempts ≠ [] := by
    simpa [evidenceRows] using h.feedback
  have hall : (∀ attempt ∈ ofCohort .feedback round.attempts,
      (evidenceOf attempt (judge native attempt)).validate = .ok ()) ↔
        ∀ evidence ∈ evidenceRows native round.attempts, evidence.validate = .ok () := by
    simp [evidenceRows]
  simp only [LoopDriver.request, feedbackPackage, FeedbackPackage.create,
    ParentModelRequest.create, except_bind_ok_iff, require_ok_iff, hrows, hall]
  constructor
  · intro hmade
    obtain ⟨package, ⟨evidence, ⟨hvalid, rfl⟩, _, _, _, hpackage, hsame⟩, _, hrequest, hmade⟩ := hmade
    cases hsame
    cases hmade
    exact ⟨hvalid, hrequest, rfl⟩
  · intro hmade
    obtain ⟨hvalid, hrequest, rfl⟩ := hmade
    have hpackage : (progress.requestOn (evidenceRows native round.attempts)).feedback.validate =
        .ok () :=
      ((ParentModelRequest.validate_ok_iff _ ()).mp hrequest).2.1
    exact ⟨_, ⟨_, ⟨hvalid, rfl⟩, (), hne, (), hpackage, rfl⟩, (), hrequest, rfl⟩

theorem request_ok_iff {progress : Progress} (h : round.Judged native)
    (hcurrent : progress.current.Valid)
    (hrejected : ∀ fingerprint ∈ progress.rejectedFingerprints, isSha256 fingerprint = true)
    (request : ParentModelRequest) :
    LoopDriver.request progress round = .ok request ↔
      (∀ evidence ∈ evidenceRows native round.attempts, evidence.validate = .ok ()) ∧
        request = progress.requestOn (evidenceRows native round.attempts) := by
  have hne : evidenceRows native round.attempts ≠ [] := by
    simpa [evidenceRows] using h.feedback
  have hnote : isText progress.current.evalNote = true :=
    hcurrent.texts _ (by simp [LoopRevision.texts])
  have hkeys : (fromKeys progress.rejectedFingerprints).all isSha256 = true := by
    rw [List.all_eq_true]
    intro fingerprint hmem
    exact hrejected fingerprint (mem_fromKeys_iff.mp hmem)
  have hround : (0 : Int) ≤ progress.roundIndex := Int.natCast_nonneg _
  rw [request_ok_iff_valid h]
  constructor
  · intro hmade
    exact ⟨hmade.1, hmade.2.2⟩
  · intro hmade
    refine ⟨hmade.1, (ParentModelRequest.validate_ok_iff _ ()).mpr ⟨?_, ?_, hcurrent⟩, hmade.2⟩
    · exact Json.pyEq_self _
    · simp only [FeedbackPackage.validate, except_bind_ok_iff, require_ok_iff, requireNonempty,
        forM_ok_iff, exists_const]
      exact ⟨Json.pyEq_self _, hround, hne, hmade.1, sameCounts_self _, hnote, hkeys,
        nodup_fromKeys _⟩

/-- The revision under evaluation after these responses. -/
def revisionAt (initial : LoopRevision) (responses : List ParentModelResponse) : LoopRevision :=
  responses.zipIdx.foldl (fun current answer => nextRevision current answer.1 (answer.2 + 1)) initial

theorem revisionAt_concat (initial : LoopRevision) (responses : List ParentModelResponse)
    (response : ParentModelResponse) :
    revisionAt initial (responses ++ [response]) =
      nextRevision (revisionAt initial responses) response (responses.length + 1) := by
  simp [revisionAt, List.zipIdx_append]

/-- The fingerprints of the revisions before round `k`. -/
def rejectedBefore (initial : LoopRevision) (responses : List ParentModelResponse) (k : Nat) :
    List String :=
  (List.range k).map fun j => (revisionAt initial (responses.take j)).fingerprint

theorem rejectedBefore_concat {initial : LoopRevision} {responses : List ParentModelResponse}
    {k : Nat} (h : k ≤ responses.length + 1) (response : ParentModelResponse) :
    rejectedBefore initial (responses ++ [response]) k = rejectedBefore initial responses k := by
  refine List.map_congr_left fun j hj => ?_
  have hj : j ≤ responses.length := by
    have hlt := List.mem_range.mp hj
    omega
  rw [List.take_append_of_le_length hj]

/-- The request of round `k`, from the responses to the earlier ones and the
attempts on the feedback tasks. -/
structure Lesson.At (lesson : Lesson) (native : NativeEvaluator) (initial : LoopRevision)
    (responses : List ParentModelResponse) (k : Nat) : Prop where
  judged : lesson.taught.Judged native
  request : ∃ noProgress, lesson.request = requestOn k (revisionAt initial (responses.take k))
    (rejectedBefore initial responses (k + 1)) noProgress
      (evidenceRows native lesson.taught.attempts)

theorem Lesson.At.concat {lesson : Lesson} {initial : LoopRevision}
    {responses : List ParentModelResponse} {k : Nat} (h : lesson.At native initial responses k)
    (hk : k ≤ responses.length) (response : ParentModelResponse) :
    lesson.At native initial (responses ++ [response]) k := by
  refine ⟨h.judged, ?_⟩
  rw [List.take_append_of_le_length hk, rejectedBefore_concat (by omega)]
  exact h.request

namespace LoopDriver

variable {driver : LoopDriver} {initial : LoopRevision} {progress : Progress}

/-- Each lesson is that of its round. -/
def Sent (driver : LoopDriver) (initial : LoopRevision) (progress : Progress) : Prop :=
  ∀ (k : Nat) (lesson : Lesson), progress.lessons[k]? = some lesson →
    lesson.At (driver.native k) initial progress.responses k

/-- At the head of a round every earlier round has had its lesson and its
response. -/
structure Teaches (driver : LoopDriver) (initial : LoopRevision) (progress : Progress) : Prop where
  lessons : progress.lessons.length = progress.roundIndex
  responses : progress.responses.length = progress.roundIndex
  current : progress.current = revisionAt initial progress.responses
  rejected : progress.rejectedFingerprints =
    rejectedBefore initial progress.responses progress.roundIndex
  sent : driver.Sent initial progress

def Taught (driver : LoopDriver) (initial : LoopRevision) : LoopPhase → Prop
  | .going progress => driver.Teaches initial progress
  | phase => driver.Sent initial phase.progress

theorem sent_finish (h : driver.Sent initial progress) (status : LoopStatus)
    (revision : LoopRevision) : driver.Taught initial (finish progress status revision) := by
  by_cases htaken : progress.roundIndex ∈ progress.directories
  · obtain ⟨error, heq⟩ : ∃ error, finish progress status revision = .raised progress error :=
      finish_of_taken htaken
    rw [heq]
    exact h
  · rw [finish_of_free htaken]
    exact h

theorem sent_sending (h : driver.Teaches initial progress)
    (hjudged : round.Judged (driver.native progress.roundIndex)) {request : ParentModelRequest}
    (hrequest : LoopDriver.request progress.rejecting round = .ok request) :
    driver.Sent initial (progress.rejecting.sending ⟨round, request⟩) := by
  intro k lesson hlesson
  change (progress.lessons ++ [⟨round, request⟩])[k]? = some lesson at hlesson
  rw [List.getElem?_append] at hlesson
  split at hlesson
  · exact h.sent k lesson hlesson
  · next hlast =>
    have hk : k = progress.roundIndex := by
      have hlt := (List.getElem?_eq_some_iff.mp hlesson).1
      have hlength := h.lessons
      simp only [List.length_singleton] at hlt
      omega
    subst hk
    rw [h.lessons, Nat.sub_self] at hlesson
    cases hlesson
    have htake : progress.responses.take progress.roundIndex = progress.responses :=
      List.take_of_length_le h.responses.le
    have hrejected : progress.rejectedFingerprints ++ [progress.current.fingerprint] =
        rejectedBefore initial progress.responses (progress.roundIndex + 1) := by
      rw [rejectedBefore, List.range_succ, List.map_append, h.rejected, h.current, rejectedBefore]
      simp only [List.map_cons, List.map_nil, htake]
    refine ⟨hjudged, decide (0 < progress.noProgressCount), ?_⟩
    change request = requestOn progress.roundIndex
      (revisionAt initial (progress.responses.take progress.roundIndex))
      (rejectedBefore initial progress.responses (progress.roundIndex + 1)) _
      (evidenceRows (driver.native progress.roundIndex) round.attempts)
    rw [htake, ← h.current, ← hrejected]
    exact ((request_ok_iff_valid hjudged request).mp hrequest).2.2

theorem sent_receiving (h : driver.Sent initial progress)
    (hlength : progress.lessons.length ≤ progress.responses.length + 1)
    (response : ParentModelResponse) : driver.Sent initial (progress.receiving response) := by
  intro k lesson hlesson
  have hk := (List.getElem?_eq_some_iff.mp hlesson).1
  refine (h k lesson hlesson).concat ?_ response
  change k < progress.lessons.length at hk
  omega

theorem taught_teach (h : driver.Teaches initial progress)
    (hjudged : round.Judged (driver.native progress.roundIndex)) (scoreImproved : Bool) :
    driver.Taught initial (driver.teach progress.rejecting scoreImproved round) := by
  have hmove := driver.teach_moves progress.rejecting scoreImproved round
  generalize driver.teach progress.rejecting scoreImproved round = phase at hmove
  have hreceived : ∀ {request response}, LoopDriver.request progress.rejecting round = .ok request →
      driver.Sent initial ((progress.rejecting.sending ⟨round, request⟩).receiving response) := by
    intro request response hrequest
    refine sent_receiving (sent_sending h hjudged hrequest) ?_ response
    have hlessons := h.lessons
    have hresponses := h.responses
    simp only [Progress.sending, Progress.rejecting, List.length_append, List.length_singleton]
    omega
  cases hmove with
  | unasked hrequest => exact h.sent
  | unanswered hrequest hresponse => exact sent_sending h hjudged hrequest
  | unproposed hrequest hresponse hpropose => exact hreceived hrequest
  | stalled hrequest hresponse hpropose hpatience =>
    refine sent_finish ?_ _ _
    exact hreceived hrequest
  | unfrozen hrequest hresponse hpropose hfreeze => exact hreceived hrequest
  | @continued request response added registry noProgressCount hrequest hresponse hpropose hfreeze =>
    have hlessons := h.lessons
    have hresponses := h.responses
    refine ⟨?_, ?_, ?_, ?_, hreceived hrequest⟩
    · simp only [Progress.turning, Progress.frozen, Progress.proposing, Progress.receiving,
        Progress.sending, Progress.rejecting, List.length_append, List.length_singleton]
      omega
    · simp only [Progress.turning, Progress.frozen, Progress.proposing, Progress.receiving,
        Progress.sending, Progress.rejecting, List.length_append, List.length_singleton]
      omega
    · change nextRevision progress.current response (progress.roundIndex + 1) =
        revisionAt initial (progress.responses ++ [response])
      rw [revisionAt_concat, hresponses, ← h.current]
    · change progress.rejectedFingerprints ++ [progress.current.fingerprint] =
        rejectedBefore initial (progress.responses ++ [response]) (progress.roundIndex + 1)
      rw [rejectedBefore_concat (by omega), rejectedBefore, List.range_succ, List.map_append,
        h.rejected, h.current, rejectedBefore]
      simp only [List.map_cons, List.map_nil, List.take_of_length_le hresponses.le]

theorem teaches_evaluated (h : driver.Teaches initial progress) (round : EvaluatedRound) :
    driver.Teaches initial (progress.evaluated round) :=
  ⟨h.lessons, h.responses, h.current, h.rejected, h.sent⟩

theorem taught_round (h : driver.Teaches initial progress) :
    driver.Taught initial (driver.round progress) := by
  have hmove := driver.round_moves progress
  generalize driver.round progress = phase at hmove
  cases hmove with
  | unevaluated hevaluation => exact h.sent
  | converged hevaluation hconverged =>
    refine sent_finish ?_ _ _
    exact h.sent
  | exhausted hevaluation hconverged hlast =>
    refine sent_finish ?_ _ _
    exact h.sent
  | taught hevaluation hconverged hmore hnext =>
    rw [hnext]
    exact taught_teach (teaches_evaluated h _) (judged_of_evaluation hevaluation) _

theorem taught_step (phase : LoopPhase) (turn : Unit) (h : driver.Taught initial phase) :
    driver.Taught initial (driver.step phase turn) := by
  cases phase with
  | going progress => exact taught_round h
  | returned progress result => exact h
  | raised progress error => exact h

theorem start_teaches {registry : LoopRevisionRegistry} {directories : List Nat}
    (h : driver.start initial registry directories = .ok progress) :
    driver.Teaches initial progress := by
  obtain ⟨opened, latest, -, -, rfl⟩ := start_ok h
  refine ⟨rfl, rfl, rfl, rfl, ?_⟩
  intro k lesson hlesson
  cases hlesson

def lessons (driver : LoopDriver) (initial : LoopRevision) (registry : LoopRevisionRegistry)
    (directories : List Nat) : List Lesson :=
  match driver.start initial registry directories with
  | .ok progress => (driver.rounds progress).progress.lessons
  | .error _ => []

def responses (driver : LoopDriver) (initial : LoopRevision) (registry : LoopRevisionRegistry)
    (directories : List Nat) : List ParentModelResponse :=
  match driver.start initial registry directories with
  | .ok progress => (driver.rounds progress).progress.responses
  | .error _ => []

/-- The `k`-th request of a run is what the responses before it and the attempts
on the feedback tasks make it. -/
theorem lesson_at {registry : LoopRevisionRegistry} {directories : List Nat} {k : Nat}
    {lesson : Lesson} (h : (driver.lessons initial registry directories)[k]? = some lesson) :
    lesson.At (driver.native k) initial (driver.responses initial registry directories) k := by
  rw [lessons] at h
  rw [responses]
  cases hstart : driver.start initial registry directories with
  | error error =>
    rw [hstart] at h
    cases h
  | ok progress =>
    rw [hstart] at h
    have htaught : driver.Taught initial (driver.rounds progress) :=
      run_invariant (I := driver.Taught initial) taught_step _ driver.turns (start_teaches hstart)
    dsimp only at h ⊢
    generalize driver.rounds progress = phase at h htaught
    cases phase with
    | going final => exact htaught.sent k lesson h
    | returned final result => exact htaught k lesson h
    | raised final error => exact htaught k lesson h

end LoopDriver

/-- What counts as resolved in a rate. -/
def EvaluatedRound.resolves (round : EvaluatedRound) (attempt : StudentAttempt) : Bool :=
  (round.evaluation.nativeOutcomes.get? attempt.task.taskId).any NativeOutcome.natively

/-- A reason that the attempt was given, or that its outcome shows. -/
def Describes (attempt : StudentAttempt) (outcome : NativeOutcome) (reason : String) : Prop :=
  attempt.failureReason = some reason ∨ attempt.failureReason = none ∧
    ((reason = "eval-infra" ∧ outcome.infrastructureError = true) ∨
      (reason = "regression" ∧ outcome.infrastructureError = false ∧ outcome.safe = false) ∨
      (reason = "native-unresolved" ∧ outcome.infrastructureError = false ∧ outcome.safe = true ∧
        outcome.resolved = false))

/-- The evidence is on the feedback tasks that were not resolved, each with a
reason of its own outcome, and these reasons are counted. -/
structure Lesson.Exact (lesson : Lesson) : Prop where
  tasks : lesson.request.feedback.armEvidence.map FailureEvidence.taskId =
    ((ofCohort .feedback lesson.taught.attempts).filter fun attempt =>
      !lesson.taught.resolves attempt).map fun attempt => attempt.task.taskId
  reasons : ∀ row ∈ lesson.request.feedback.armEvidence,
    ∃ attempt ∈ ofCohort .feedback lesson.taught.attempts, ∃ outcome,
      lesson.taught.evaluation.nativeOutcomes.get? row.taskId = some outcome ∧
        row.taskId = attempt.task.taskId ∧ Describes attempt outcome row.reasonCode
  counts : ∀ reason, (lesson.request.feedback.reasonCounts.get? reason).getD 0 =
    lesson.request.feedback.armEvidence.countP fun row => row.reasonCode = reason
  counted : ∀ reason, (lesson.request.feedback.reasonCounts.get? reason).isSome →
    ∃ row ∈ lesson.request.feedback.armEvidence, row.reasonCode = reason

/-- Every feedback task is still unresolved. -/
def EvaluatedRound.NoneResolved (round : EvaluatedRound) : Prop :=
  ∀ attempt ∈ ofCohort .feedback round.attempts, round.resolves attempt = false

theorem EvaluatedRound.Judged.outcome (h : round.Judged native) {attempt : StudentAttempt}
    (hmem : attempt ∈ ofCohort .feedback round.attempts) :
    round.evaluation.nativeOutcomes.get? attempt.task.taskId = some (judge native attempt) := by
  rw [h.outcomes]
  exact get?_outcomesOf h.nodup (List.mem_filter.mp hmem).1

theorem describes_feedbackReason {attempt : StudentAttempt} {outcome : NativeOutcome}
    (h : outcome.natively = false) : Describes attempt outcome (feedbackReason attempt outcome) := by
  unfold Describes feedbackReason
  cases hreason : attempt.failureReason with
  | some reason => exact Or.inl rfl
  | none =>
    refine Or.inr ⟨rfl, ?_⟩
    cases herror : outcome.infrastructureError with
    | true => exact Or.inl ⟨rfl, rfl⟩
    | false =>
      cases hsafe : outcome.safe with
      | false => exact Or.inr (Or.inl ⟨rfl, rfl, rfl⟩)
      | true =>
        have hunresolved : outcome.resolved = false := by
          simpa [NativeOutcome.natively, herror, hsafe] using h
        exact Or.inr (Or.inr ⟨rfl, rfl, rfl, hunresolved⟩)

theorem Lesson.At.exact_iff {lesson : Lesson} {initial : LoopRevision}
    {responses : List ParentModelResponse} {k : Nat} (h : lesson.At native initial responses k) :
    lesson.Exact ↔ lesson.taught.NoneResolved := by
  obtain ⟨noProgress, hrequest⟩ := h.request
  have hrows : lesson.request.feedback.armEvidence = evidenceRows native lesson.taught.attempts := by
    rw [hrequest]
    rfl
  have hcounts : lesson.request.feedback.reasonCounts =
      countReasons (evidenceRows native lesson.taught.attempts) := by
    rw [hrequest]
    rfl
  have htasks : (evidenceRows native lesson.taught.attempts).map FailureEvidence.taskId =
      (ofCohort .feedback lesson.taught.attempts).map fun attempt => attempt.task.taskId := by
    rw [evidenceRows, List.map_map]
    rfl
  constructor
  · intro hexact attempt hattempt
    have hlength := congrArg List.length hexact.tasks
    rw [hrows, htasks, List.length_map, List.length_map] at hlength
    simpa using List.length_filter_eq_length_iff.mp hlength.symm attempt hattempt
  · intro hnone
    refine ⟨?_, ?_, ?_, ?_⟩
    · rw [hrows, htasks, List.filter_eq_self.mpr]
      intro attempt hattempt
      rw [hnone attempt hattempt, Bool.not_false]
    · rw [hrows]
      intro row hrow
      obtain ⟨attempt, hattempt, rfl⟩ := List.mem_map.mp hrow
      have houtcome := h.judged.outcome hattempt
      refine ⟨attempt, hattempt, judge native attempt, houtcome, rfl, ?_⟩
      refine describes_feedbackReason ?_
      have hresolves := hnone attempt hattempt
      rw [EvaluatedRound.resolves, houtcome] at hresolves
      exact hresolves
    · intro reason
      rw [hrows, hcounts]
      exact get?_countReasons _ reason
    · intro reason hreason
      rw [hcounts] at hreason
      rw [hrows]
      exact reason_of_mem_countReasons hreason

namespace LoopDriver

/-- Whatever the run: the `k`-th request reports exactly the unresolved feedback
tasks when none of them is resolved, and only then. -/
theorem feedback_exact_iff (driver : LoopDriver) (initial : LoopRevision)
    (registry : LoopRevisionRegistry) (directories : List Nat) (k : Nat) :
    (∀ lesson ∈ (driver.lessons initial registry directories)[k]?, lesson.Exact) ↔
      ∀ lesson ∈ (driver.lessons initial registry directories)[k]?,
        lesson.taught.NoneResolved := by
  constructor
  · intro h lesson hlesson
    exact (lesson_at hlesson).exact_iff.mp (h lesson hlesson)
  · intro h lesson hlesson
    exact (lesson_at hlesson).exact_iff.mpr (h lesson hlesson)

/-- The later state has the history of the earlier one. -/
structure Continues (progress next : Progress) : Prop where
  lessons : progress.lessons <+: next.lessons
  proposed : progress.proposed <+: next.proposed

theorem Continues.refl (progress : Progress) : Continues progress progress :=
  ⟨List.prefix_rfl, List.prefix_rfl⟩

theorem Continues.trans {first second third : Progress} (h : Continues first second)
    (hnext : Continues second third) : Continues first third :=
  ⟨h.lessons.trans hnext.lessons, h.proposed.trans hnext.proposed⟩

theorem continues_finish (progress : Progress) (status : LoopStatus) (revision : LoopRevision) :
    Continues progress (finish progress status revision).progress := by
  by_cases htaken : progress.roundIndex ∈ progress.directories
  · obtain ⟨error, heq⟩ : ∃ error, finish progress status revision = .raised progress error :=
      finish_of_taken htaken
    rw [heq]
    exact Continues.refl progress
  · rw [finish_of_free htaken]
    exact ⟨List.prefix_rfl, List.prefix_rfl⟩

theorem continues_proposing (progress : Progress) (lesson : Lesson)
    (response : ParentModelResponse) (noProgressCount : Nat) (next : LoopRevision) (added : Bool)
    (registry : LoopRevisionRegistry) :
    Continues (progress.sending lesson) (((progress.sending lesson).receiving response).proposing
      noProgressCount next added registry) :=
  ⟨List.prefix_rfl, List.prefix_append _ _⟩

theorem continues_sending (progress : Progress) (lesson : Lesson) :
    Continues progress (progress.sending lesson) :=
  ⟨List.prefix_append _ _, List.prefix_rfl⟩

theorem continues_teach_of_request {driver : LoopDriver} {progress : Progress}
    {round : EvaluatedRound} {request : ParentModelRequest}
    (h : LoopDriver.request progress round = .ok request) (scoreImproved : Bool) :
    Continues (progress.sending ⟨round, request⟩)
      (driver.teach progress scoreImproved round).progress := by
  have hmove := driver.teach_moves progress scoreImproved round
  generalize driver.teach progress scoreImproved round = phase at hmove
  cases hmove with
  | unasked hrequest =>
    rw [h] at hrequest
    cases hrequest
  | unanswered hrequest hresponse =>
    obtain rfl := Except.ok.inj (h.symm.trans hrequest)
    exact Continues.refl _
  | unproposed hrequest hresponse hpropose =>
    obtain rfl := Except.ok.inj (h.symm.trans hrequest)
    exact ⟨List.prefix_rfl, List.prefix_rfl⟩
  | stalled hrequest hresponse hpropose hpatience =>
    obtain rfl := Except.ok.inj (h.symm.trans hrequest)
    exact (continues_proposing progress _ _ _ _ _ _).trans (continues_finish _ _ _)
  | unfrozen hrequest hresponse hpropose hfreeze =>
    obtain rfl := Except.ok.inj (h.symm.trans hrequest)
    exact continues_proposing progress _ _ _ _ _ _
  | continued hrequest hresponse hpropose hfreeze =>
    obtain rfl := Except.ok.inj (h.symm.trans hrequest)
    exact ⟨List.prefix_rfl, List.prefix_append _ _⟩

theorem continues_teach (driver : LoopDriver) (progress : Progress) (scoreImproved : Bool)
    (round : EvaluatedRound) :
    Continues progress (driver.teach progress scoreImproved round).progress := by
  cases hrequest : LoopDriver.request progress round with
  | error error =>
    simp only [teach, hrequest]
    exact Continues.refl progress
  | ok request =>
    exact (continues_sending progress _).trans (continues_teach_of_request hrequest scoreImproved)

theorem continues_step (driver : LoopDriver) (phase : LoopPhase) (turn : Unit) :
    Continues phase.progress (driver.step phase turn).progress := by
  cases phase with
  | returned progress result => exact Continues.refl progress
  | raised progress error => exact Continues.refl progress
  | going progress =>
    change Continues progress (driver.round progress).progress
    have hmove := driver.round_moves progress
    generalize driver.round progress = next at hmove
    cases hmove with
    | unevaluated hevaluation => exact Continues.refl progress
    | @converged evaluation hevaluation hconverged =>
      exact ⟨(continues_finish (progress.evaluated _) _ _).lessons,
        (continues_finish (progress.evaluated _) _ _).proposed⟩
    | @exhausted evaluation hevaluation hconverged hlast =>
      exact ⟨(continues_finish (progress.evaluated _).rejecting _ _).lessons,
        (continues_finish (progress.evaluated _).rejecting _ _).proposed⟩
    | @taught evaluation next hevaluation hconverged hmore hnext =>
      rw [hnext]
      have hteach := continues_teach driver
        (progress.evaluated (driver.evaluatedRound progress evaluation)).rejecting
        (progress.improves evaluation.score) (driver.evaluatedRound progress evaluation)
      exact ⟨hteach.lessons, hteach.proposed⟩

theorem continues_run (driver : LoopDriver) (phase : LoopPhase) (turns : List Unit) :
    Continues phase.progress (Library.run driver.step phase turns).progress := by
  induction turns generalizing phase with
  | nil => exact Continues.refl _
  | cons turn rest ih => exact (continues_step driver phase turn).trans (ih _)

theorem lesson_smallLoop {native : NativeEvaluator}
    (hfails : ((smallLoop native).evaluation (opening plainRevision)).map
      RoundEvaluation.converged = .ok false)
    (hreportable : ∀ evidence ∈ evidenceRows native
      ((smallLoop native).attempts (opening plainRevision)), evidence.validate = .ok ()) :
    ∃ lesson, ((smallLoop native).lessons plainRevision ⟨[]⟩ [])[0]? = some lesson ∧
      lesson.taught.attempts = (smallLoop native).attempts (opening plainRevision) := by
  obtain ⟨evaluation, hevaluation, hconverged⟩ := (except_map_ok_iff _ _ _).mp hfails
  have hjudged : EvaluatedRound.Judged ((smallLoop native).evaluatedRound
      (opening plainRevision) evaluation) native := judged_of_evaluation hevaluation
  have hvalid : plainRevision.Valid := extends_plainRevision.valid
  have hrejected : ∀ fingerprint ∈ ((opening plainRevision).evaluated
      ((smallLoop native).evaluatedRound (opening plainRevision)
        evaluation)).rejecting.rejectedFingerprints, isSha256 fingerprint = true := by
    intro fingerprint hmem
    rw [List.mem_singleton.mp hmem]
    exact Json.contentSha256_isSha256 _
  obtain ⟨request, hrequest⟩ : ∃ request, LoopDriver.request ((opening plainRevision).evaluated
      ((smallLoop native).evaluatedRound (opening plainRevision) evaluation)).rejecting
      ((smallLoop native).evaluatedRound (opening plainRevision) evaluation) = .ok request :=
    ⟨_, (request_ok_iff hjudged hvalid hrejected _).mpr ⟨hreportable, rfl⟩⟩
  have hround : (smallLoop native).round (opening plainRevision) =
      (smallLoop native).teach ((opening plainRevision).evaluated
        ((smallLoop native).evaluatedRound (opening plainRevision) evaluation)).rejecting
        ((opening plainRevision).improves evaluation.score)
        ((smallLoop native).evaluatedRound (opening plainRevision) evaluation) := by
    simp only [round, hevaluation, hconverged]
    rfl
  have hfirst := (@continues_teach_of_request (smallLoop native) _ _ _ hrequest
    ((opening plainRevision).improves evaluation.score)).lessons
  rw [← hround] at hfirst
  obtain ⟨rest, hrest⟩ := hfirst.trans (continues_run (smallLoop native)
    ((smallLoop native).round (opening plainRevision)) [()]).lessons
  have hrounds : (smallLoop native).rounds (opening plainRevision) =
      Library.run (smallLoop native).step ((smallLoop native).round (opening plainRevision)) [()] :=
    rfl
  refine ⟨⟨(smallLoop native).evaluatedRound (opening plainRevision) evaluation, request⟩, ?_, ?_⟩
  · simp only [lessons, start_smallLoop native extends_plainRevision, hrounds, ← hrest]
    rfl
  · rfl

/-- Lessons are resolved, exams are not. -/
def examFails : NativeEvaluator := fun attempt =>
  .ok (if attempt.task.cohort = .feedback then resolvedOutcome else ⟨false, true, "wrong", false⟩)

theorem converged_examFails :
    ((smallLoop examFails).evaluation (opening plainRevision)).map RoundEvaluation.converged =
      .ok false := by
  decide +kernel

theorem reportable_examFails : ∀ evidence ∈ evidenceRows examFails
    ((smallLoop examFails).attempts (opening plainRevision)), evidence.validate = .ok () := by
  decide

theorem resolves_examFails : ∀ attempt ∈ ofCohort .feedback
    ((smallLoop examFails).attempts (opening plainRevision)),
      ((outcomesOf examFails ((smallLoop examFails).attempts (opening plainRevision))).get?
        attempt.task.taskId).any NativeOutcome.natively = true := by
  decide

/-- A resolved task is reported as unresolved when only the exam has failed. -/
theorem resolved_lesson_reported : ∃ lesson ∈
    ((smallLoop examFails).lessons plainRevision ⟨[]⟩ [])[0]?, ¬lesson.Exact := by
  obtain ⟨lesson, hlesson, hattempts⟩ := lesson_smallLoop converged_examFails reportable_examFails
  have hat := lesson_at hlesson
  refine ⟨lesson, hlesson, ?_⟩
  intro hexact
  have hnone := hat.exact_iff.mp hexact
  obtain ⟨attempt, hattempt⟩ := List.exists_mem_of_ne_nil _ hat.judged.feedback
  have hunresolved := hnone attempt hattempt
  have houtcomes : lesson.taught.evaluation.nativeOutcomes =
      outcomesOf examFails ((smallLoop examFails).attempts (opening plainRevision)) := by
    rw [hat.judged.outcomes, hattempts]
    rfl
  rw [hattempts] at hattempt
  rw [EvaluatedRound.resolves, houtcomes, resolves_examFails attempt hattempt] at hunresolved
  cases hunresolved

end LoopDriver

end JlensEvolve.SkillLoop
