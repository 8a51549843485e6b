import JlensEvolve.SkillLoop.Teaching

/-!
`LoopDriver.run` of `loop.py`, as steps over the state of the loop. The student,
the native evaluator and the parent model are whatever they are in each round;
`ParentModelAdapter.generate` is taken as the call it is, which returns a
response or raises.
-/

namespace JlensEvolve.SkillLoop

open Library Contracts

/-- An expiry is written as its ISO text. -/
structure LoopAuthorization where
  schemaVersion : Json
  authorizationId : String
  approvedBy : String
  maximumParentCalls : Int
  expiresAt : String
deriving DecidableEq

namespace LoopAuthorization

/-- The instant of the expiry, which must be zoned. -/
def expiry? (fromisoformat : Fromisoformat) (authorization : LoopAuthorization) : Option Int :=
  match fromisoformat authorization.expiresAt with
  | some (.zoned instant) => some instant
  | _ => none

def validate (fromisoformat : Fromisoformat) (authorization : LoopAuthorization) :
    Except String Unit := do
  require (Json.pyEq authorization.schemaVersion (.int 1) = true)
    "unsupported authorization schema"
  requireIdentifier "authorization_id" authorization.authorizationId
  requireNonempty "approved_by" authorization.approvedBy
  require (1 ≤ authorization.maximumParentCalls) "maximum_parent_calls must be a positive integer"
  require ((authorization.expiry? fromisoformat).isSome = true)
    "authorization expiry must be timezone-aware"

def assertActive (fromisoformat : Fromisoformat) (now : Int) (authorization : LoopAuthorization) :
    Except String Unit :=
  require ((authorization.expiry? fromisoformat).any (fun expiry => now < expiry) = true)
    "authorization has expired"

end LoopAuthorization

structure LoopConfig where
  maxRounds : Nat
  noProgressPatience : Nat
  rounds : 1 ≤ maxRounds
  patience : 1 ≤ noProgressPatience

inductive LoopStatus where
  | converged
  | noProgress
  | exhausted
deriving DecidableEq, Repr

structure LoopResult where
  status : LoopStatus
  roundsCompleted : Nat
  finalRevision : LoopRevision
  bestRevision : LoopRevision
  evaluations : List RoundEvaluation

/-- The reason `_feedback` gives for an attempt. -/
def feedbackReason (attempt : StudentAttempt) (outcome : NativeOutcome) : String :=
  match attempt.failureReason with
  | some reason => reason
  | none =>
    if outcome.infrastructureError then "eval-infra"
    else if !outcome.safe then "regression"
    else "native-unresolved"

/-- `first or second` on texts. -/
def textOr (first second : String) : String := if first = "" then second else first

def evidenceOf (attempt : StudentAttempt) (outcome : NativeOutcome) : FailureEvidence :=
  let reason := feedbackReason attempt outcome
  { taskId := attempt.task.taskId
    reasonCode := reason
    diagnosticSummary := textOr outcome.detail (textOr attempt.detail reason)
    rawOutputSha256 := attempt.rawOutputSha256
    extractedEditSha256 := attempt.patchSha256
    applyError := if reason = "apply-fail" then some attempt.detail else none }

/-- One turn of the loop of `_feedback`. -/
def failureEvidence (outcomes : Dict String NativeOutcome) (attempt : StudentAttempt) :
    Except String FailureEvidence :=
  match outcomes.get? attempt.task.taskId with
  | some outcome => do
      let evidence := evidenceOf attempt outcome
      evidence.validate
      pure evidence
  | none => .error "KeyError"

/-- `_feedback`. -/
def feedbackPackage (roundIndex : Nat) (revision : LoopRevision) (attempts : List StudentAttempt)
    (evaluation : RoundEvaluation) (noProgress : Bool) (rejectedFingerprints : List String) :
    Except String FeedbackPackage := do
  let evidence ← (ofCohort .feedback attempts).mapM (failureEvidence evaluation.nativeOutcomes)
  require (evidence ≠ []) "failed round produced no feedback-arm evidence"
  FeedbackPackage.create roundIndex evidence revision.evalNote noProgress
    (fromKeys rejectedFingerprints)

/-- `f"{n:03d}"`. -/
def pad3 (n : Nat) : String :=
  String.ofList (List.replicate (3 - (toString n).length) '0') ++ toString n

def nextRevisionId (skillId : String) (sourceRound : Nat) (response : ParentModelResponse) :
    String :=
  skillId ++ "-r" ++ pad3 sourceRound ++ "-" ++ String.ofList (response.sha256.toList.take 8)

/-- The revision `_next_revision` constructs. -/
def nextRevision (current : LoopRevision) (response : ParentModelResponse) (sourceRound : Nat) :
    LoopRevision where
  schemaVersion := .int 1
  skillId := current.skillId
  revisionId := nextRevisionId current.skillId sourceRound response
  parentRevisionId := some current.revisionId
  sourceRound := sourceRound
  protocol := response.protocol
  skillText := response.skillText
  promptTemplate := response.promptTemplate
  evalNote := response.evalNote

def sameMechanism (left right : LoopRevision) : Bool :=
  (left.protocol, left.skillText, left.promptTemplate) =
    (right.protocol, right.skillText, right.promptTemplate)

structure LoopDriver where
  student : Student
  /-- The native evaluator in each round. -/
  native : Nat → NativeEvaluator
  rounded : ℚ → ℚ
  policy : EvaluationPolicy
  baseline : EvaluationBaseline
  /-- `ParentModelAdapter.generate` in each round. -/
  generate : Nat → String → ParentModelRequest → Except String ParentModelResponse
  authorization : LoopAuthorization
  fromisoformat : Fromisoformat
  now : Int
  config : LoopConfig
  tasks : List StudentTask
  checkouts : Checkouts

structure EvaluatedRound where
  revision : LoopRevision
  attempts : List StudentAttempt
  evaluation : RoundEvaluation

/-- The revision that was under evaluation, the evaluation and the request that
went to the parent model. -/
structure Lesson where
  taught : EvaluatedRound
  request : ParentModelRequest

/-- The variables of `run`, the files it writes to and what it sent and
received; `rounds` holds the evaluations with their revisions. -/
structure Progress where
  roundIndex : Nat
  current : LoopRevision
  best : LoopRevision
  bestScore : Option Score
  noProgressCount : Nat
  rejectedFingerprints : List String
  rounds : List EvaluatedRound
  registry : LoopRevisionRegistry
  /-- The rounds whose directory is in the evidence root. -/
  directories : List Nat
  lessons : List Lesson
  responses : List ParentModelResponse
  /-- The next revisions with what `append` returned. -/
  proposed : List (LoopRevision × Bool)

inductive LoopPhase where
  | going (progress : Progress)
  | returned (progress : Progress) (result : LoopResult)
  | raised (progress : Progress) (error : String)

namespace LoopPhase

def progress : LoopPhase → Progress
  | .going progress => progress
  | .returned progress _ => progress
  | .raised progress _ => progress

end LoopPhase

namespace Progress

variable (progress : Progress)

/-- Whether this score is a new best one. -/
def improves (score : Score) : Bool := progress.bestScore.all fun bestScore => bestScore < score

/-- The evaluation of the current revision is kept, and the revision where its
score is a new best one. -/
def evaluated (round : EvaluatedRound) : Progress where
  roundIndex := progress.roundIndex
  current := progress.current
  best := if progress.improves round.evaluation.score then progress.current else progress.best
  bestScore :=
    if progress.improves round.evaluation.score then some round.evaluation.score
    else progress.bestScore
  noProgressCount := progress.noProgressCount
  rejectedFingerprints := progress.rejectedFingerprints
  rounds := progress.rounds ++ [round]
  registry := progress.registry
  directories := progress.directories
  lessons := progress.lessons
  responses := progress.responses
  proposed := progress.proposed

def rejecting : Progress :=
  { progress with
    rejectedFingerprints := progress.rejectedFingerprints ++ [progress.current.fingerprint] }

def sending (lesson : Lesson) : Progress :=
  { progress with lessons := progress.lessons ++ [lesson] }

def receiving (response : ParentModelResponse) : Progress :=
  { progress with responses := progress.responses ++ [response] }

def noProgressAfter (scoreImproved : Bool) (next : LoopRevision) : Nat :=
  if (0 < progress.roundIndex ∧ scoreImproved = false) ∨
      sameMechanism progress.current next = true then progress.noProgressCount + 1
  else 0

/-- `append` has returned. -/
def proposing (noProgressCount : Nat) (next : LoopRevision) (added : Bool)
    (registry : LoopRevisionRegistry) : Progress :=
  { progress with noProgressCount, registry, proposed := progress.proposed ++ [(next, added)] }

/-- The directory of the round is in the evidence root. -/
def frozen : Progress :=
  { progress with directories := progress.directories ++ [progress.roundIndex] }

def turning (next : LoopRevision) : Progress :=
  { progress with roundIndex := progress.roundIndex + 1, current := next }

end Progress

namespace LoopDriver

variable (driver : LoopDriver)

/-- What `run` does before its loop. -/
def start (initial : LoopRevision) (registry : LoopRevisionRegistry) (directories : List Nat) :
    Except String Progress := do
  initial.validate
  driver.authorization.validate driver.fromisoformat
  driver.authorization.assertActive driver.fromisoformat driver.now
  require (driver.tasks ≠ []) "loop requires student tasks"
  require (driver.tasks.map StudentTask.taskId).Nodup "loop task ids must be unique"
  driver.tasks.forM (StudentTask.validate driver.checkouts)
  let latest ← registry.latest initial.skillId
  let opened ← openRegistry latest
  pure {
    roundIndex := 0
    current := initial
    best := initial
    bestScore := none
    noProgressCount := 0
    rejectedFingerprints := []
    rounds := []
    registry := opened
    directories
    lessons := []
    responses := []
    proposed := [] }
where
  /-- A first revision is appended, any other must be the head. -/
  openRegistry : Option LoopRevision → Except String LoopRevisionRegistry
    | none => (registry.append initial).map Prod.snd
    | some head => do
        require (head.fingerprint = initial.fingerprint) "initial revision is not the registry head"
        pure registry

def attempts (progress : Progress) : List StudentAttempt :=
  driver.tasks.map fun task => driver.student.run progress.roundIndex task progress.current

def evaluation (progress : Progress) : Except String RoundEvaluation :=
  evaluate driver.rounded driver.policy (driver.native progress.roundIndex) driver.baseline
    (driver.attempts progress)

def evaluatedRound (progress : Progress) (evaluation : RoundEvaluation) : EvaluatedRound :=
  ⟨progress.current, driver.attempts progress, evaluation⟩

/-- `_freeze_round`; what it writes is read by nothing here. -/
def freezeRound (progress : Progress) : Except String Progress := do
  require (progress.roundIndex ∉ progress.directories)
    ("round evidence already exists: round-" ++ pad3 progress.roundIndex)
  pure progress.frozen

def result (progress : Progress) (status : LoopStatus) (revision : LoopRevision) : LoopResult where
  status := status
  roundsCompleted := progress.roundIndex + 1
  finalRevision := revision
  bestRevision := revision
  evaluations := progress.rounds.map EvaluatedRound.evaluation

/-- Freezing the round and returning. -/
def finish (progress : Progress) (status : LoopStatus) (revision : LoopRevision) : LoopPhase :=
  match freezeRound progress with
  | .ok progress => .returned progress (result progress status revision)
  | .error error => .raised progress error

def request (progress : Progress) (round : EvaluatedRound) :
    Except String ParentModelRequest := do
  let feedback ← feedbackPackage progress.roundIndex progress.current round.attempts
    round.evaluation (decide (0 < progress.noProgressCount)) progress.rejectedFingerprints
  ParentModelRequest.create feedback progress.current

def callId (progress : Progress) : String :=
  progress.current.skillId ++ "-round-" ++ pad3 progress.roundIndex

/-- `LoopRevision.create` on what the parent model returned, and `append`. -/
def propose (progress : Progress) (next : LoopRevision) :
    Except String (Bool × LoopRevisionRegistry) := do
  next.validate
  progress.registry.append next

/-- The rest of a round after the parent model has responded; `scoreImproved` is
of its first half. -/
def adopt (progress : Progress) (scoreImproved : Bool) (response : ParentModelResponse) :
    LoopPhase :=
  let next := nextRevision progress.current response (progress.roundIndex + 1)
  let noProgressCount := progress.noProgressAfter scoreImproved next
  match propose progress next with
  | .error error => .raised progress error
  | .ok (added, registry) =>
    let progress := progress.proposing noProgressCount next added registry
    if driver.config.noProgressPatience ≤ noProgressCount then
      finish progress .noProgress progress.best
    else
      match freezeRound progress with
      | .ok progress => .going (progress.turning next)
      | .error error => .raised progress error

/-- The half of a round that asks the parent model. -/
def teach (progress : Progress) (scoreImproved : Bool) (round : EvaluatedRound) : LoopPhase :=
  match request progress round with
  | .error error => .raised progress error
  | .ok request =>
    let progress := progress.sending ⟨round, request⟩
    match driver.generate progress.roundIndex (callId progress) request with
    | .error error => .raised progress error
    | .ok response => driver.adopt (progress.receiving response) scoreImproved response

/-- One turn of the loop of `run`. -/
def round (progress : Progress) : LoopPhase :=
  match driver.evaluation progress with
  | .error error => .raised progress error
  | .ok evaluation =>
    let round := driver.evaluatedRound progress evaluation
    let scoreImproved := progress.improves evaluation.score
    let progress := progress.evaluated round
    if evaluation.converged then finish progress .converged progress.current
    else
      let progress := progress.rejecting
      if driver.config.maxRounds ≤ progress.roundIndex + 1 then
        finish progress .exhausted progress.best
      else driver.teach progress scoreImproved round

def step : LoopPhase → Unit → LoopPhase
  | .going progress, _ => driver.round progress
  | phase, _ => phase

/-- The rounds that `range(max_rounds)` allows. -/
def turns : List Unit := List.replicate driver.config.maxRounds ()

/-- The loop of `run`. -/
def rounds (progress : Progress) : LoopPhase :=
  Library.run driver.step (.going progress) driver.turns

end LoopDriver

/-- Each exit of a round, with the state it leaves and what it had checked. -/
inductive RoundMove (driver : LoopDriver) (progress : Progress) : LoopPhase → Prop
  | unevaluated {error : String} (hevaluation : driver.evaluation progress = .error error) :
      RoundMove driver progress (.raised progress error)
  | converged {evaluation : RoundEvaluation} (hevaluation : driver.evaluation progress = .ok evaluation)
      (hconverged : evaluation.converged = true) :
      RoundMove driver progress
        (LoopDriver.finish (progress.evaluated (driver.evaluatedRound progress evaluation))
          .converged progress.current)
  | exhausted {evaluation : RoundEvaluation} (hevaluation : driver.evaluation progress = .ok evaluation)
      (hconverged : evaluation.converged = false)
      (hlast : driver.config.maxRounds ≤ progress.roundIndex + 1) :
      RoundMove driver progress
        (LoopDriver.finish
          (progress.evaluated (driver.evaluatedRound progress evaluation)).rejecting .exhausted
          (progress.evaluated (driver.evaluatedRound progress evaluation)).best)
  | taught {evaluation : RoundEvaluation} {next : LoopPhase}
      (hevaluation : driver.evaluation progress = .ok evaluation)
      (hconverged : evaluation.converged = false)
      (hmore : progress.roundIndex + 1 < driver.config.maxRounds)
      (hnext : next = driver.teach
        (progress.evaluated (driver.evaluatedRound progress evaluation)).rejecting
        (progress.improves evaluation.score) (driver.evaluatedRound progress evaluation)) :
      RoundMove driver progress next

/-- Each exit of the half of a round that asks the parent model. -/
inductive TeachMove (driver : LoopDriver) (progress : Progress) (scoreImproved : Bool)
    (round : EvaluatedRound) : LoopPhase → Prop
  | unasked {error : String} (hrequest : LoopDriver.request progress round = .error error) :
      TeachMove driver progress scoreImproved round (.raised progress error)
  | unanswered {request : ParentModelRequest} {error : String}
      (hrequest : LoopDriver.request progress round = .ok request)
      (hresponse : driver.generate progress.roundIndex (LoopDriver.callId progress) request =
        .error error) :
      TeachMove driver progress scoreImproved round (.raised (progress.sending ⟨round, request⟩) error)
  | unproposed {request : ParentModelRequest} {response : ParentModelResponse} {error : String}
      (hrequest : LoopDriver.request progress round = .ok request)
      (hresponse : driver.generate progress.roundIndex (LoopDriver.callId progress) request =
        .ok response)
      (hpropose : LoopDriver.propose progress
        (nextRevision progress.current response (progress.roundIndex + 1)) = .error error) :
      TeachMove driver progress scoreImproved round
        (.raised ((progress.sending ⟨round, request⟩).receiving response) error)
  | stalled {request : ParentModelRequest} {response : ParentModelResponse} {added : Bool}
      {registry : LoopRevisionRegistry} {noProgressCount : Nat}
      (hrequest : LoopDriver.request progress round = .ok request)
      (hresponse : driver.generate progress.roundIndex (LoopDriver.callId progress) request =
        .ok response)
      (hpropose : LoopDriver.propose progress
        (nextRevision progress.current response (progress.roundIndex + 1)) = .ok (added, registry))
      (hpatience : driver.config.noProgressPatience ≤ noProgressCount) :
      TeachMove driver progress scoreImproved round
        (LoopDriver.finish (((progress.sending ⟨round, request⟩).receiving response).proposing
          noProgressCount (nextRevision progress.current response (progress.roundIndex + 1)) added
          registry) .noProgress progress.best)
  | unfrozen {request : ParentModelRequest} {response : ParentModelResponse} {added : Bool}
      {registry : LoopRevisionRegistry} {noProgressCount : Nat} {error : String}
      (hrequest : LoopDriver.request progress round = .ok request)
      (hresponse : driver.generate progress.roundIndex (LoopDriver.callId progress) request =
        .ok response)
      (hpropose : LoopDriver.propose progress
        (nextRevision progress.current response (progress.roundIndex + 1)) = .ok (added, registry))
      (hfreeze : progress.roundIndex ∈ progress.directories) :
      TeachMove driver progress scoreImproved round
        (.raised (((progress.sending ⟨round, request⟩).receiving response).proposing
          noProgressCount (nextRevision progress.current response (progress.roundIndex + 1)) added
          registry) error)
  | continued {request : ParentModelRequest} {response : ParentModelResponse} {added : Bool}
      {registry : LoopRevisionRegistry} {noProgressCount : Nat}
      (hrequest : LoopDriver.request progress round = .ok request)
      (hresponse : driver.generate progress.roundIndex (LoopDriver.callId progress) request =
        .ok response)
      (hpropose : LoopDriver.propose progress
        (nextRevision progress.current response (progress.roundIndex + 1)) = .ok (added, registry))
      (hfreeze : progress.roundIndex ∉ progress.directories) :
      TeachMove driver progress scoreImproved round
        (.going ((((progress.sending ⟨round, request⟩).receiving response).proposing
          noProgressCount (nextRevision progress.current response (progress.roundIndex + 1)) added
          registry).frozen.turning
            (nextRevision progress.current response (progress.roundIndex + 1))))

namespace LoopDriver

theorem freezeRound_ok {progress frozen : Progress} (h : freezeRound progress = .ok frozen) :
    progress.roundIndex ∉ progress.directories ∧ frozen = progress.frozen := by
  simp only [freezeRound, except_bind_ok_iff, require_ok_iff, exists_const] at h
  exact ⟨h.1, (Except.ok.inj h.2).symm⟩

theorem freezeRound_error {progress : Progress} {error : String}
    (h : freezeRound progress = .error error) : progress.roundIndex ∈ progress.directories := by
  by_contra hfree
  simp [freezeRound, require, hfree, bind, Except.bind, pure, Except.pure] at h

theorem freezeRound_of_free {progress : Progress}
    (h : progress.roundIndex ∉ progress.directories) :
    freezeRound progress = .ok progress.frozen := by
  simp [freezeRound, require, h, bind, Except.bind, pure, Except.pure]

theorem freezeRound_of_taken {progress : Progress} (h : progress.roundIndex ∈ progress.directories) :
    freezeRound progress =
      .error ("round evidence already exists: round-" ++ pad3 progress.roundIndex) := by
  simp [freezeRound, require, h, bind, Except.bind]

theorem finish_of_free {progress : Progress} {status : LoopStatus} {revision : LoopRevision}
    (h : progress.roundIndex ∉ progress.directories) :
    finish progress status revision =
      .returned progress.frozen (result progress.frozen status revision) := by
  rw [finish, freezeRound_of_free h]

theorem finish_of_taken {progress : Progress} {status : LoopStatus} {revision : LoopRevision}
    (h : progress.roundIndex ∈ progress.directories) :
    ∃ error, finish progress status revision = .raised progress error := by
  rw [finish, freezeRound_of_taken h]
  exact ⟨_, rfl⟩

theorem round_moves (driver : LoopDriver) (progress : Progress) :
    RoundMove driver progress (driver.round progress) := by
  unfold round
  cases hevaluation : driver.evaluation progress with
  | error error => exact .unevaluated hevaluation
  | ok evaluation =>
    dsimp only
    cases hconverged : evaluation.converged with
    | true => exact .converged hevaluation hconverged
    | false =>
      by_cases hlast : driver.config.maxRounds ≤ progress.roundIndex + 1
      · have hmove : RoundMove driver progress _ := .exhausted hevaluation hconverged hlast
        simpa [Progress.evaluated, Progress.rejecting, hlast] using hmove
      · have hmore : ¬driver.config.maxRounds ≤ ((progress.evaluated
            (driver.evaluatedRound progress evaluation)).rejecting).roundIndex + 1 := hlast
        rw [if_neg hmore]
        exact .taught hevaluation hconverged (by omega) rfl

theorem teach_moves (driver : LoopDriver) (progress : Progress) (scoreImproved : Bool)
    (round : EvaluatedRound) :
    TeachMove driver progress scoreImproved round (driver.teach progress scoreImproved round) := by
  unfold teach
  cases hrequest : request progress round with
  | error error => exact .unasked hrequest
  | ok request =>
    dsimp only
    cases hresponse : driver.generate progress.roundIndex (callId progress) request with
    | error error =>
      rw [show driver.generate (progress.sending ⟨round, request⟩).roundIndex
        (callId (progress.sending ⟨round, request⟩)) request = _ from hresponse]
      exact .unanswered hrequest hresponse
    | ok response =>
      rw [show driver.generate (progress.sending ⟨round, request⟩).roundIndex
        (callId (progress.sending ⟨round, request⟩)) request = _ from hresponse]
      dsimp only
      have hsame : propose ((progress.sending ⟨round, request⟩).receiving response)
          (nextRevision ((progress.sending ⟨round, request⟩).receiving response).current response
            (((progress.sending ⟨round, request⟩).receiving response).roundIndex + 1)) =
          propose progress (nextRevision progress.current response (progress.roundIndex + 1)) :=
        rfl
      cases hpropose : propose progress
          (nextRevision progress.current response (progress.roundIndex + 1)) with
      | error error =>
        simp only [adopt, hsame, hpropose]
        exact .unproposed hrequest hresponse hpropose
      | ok answer =>
        obtain ⟨added, registry⟩ := answer
        simp only [adopt, hsame, hpropose]
        split
        · next hpatience => exact .stalled hrequest hresponse hpropose hpatience
        · split
          · next frozen hfreeze =>
            obtain ⟨hfree, rfl⟩ := freezeRound_ok hfreeze
            exact .continued hrequest hresponse hpropose hfree
          · next error hfreeze =>
            have htaken := freezeRound_error hfreeze
            exact .unfrozen hrequest hresponse hpropose htaken

end LoopDriver

end JlensEvolve.SkillLoop
