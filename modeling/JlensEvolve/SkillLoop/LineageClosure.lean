import JlensEvolve.SkillLoop.Feedback

/-!
When `run` keeps its own books. A run numbers the revisions it proposes from 1
on, whatever the number of the revision it began with; the registry wants the
number to increase.
-/

namespace JlensEvolve.SkillLoop

open Library Contracts

theorem isIdentifierChar_pad3 (n : Nat) : ∀ c ∈ (pad3 n).toList, isIdentifierChar c = true := by
  intro c hc
  rw [pad3, String.toList_append, String.toList_ofList] at hc
  rcases List.mem_append.mp hc with hzero | hdigit
  · rw [List.eq_of_mem_replicate hzero]
    decide
  · have hc : c.isDigit = true := isDigit_of_mem_repr hdigit
    simp [isIdentifierChar, isIdentifierStart, hc]

theorem isIdentifier_nextRevisionId_iff {skillId : String} (h : isIdentifier skillId = true)
    (sourceRound : Nat) (response : ParentModelResponse) :
    isIdentifier (nextRevisionId skillId sourceRound response) = true ↔
      skillId.length + (pad3 sourceRound).length ≤ 117 := by
  have hsha := Json.contentSha256_isSha256 response.toDict
  simp only [Sha256.isSha256, Bool.and_eq_true, beq_iff_eq, List.all_eq_true] at hsha
  have hdigits : (response.sha256.toList.take 8).length = 8 := by
    rw [List.length_take, ParentModelResponse.sha256, hsha.1]
    rfl
  have hsuffix : ∀ c ∈ ("-r" ++ (pad3 sourceRound ++ ("-" ++
      String.ofList (response.sha256.toList.take 8)))).toList, isIdentifierChar c = true := by
    intro c hc
    simp only [String.toList_append, String.toList_ofList, List.mem_append] at hc
    rcases hc with hr | hnumber | hdash | hhex
    · obtain rfl | rfl : c = '-' ∨ c = 'r' := by simpa using hr
      · rfl
      · rfl
    · exact isIdentifierChar_pad3 sourceRound c hnumber
    · obtain rfl : c = '-' := by simpa using hdash
      rfl
    · exact isIdentifierChar_of_isHexChar (hsha.2 c (List.mem_of_mem_take hhex))
  rw [nextRevisionId, String.append_assoc, String.append_assoc, String.append_assoc,
    isIdentifier_append_iff h hsuffix]
  simp only [String.length_append, String.length_ofList, hdigits]
  have hr : "-r".length = 2 := rfl
  have hdash : "-".length = 1 := rfl
  omega

theorem ParentModelResponse.texts_of_valid {response : ParentModelResponse}
    (h : response.validate = .ok ()) :
    isText response.protocol = true ∧ isText response.skillText = true ∧
      isText response.promptTemplate = true ∧ isText response.evalNote = true := by
  simp only [validate, requireNonempty, except_bind_ok_iff, require_ok_iff, exists_const] at h
  exact h.2

theorem valid_nextRevision_iff {current : LoopRevision} {response : ParentModelResponse}
    (hcurrent : current.Valid) (hresponse : response.validate = .ok ()) (sourceRound : Nat) :
    (nextRevision current response sourceRound).Valid ↔
      current.skillId.length + (pad3 sourceRound).length ≤ 117 := by
  have hid := isIdentifier_nextRevisionId_iff hcurrent.skillId sourceRound response
  obtain ⟨hprotocol, htext, hprompt, hnote⟩ := response.texts_of_valid hresponse
  constructor
  · intro hvalid
    exact hid.mp hvalid.revisionId
  · intro hlength
    refine ⟨Json.pyEq_self _, hcurrent.skillId, hid.mpr hlength, ?_, Int.natCast_nonneg _, ?_⟩
    · intro parent hparent
      cases hparent
      exact hcurrent.revisionId
    · simp [LoopRevision.texts, nextRevision, hprotocol, htext, hprompt, hnote]

namespace LoopDriver

open LoopRevisionRegistry

variable {driver : LoopDriver} {progress : Progress} {round : EvaluatedRound}

/-- The parent model answers every request, and validly. -/
def Answers (driver : LoopDriver) : Prop :=
  ∀ round callId request, ∃ response, driver.generate round callId request = .ok response ∧
    response.validate = .ok ()

/-- The revision under evaluation is the last one of its skill. -/
structure OnHead (log : RevisionLog) (progress : Progress) : Prop where
  registry : log.registry = progress.registry
  holds : log.Holds
  head : (ofSkill progress.current.skillId log.appended).getLast? = some progress.current
  rejected : ∀ fingerprint ∈ progress.rejectedFingerprints, isSha256 fingerprint = true

theorem OnHead.current {log : RevisionLog} (h : OnHead log progress) : progress.current.Valid := by
  have hmem := List.mem_of_getLast? h.head
  exact h.holds.valid _ (List.mem_filter.mp hmem).1

/-- What the half of a round that asks the parent model needs. -/
structure Teachable (driver : LoopDriver) (progress : Progress) (round : EvaluatedRound) :
    Prop where
  evidence : ∀ evidence ∈ evidenceRows (driver.native progress.roundIndex) round.attempts,
    evidence.validate = .ok ()
  length : progress.current.skillId.length + (pad3 (progress.roundIndex + 1)).length ≤ 117
  sourceRound : progress.current.sourceRound ≤ progress.roundIndex
  fresh : ∀ request response stored, LoopDriver.request progress round = .ok request →
    driver.generate progress.roundIndex (callId progress) request = .ok response →
      revisionFormat.read isNewline progress.registry.rows = .ok stored →
        (nextRevision progress.current response (progress.roundIndex + 1)).fingerprint ∉
          stored.map LoopRevision.fingerprint

/-- There are tasks of both cohorts, the directory of the round is free, and a
round that asks the parent model has what it needs. -/
structure RoundFits (driver : LoopDriver) (progress : Progress) : Prop where
  cohorts : ∀ cohort, ∃ task ∈ driver.tasks, task.cohort = cohort
  directory : progress.roundIndex ∉ progress.directories
  teaching : ∀ evaluation, driver.evaluation progress = .ok evaluation →
    evaluation.converged = false → progress.roundIndex + 1 < driver.config.maxRounds →
      Teachable driver (progress.evaluated (driver.evaluatedRound progress evaluation)).rejecting
        (driver.evaluatedRound progress evaluation)

def Fits (driver : LoopDriver) : LoopPhase → Unit → Prop
  | .going progress, _ => RoundFits driver progress
  | _, _ => True

/-- Nothing was raised, and every revision proposed so far was added. -/
def Kept : LoopPhase → Prop
  | .raised _ _ => False
  | phase => ∀ entry ∈ phase.progress.proposed, entry.2 = true

/-- As long as the books are kept, the loop stands on the head of its skill. -/
def InStep (phase : LoopPhase) : Prop :=
  ∀ progress, phase = .going progress → Kept phase → ∃ log, OnHead log progress

theorem propose_true_iff {log : RevisionLog} (h : OnHead log progress) {next : LoopRevision}
    {registry : LoopRevisionRegistry} :
    propose progress next = .ok (true, registry) ↔
      log.Extends next ∧ registry = ⟨log.registry.rows ++ [next.toDict]⟩ := by
  rw [← h.holds.append_true_iff, propose, ← h.registry]
  simp only [except_bind_ok_iff, LoopRevision.validate_ok_iff]
  constructor
  · intro hrun
    obtain ⟨-, -, hrun⟩ := hrun
    exact hrun
  · intro hrun
    exact ⟨(), (h.holds.append_ok_iff.mp hrun).1, hrun⟩

theorem extends_nextRevision_iff {log : RevisionLog} (h : OnHead log progress)
    {response : ParentModelResponse} (hresponse : response.validate = .ok ()) :
    log.Extends (nextRevision progress.current response (progress.roundIndex + 1)) ↔
      progress.current.skillId.length + (pad3 (progress.roundIndex + 1)).length ≤ 117 ∧
        progress.current.sourceRound ≤ progress.roundIndex ∧
          (nextRevision progress.current response (progress.roundIndex + 1)).fingerprint ∉
            log.appended.map LoopRevision.fingerprint := by
  have hvalid := valid_nextRevision_iff h.current hresponse (progress.roundIndex + 1)
  have hskill : (nextRevision progress.current response (progress.roundIndex + 1)).skillId =
      progress.current.skillId := rfl
  have hround : (nextRevision progress.current response (progress.roundIndex + 1)).sourceRound =
      ((progress.roundIndex + 1 : Nat) : Int) := rfl
  rw [RevisionLog.stored_iff]
  constructor
  · intro hextends
    have hincreases := hextends.increases progress.current (by rw [hskill, h.head]; rfl)
    rw [hround] at hincreases
    exact ⟨hvalid.mp hextends.valid, by omega, hextends.fresh⟩
  · intro hfits
    refine ⟨hvalid.mpr hfits.1, hfits.2.2, ?_, ?_⟩
    · rw [hskill, h.head]
      rfl
    · intro last hlast
      rw [hskill, h.head] at hlast
      cases hlast
      rw [hround]
      omega

theorem OnHead.stored {log : RevisionLog} (h : OnHead log progress) :
    revisionFormat.read isNewline progress.registry.rows = .ok log.appended := by
  rw [← h.registry, h.holds.rows]
  exact RowFormat.read_newline h.holds.decodes

theorem OnHead.proposing {log : RevisionLog} (h : OnHead log progress) {next : LoopRevision}
    (hextends : log.Extends next) {noProgressCount : Nat} {added : Bool}
    {registry : LoopRevisionRegistry} (hregistry : registry = ⟨log.registry.rows ++ [next.toDict]⟩)
    (hskill : next.skillId = progress.current.skillId) :
    OnHead (log.after next) ((progress.proposing noProgressCount next added registry).frozen.turning
      next) := by
  have hafter := h.holds.after_of_extends hextends
  refine ⟨?_, h.holds.after next, ?_, h.rejected⟩
  · rw [hafter, hregistry]
    rfl
  · change (ofSkill next.skillId (log.after next).appended).getLast? = some next
    rw [hafter, ofSkill, List.filter_append]
    simp

theorem kept_finish_iff {status : LoopStatus} {revision : LoopRevision} :
    Kept (finish progress status revision) ↔
      progress.roundIndex ∉ progress.directories ∧ ∀ entry ∈ progress.proposed, entry.2 = true := by
  by_cases htaken : progress.roundIndex ∈ progress.directories
  · obtain ⟨error, heq⟩ : ∃ error, finish progress status revision = .raised progress error :=
      finish_of_taken htaken
    rw [heq]
    simp [Kept, htaken]
  · rw [finish_of_free htaken]
    simp [Kept, htaken, LoopPhase.progress, Progress.frozen]

theorem added_concat_iff {proposed : List (LoopRevision × Bool)} {next : LoopRevision}
    {added : Bool} :
    (∀ entry ∈ proposed ++ [(next, added)], entry.2 = true) ↔
      (∀ entry ∈ proposed, entry.2 = true) ∧ added = true := by
  rw [List.forall_mem_append]
  simp

theorem finish_ne_going (progress : Progress) (status : LoopStatus) (revision : LoopRevision)
    (next : Progress) : finish progress status revision ≠ .going next := by
  intro hnext
  rw [finish] at hnext
  split at hnext <;> cases hnext

section Teach

variable {log : RevisionLog} {request : ParentModelRequest} {response : ParentModelResponse}
  {registry : LoopRevisionRegistry}

theorem teachable_of_added (h : OnHead log progress)
    (hjudged : round.Judged (driver.native progress.roundIndex)) (hanswers : driver.Answers)
    (hrequest : LoopDriver.request progress round = .ok request)
    (hresponse : driver.generate progress.roundIndex (callId progress) request = .ok response)
    (hpropose : propose progress (nextRevision progress.current response (progress.roundIndex + 1)) =
      .ok (true, registry)) : Teachable driver progress round := by
  obtain ⟨answer, hanswer, hvalid⟩ := hanswers progress.roundIndex (callId progress) request
  cases hresponse.symm.trans hanswer
  obtain ⟨hlength, hround, hfresh⟩ :=
    (extends_nextRevision_iff h hvalid).mp ((propose_true_iff h).mp hpropose).1
  refine ⟨((request_ok_iff hjudged h.current h.rejected request).mp hrequest).1, hlength, hround, ?_⟩
  intro other reply stored hother hreply hstored
  cases hrequest.symm.trans hother
  cases hresponse.symm.trans hreply
  cases h.stored.symm.trans hstored
  exact hfresh

theorem added_of_teachable (h : OnHead log progress) (hanswers : driver.Answers)
    (hfits : Teachable driver progress round)
    (hrequest : LoopDriver.request progress round = .ok request)
    (hresponse : driver.generate progress.roundIndex (callId progress) request = .ok response) :
    log.Extends (nextRevision progress.current response (progress.roundIndex + 1)) := by
  obtain ⟨answer, hanswer, hvalid⟩ := hanswers progress.roundIndex (callId progress) request
  cases hresponse.symm.trans hanswer
  exact (extends_nextRevision_iff h hvalid).mpr ⟨hfits.length, hfits.sourceRound,
    hfits.fresh request response _ hrequest hresponse h.stored⟩

theorem kept_teach_iff (h : OnHead log progress)
    (hjudged : round.Judged (driver.native progress.roundIndex)) (hanswers : driver.Answers)
    (scoreImproved : Bool) :
    Kept (driver.teach progress scoreImproved round) ↔
      (∀ entry ∈ progress.proposed, entry.2 = true) ∧
        progress.roundIndex ∉ progress.directories ∧ Teachable driver progress round := by
  have hmove := driver.teach_moves progress scoreImproved round
  generalize driver.teach progress scoreImproved round = phase at hmove
  have hasked : Teachable driver progress round →
      ∃ request, LoopDriver.request progress round = .ok request :=
    fun hfits => ⟨_, (request_ok_iff hjudged h.current h.rejected _).mpr ⟨hfits.evidence, rfl⟩⟩
  have hadded : Teachable driver progress round → ∀ {request response},
      LoopDriver.request progress round = .ok request →
        driver.generate progress.roundIndex (callId progress) request = .ok response →
          ∃ registry, propose progress
            (nextRevision progress.current response (progress.roundIndex + 1)) =
              .ok (true, registry) := by
    intro hfits request response hrequest hresponse
    have hextends := added_of_teachable h hanswers hfits hrequest hresponse
    exact ⟨_, (propose_true_iff h).mpr ⟨hextends, rfl⟩⟩
  cases hmove with
  | unasked hrequest =>
    refine ⟨fun hkept => hkept.elim, fun hfits => ?_⟩
    obtain ⟨request, hasked⟩ := hasked hfits.2.2
    cases hasked.symm.trans hrequest
  | @unanswered request error hrequest hresponse =>
    refine ⟨fun hkept => hkept.elim, fun hfits => ?_⟩
    obtain ⟨answer, hanswer, -⟩ := hanswers progress.roundIndex (callId progress) request
    cases hanswer.symm.trans hresponse
  | unproposed hrequest hresponse hpropose =>
    refine ⟨fun hkept => hkept.elim, fun hfits => ?_⟩
    obtain ⟨registry, hadded⟩ := hadded hfits.2.2 hrequest hresponse
    cases hadded.symm.trans hpropose
  | unfrozen hrequest hresponse hpropose hfreeze =>
    exact ⟨fun hkept => hkept.elim, fun hfits => hfits.2.1 hfreeze⟩
  | stalled hrequest hresponse hpropose hpatience =>
    constructor
    · intro hkept
      obtain ⟨hfree, hall⟩ := kept_finish_iff.mp hkept
      obtain ⟨hproposed, rfl⟩ := added_concat_iff.mp hall
      exact ⟨hproposed, hfree, teachable_of_added h hjudged hanswers hrequest hresponse hpropose⟩
    · intro hfits
      obtain ⟨registry, hadded⟩ := hadded hfits.2.2 hrequest hresponse
      cases hadded.symm.trans hpropose
      exact kept_finish_iff.mpr ⟨hfits.2.1, added_concat_iff.mpr ⟨hfits.1, rfl⟩⟩
  | continued hrequest hresponse hpropose hfreeze =>
    constructor
    · intro hkept
      obtain ⟨hproposed, rfl⟩ := added_concat_iff.mp hkept
      exact ⟨hproposed, hfreeze,
        teachable_of_added h hjudged hanswers hrequest hresponse hpropose⟩
    · intro hfits
      obtain ⟨registry, hadded⟩ := hadded hfits.2.2 hrequest hresponse
      cases hadded.symm.trans hpropose
      exact added_concat_iff.mpr ⟨hfits.1, rfl⟩

theorem inStep_teach (h : OnHead log progress) (hanswers : driver.Answers) (scoreImproved : Bool) :
    InStep (driver.teach progress scoreImproved round) := by
  have hmove := driver.teach_moves progress scoreImproved round
  intro next hnext hkept
  rw [hnext] at hmove hkept
  generalize hphase : LoopPhase.going next = phase at hmove
  cases hmove with
  | unasked hrequest => cases hphase
  | unanswered hrequest hresponse => cases hphase
  | unproposed hrequest hresponse hpropose => cases hphase
  | unfrozen hrequest hresponse hpropose hfreeze => cases hphase
  | stalled hrequest hresponse hpropose hpatience =>
    exact absurd hphase.symm (finish_ne_going _ _ _ next)
  | @continued request response added registry noProgressCount hrequest hresponse hpropose hfreeze =>
    cases hphase
    obtain ⟨hproposed, rfl⟩ := added_concat_iff.mp hkept
    obtain ⟨hextends, hregistry⟩ := (propose_true_iff h).mp hpropose
    have hsent : OnHead log ((progress.sending ⟨round, request⟩).receiving response) :=
      ⟨h.registry, h.holds, h.head, h.rejected⟩
    exact ⟨_, hsent.proposing hextends hregistry rfl⟩

end Teach

theorem ofCohort_attempts_iff (driver : LoopDriver) (progress : Progress) (cohort : Cohort) :
    ofCohort cohort (driver.attempts progress) ≠ [] ↔ ∃ task ∈ driver.tasks, task.cohort = cohort := by
  rw [ofCohort, ne_eq, List.filter_eq_nil_iff, attempts]
  simp only [List.forall_mem_map, driver.student.task_run, decide_eq_true_eq]
  push Not
  rfl

theorem evaluation_iff (hunique : (driver.tasks.map StudentTask.taskId).Nodup) :
    (∃ evaluation, driver.evaluation progress = .ok evaluation) ↔
      ∀ cohort, ∃ task ∈ driver.tasks, task.cohort = cohort := by
  have hids : ((driver.attempts progress).map fun attempt => attempt.task.taskId) =
      driver.tasks.map StudentTask.taskId := by
    simp [attempts, driver.student.task_run, Function.comp_def]
  have hboth : (∀ cohort, ∃ task ∈ driver.tasks, task.cohort = cohort) ↔
      ofCohort .feedback (driver.attempts progress) ≠ [] ∧
        ofCohort .holdout (driver.attempts progress) ≠ [] := by
    rw [ofCohort_attempts_iff, ofCohort_attempts_iff]
    constructor
    · intro hall
      exact ⟨hall .feedback, hall .holdout⟩
    · intro hall cohort
      cases cohort with
      | feedback => exact hall.1
      | holdout => exact hall.2
  rw [hboth]
  simp only [evaluation, evaluate, except_bind_ok_iff, require_ok_iff, exists_const, hids]
  constructor
  · intro hrun
    obtain ⟨evaluation, -, -, hcohorts, -⟩ := hrun
    exact hcohorts
  · intro hcohorts
    refine ⟨_, ?_, hunique, hcohorts, rfl⟩
    intro hnone
    rw [hnone] at hcohorts
    exact hcohorts.1 rfl

theorem OnHead.rejecting {log : RevisionLog} (h : OnHead log progress) (round : EvaluatedRound) :
    OnHead log (progress.evaluated round).rejecting := by
  refine ⟨h.registry, h.holds, h.head, ?_⟩
  intro fingerprint hmem
  rcases List.mem_append.mp hmem with hold | hlast
  · exact h.rejected fingerprint hold
  · rw [List.mem_singleton.mp hlast]
    exact Json.contentSha256_isSha256 _

theorem kept_round_iff {log : RevisionLog} (h : OnHead log progress)
    (hunique : (driver.tasks.map StudentTask.taskId).Nodup) (hanswers : driver.Answers) :
    Kept (driver.round progress) ↔
      (∀ entry ∈ progress.proposed, entry.2 = true) ∧ RoundFits driver progress := by
  have hmove := driver.round_moves progress
  generalize driver.round progress = phase at hmove
  cases hmove with
  | unevaluated hevaluation =>
    refine ⟨fun hkept => hkept.elim, fun hfits => ?_⟩
    obtain ⟨evaluation, hother⟩ := (evaluation_iff hunique).mpr hfits.2.cohorts
    cases hother.symm.trans hevaluation
  | @converged evaluation hevaluation hconverged =>
    constructor
    · intro hkept
      obtain ⟨hfree, hall⟩ := kept_finish_iff.mp hkept
      refine ⟨hall, (evaluation_iff hunique).mp ⟨evaluation, hevaluation⟩, hfree, ?_⟩
      intro other hother hfails
      cases hother.symm.trans hevaluation
      rw [hconverged] at hfails
      cases hfails
    · intro hfits
      exact kept_finish_iff.mpr ⟨hfits.2.directory, hfits.1⟩
  | @exhausted evaluation hevaluation hconverged hlast =>
    constructor
    · intro hkept
      obtain ⟨hfree, hall⟩ := kept_finish_iff.mp hkept
      refine ⟨hall, (evaluation_iff hunique).mp ⟨evaluation, hevaluation⟩, hfree, ?_⟩
      intro other hother hfails hmore
      omega
    · intro hfits
      exact kept_finish_iff.mpr ⟨hfits.2.directory, hfits.1⟩
  | @taught evaluation next hevaluation hconverged hmore hnext =>
    rw [hnext]
    have hhead := h.rejecting (driver.evaluatedRound progress evaluation)
    have hteach := kept_teach_iff hhead (judged_of_evaluation hevaluation) hanswers
      (progress.improves evaluation.score)
    constructor
    · intro hkept
      obtain ⟨hall, hfree, hteachable⟩ := hteach.mp hkept
      refine ⟨hall, (evaluation_iff hunique).mp ⟨evaluation, hevaluation⟩, hfree, ?_⟩
      intro other hother hfails hmore
      cases hother.symm.trans hevaluation
      exact hteachable
    · intro hfits
      exact hteach.mpr ⟨hfits.1, hfits.2.directory,
        hfits.2.teaching evaluation hevaluation hconverged hmore⟩

theorem inStep_finish (progress : Progress) (status : LoopStatus) (revision : LoopRevision) :
    InStep (finish progress status revision) :=
  fun next hnext => absurd hnext (finish_ne_going _ _ _ next)

theorem inStep_round {log : RevisionLog} (h : OnHead log progress) (hanswers : driver.Answers) :
    InStep (driver.round progress) := by
  have hmove := driver.round_moves progress
  generalize driver.round progress = phase at hmove
  cases hmove with
  | unevaluated hevaluation =>
    intro next hnext
    cases hnext
  | converged hevaluation hconverged => exact inStep_finish _ _ _
  | exhausted hevaluation hconverged hlast => exact inStep_finish _ _ _
  | taught hevaluation hconverged hmore hnext =>
    rw [hnext]
    exact inStep_teach (h.rejecting _) hanswers _

theorem kept_of_step {phase : LoopPhase} {turn : Unit} (h : Kept (driver.step phase turn)) :
    Kept phase := by
  have hproposed := (continues_step driver phase turn).proposed
  cases phase with
  | raised progress error => exact h
  | returned progress result => exact h
  | going progress =>
    change Kept (driver.round progress) at h
    change progress.proposed <+: (driver.round progress).progress.proposed at hproposed
    generalize driver.round progress = next at h hproposed
    intro entry hentry
    cases next with
    | raised final error => exact h.elim
    | returned final result => exact h entry (hproposed.subset hentry)
    | going final => exact h entry (hproposed.subset hentry)

theorem inStep_step {phase : LoopPhase} (h : InStep phase) (hanswers : driver.Answers)
    (turn : Unit) : InStep (driver.step phase turn) := by
  cases phase with
  | returned progress result => exact h
  | raised progress error => exact h
  | going progress =>
    intro next hnext hkept
    obtain ⟨log, hhead⟩ := h progress rfl (kept_of_step hkept)
    exact inStep_round hhead hanswers next hnext hkept

theorem kept_step_iff {phase : LoopPhase} (h : InStep phase)
    (hunique : (driver.tasks.map StudentTask.taskId).Nodup) (hanswers : driver.Answers)
    (turn : Unit) :
    Kept (driver.step phase turn) ↔ Kept phase ∧ Fits driver phase turn := by
  cases phase with
  | returned progress result => exact ⟨fun hkept => ⟨hkept, trivial⟩, fun hboth => hboth.1⟩
  | raised progress error => exact ⟨fun hkept => hkept.elim, fun hboth => hboth.1⟩
  | going progress =>
    constructor
    · intro hkept
      have hbefore := kept_of_step hkept
      obtain ⟨log, hhead⟩ := h progress rfl hbefore
      exact ⟨hbefore, ((kept_round_iff hhead hunique hanswers).mp hkept).2⟩
    · intro hboth
      obtain ⟨log, hhead⟩ := h progress rfl hboth.1
      exact (kept_round_iff hhead hunique hanswers).mpr ⟨hboth.1, hboth.2⟩

theorem roundIndex_of_teach {scoreImproved : Bool} {next : Progress}
    (h : driver.teach progress scoreImproved round = .going next) :
    next.roundIndex = progress.roundIndex + 1 := by
  have hmove := driver.teach_moves progress scoreImproved round
  rw [h] at hmove
  generalize hphase : LoopPhase.going next = phase at hmove
  cases hmove with
  | unasked hrequest => cases hphase
  | unanswered hrequest hresponse => cases hphase
  | unproposed hrequest hresponse hpropose => cases hphase
  | unfrozen hrequest hresponse hpropose hfreeze => cases hphase
  | stalled hrequest hresponse hpropose hpatience =>
    exact absurd hphase.symm (finish_ne_going _ _ _ next)
  | continued hrequest hresponse hpropose hfreeze =>
    cases hphase
    rfl

theorem roundIndex_of_going {next : Progress} (h : driver.round progress = .going next) :
    next.roundIndex = progress.roundIndex + 1 ∧ next.roundIndex < driver.config.maxRounds := by
  have hmove := driver.round_moves progress
  rw [h] at hmove
  generalize hphase : LoopPhase.going next = phase at hmove
  cases hmove with
  | unevaluated hevaluation => cases hphase
  | converged hevaluation hconverged => exact absurd hphase.symm (finish_ne_going _ _ _ next)
  | exhausted hevaluation hconverged hlast =>
    exact absurd hphase.symm (finish_ne_going _ _ _ next)
  | taught hevaluation hconverged hmore hnext =>
    have hround := roundIndex_of_teach (hnext.symm.trans hphase.symm)
    change next.roundIndex = progress.roundIndex + 1 at hround
    exact ⟨hround, by omega⟩

theorem going_of_run {turns : List Unit} {phase : LoopPhase} {next : Progress}
    (h : Library.run driver.step phase turns = .going next) :
    ∃ progress, phase = .going progress ∧ next.roundIndex = progress.roundIndex + turns.length ∧
      (turns = [] ∨ next.roundIndex < driver.config.maxRounds) := by
  induction turns generalizing phase with
  | nil => exact ⟨next, h, rfl, Or.inl rfl⟩
  | cons turn rest ih =>
    obtain ⟨middle, hmiddle, hcount, hbound⟩ := ih h
    cases phase with
    | returned progress result => cases hmiddle
    | raised progress error => cases hmiddle
    | going progress =>
      obtain ⟨hround, hlast⟩ := roundIndex_of_going hmiddle
      refine ⟨progress, rfl, ?_, Or.inr ?_⟩
      · rw [hcount, hround, List.length_cons]
        omega
      · rcases hbound with rfl | hbound
        · rw [List.length_nil] at hcount
          omega
        · exact hbound

/-- A result counts its rounds, which are not more than are allowed. -/
def Counted (driver : LoopDriver) : LoopPhase → Prop
  | .going progress => progress.roundIndex < driver.config.maxRounds
  | .returned _ result => result.roundsCompleted ≤ driver.config.maxRounds
  | .raised _ _ => True

theorem counted_finish (h : progress.roundIndex < driver.config.maxRounds) (status : LoopStatus)
    (revision : LoopRevision) : Counted driver (finish progress status revision) := by
  by_cases htaken : progress.roundIndex ∈ progress.directories
  · obtain ⟨error, heq⟩ : ∃ error, finish progress status revision = .raised progress error :=
      finish_of_taken htaken
    rw [heq]
    trivial
  · rw [finish_of_free htaken]
    exact h

theorem counted_teach (h : progress.roundIndex + 1 < driver.config.maxRounds)
    (scoreImproved : Bool) : Counted driver (driver.teach progress scoreImproved round) := by
  have hmove := driver.teach_moves progress scoreImproved round
  generalize driver.teach progress scoreImproved round = phase at hmove
  have hround : progress.roundIndex < driver.config.maxRounds := by omega
  cases hmove with
  | unasked hrequest => trivial
  | unanswered hrequest hresponse => trivial
  | unproposed hrequest hresponse hpropose => trivial
  | stalled hrequest hresponse hpropose hpatience =>
    refine counted_finish ?_ _ _
    exact hround
  | unfrozen hrequest hresponse hpropose hfreeze => trivial
  | continued hrequest hresponse hpropose hfreeze => exact h

theorem counted_step (phase : LoopPhase) (turn : Unit) (h : Counted driver phase) :
    Counted driver (driver.step phase turn) := by
  cases phase with
  | returned progress result => exact h
  | raised progress error => trivial
  | going progress =>
    change Counted driver (driver.round progress)
    have hmove := driver.round_moves progress
    generalize driver.round progress = next at hmove
    cases hmove with
    | unevaluated hevaluation => trivial
    | converged hevaluation hconverged =>
      refine counted_finish ?_ _ _
      exact h
    | exhausted hevaluation hconverged hlast =>
      refine counted_finish ?_ _ _
      exact h
    | taught hevaluation hconverged hmore hnext =>
      rw [hnext]
      refine counted_teach ?_ _
      exact hmore

/-- A first revision of its skill, or the head of it. -/
def Begins (log : RevisionLog) (initial : LoopRevision) : Prop :=
  (ofSkill initial.skillId log.appended).getLast? = some initial ∨
    ofSkill initial.skillId log.appended = [] ∧ log.Extends initial

theorem latest_of_holds {log : RevisionLog} (hlog : log.Holds) {skillId : String}
    {latest : Option LoopRevision} (h : log.registry.latest skillId = .ok latest) :
    latest = (ofSkill skillId log.appended).getLast? := by
  simp only [LoopRevisionRegistry.latest, except_bind_ok_iff] at h
  obtain ⟨revisions, hread, h⟩ := h
  rw [readRevisions, hlog.rows] at hread
  have hsame := ((RowFormat.read_lineBoundary_iff hlog.decodes revisions).mp hread).1
  rw [hsame] at h
  exact (Except.ok.inj h).symm

theorem onHead_start {log : RevisionLog} (hlog : log.Holds) {initial : LoopRevision}
    (hbegins : Begins log initial) {directories : List Nat}
    (h : driver.start initial log.registry directories = .ok progress) :
    ∃ log, OnHead log progress := by
  obtain ⟨opened, latest, hlatest, hopened, rfl⟩ := start_ok h
  have hread := latest_of_holds hlog hlatest
  rcases hbegins with hhead | ⟨hnone, hextends⟩
  · rw [hhead] at hread
    subst hread
    simp only [start.openRegistry, except_bind_ok_iff, require_ok_iff, exists_const] at hopened
    cases hopened.2
    exact ⟨log, rfl, hlog, hhead, fun _ hmem => absurd hmem List.not_mem_nil⟩
  · rw [hnone] at hread
    subst hread
    have happend := hlog.append_true_iff.mpr ⟨hextends, rfl⟩
    change (log.registry.append initial).map Prod.snd = .ok opened at hopened
    rw [happend] at hopened
    cases hopened
    have hafter := hlog.after_of_extends hextends
    refine ⟨log.after initial, ?_, hlog.after initial, ?_, fun _ hmem => absurd hmem List.not_mem_nil⟩
    · rw [hafter]
    · change (ofSkill initial.skillId (log.after initial).appended).getLast? = some initial
      rw [hafter, ofSkill, List.filter_append]
      simp

/-- Whatever the student, the evaluator and the answers of the parent model: a
run returns within its rounds, with every revision it has proposed added, when
each of its rounds is fit, and only then. -/
theorem rounds_return_iff {log : RevisionLog} (hlog : log.Holds) {initial : LoopRevision}
    (hbegins : Begins log initial) (hanswers : driver.Answers) {directories : List Nat}
    (hstart : driver.start initial log.registry directories = .ok progress) :
    (∃ final result, driver.rounds progress = .returned final result ∧
        result.roundsCompleted ≤ driver.config.maxRounds ∧
          ∀ entry ∈ final.proposed, entry.2 = true) ↔
      Guarded (Fits driver) driver.step (.going progress) driver.turns := by
  have hunique : (driver.tasks.map StudentTask.taskId).Nodup := by
    simp only [start, except_bind_ok_iff, require_ok_iff, exists_const] at hstart
    obtain ⟨-, -, -, -, -, -, -, hunique, -⟩ := hstart
    exact hunique
  have hinStep : InStep (.going progress) := by
    intro next hnext hkept
    cases hnext
    exact onHead_start hlog hbegins hstart
  have hkept : Kept (.going progress) := by
    obtain ⟨opened, latest, -, -, rfl⟩ := start_ok hstart
    intro entry hentry
    cases hentry
  have hround : progress.roundIndex = 0 := by
    obtain ⟨opened, latest, -, -, rfl⟩ := start_ok hstart
    rfl
  have hiff : Kept (driver.rounds progress) ↔
      Kept (.going progress) ∧ Guarded (Fits driver) driver.step (.going progress) driver.turns :=
    run_iff_guarded (fun phase turn hphase => inStep_step hphase hanswers turn)
      (fun phase turn hphase => kept_step_iff hphase hunique hanswers turn)
      (.going progress) driver.turns hinStep
  constructor
  · intro hreturned
    obtain ⟨final, result, hrun, -, hadded⟩ := hreturned
    refine (hiff.mp ?_).2
    rw [hrun]
    exact hadded
  · intro hguarded
    have hrun := hiff.mpr ⟨hkept, hguarded⟩
    have hcounted := run_invariant (I := Counted driver) counted_step (.going progress) driver.turns
      (by rw [Counted, hround]; exact driver.config.rounds)
    change Counted driver (driver.rounds progress) at hcounted
    cases hphase : driver.rounds progress with
    | raised final error =>
        rw [hphase] at hrun
        exact hrun.elim
    | returned final result =>
        rw [hphase] at hrun hcounted
        exact ⟨final, result, rfl, hcounted, hrun⟩
    | going final =>
        obtain ⟨first, hfirst, hcount, hbound⟩ := going_of_run hphase
        cases hfirst
        have hlength : driver.turns.length = driver.config.maxRounds := List.length_replicate
        have hpositive := driver.config.rounds
        rcases hbound with hnone | hbound
        · rw [hnone, List.length_nil] at hlength
          omega
        · omega

theorem answers_smallLoop (native : NativeEvaluator) : (smallLoop native).Answers :=
  fun _ _ _ => ⟨_, rfl, by decide⟩

theorem rounds_return_iff_small :
    (∃ final result, (smallLoop examFails).rounds (opening plainRevision) = .returned final result ∧
        result.roundsCompleted ≤ (smallLoop examFails).config.maxRounds ∧
          ∀ entry ∈ final.proposed, entry.2 = true) ↔
      Guarded (Fits (smallLoop examFails)) (smallLoop examFails).step
        (.going (opening plainRevision)) (smallLoop examFails).turns :=
  rounds_return_iff RevisionLog.holds_empty (Or.inr ⟨rfl, extends_plainRevision⟩)
    (answers_smallLoop examFails) (start_smallLoop examFails extends_plainRevision)

theorem kept_of_run {phase : LoopPhase} {turns : List Unit}
    (h : Kept (Library.run driver.step phase turns)) : Kept phase := by
  induction turns generalizing phase with
  | nil => exact h
  | cons turn rest ih => exact kept_of_step (ih h)

/-- A first revision whose number is 1. -/
def laterRevision : LoopRevision where
  schemaVersion := .int 1
  skillId := "skill"
  revisionId := "skill-r001"
  parentRevisionId := none
  sourceRound := 1
  protocol := "protocol"
  skillText := "text"
  promptTemplate := "prompt"
  evalNote := "note"

theorem validate_laterRevision : laterRevision.validate = .ok () := by
  decide

theorem extends_laterRevision : RevisionLog.empty.Extends laterRevision := by
  refine ⟨(LoopRevision.validate_ok_iff ()).mp validate_laterRevision, ?_, rfl, ?_⟩
  · intro other hother
    exact absurd hother List.not_mem_nil
  · intro last hlast
    cases hlast

theorem converged_laterRevision :
    ((smallLoop examFails).evaluation (opening laterRevision)).map RoundEvaluation.converged =
      .ok false := by
  decide +kernel

/-- A run that begins with revision number 1 proposes number 1, which the
registry refuses. -/
theorem later_revision_refused :
    (smallLoop examFails).start laterRevision ⟨[]⟩ [] = .ok (opening laterRevision) ∧
      ¬∃ final result, (smallLoop examFails).rounds (opening laterRevision) =
          .returned final result ∧
        result.roundsCompleted ≤ (smallLoop examFails).config.maxRounds ∧
          ∀ entry ∈ final.proposed, entry.2 = true := by
  have hstart := start_smallLoop examFails extends_laterRevision
  refine ⟨hstart, ?_⟩
  intro hreturned
  obtain ⟨final, result, hrounds, -, hadded⟩ := hreturned
  have hkept : Kept ((smallLoop examFails).rounds (opening laterRevision)) := by
    rw [hrounds]
    exact hadded
  have hround : Kept ((smallLoop examFails).round (opening laterRevision)) :=
    @kept_of_run (smallLoop examFails) _ [()] hkept
  obtain ⟨log, hhead⟩ := onHead_start RevisionLog.holds_empty (Or.inr ⟨rfl, extends_laterRevision⟩)
    hstart
  have hunique : ((smallLoop examFails).tasks.map StudentTask.taskId).Nodup := by decide
  have hfits := ((kept_round_iff hhead hunique (answers_smallLoop examFails)).mp hround).2
  obtain ⟨evaluation, hevaluation, hconverged⟩ :=
    (except_map_ok_iff _ _ _).mp converged_laterRevision
  have hteachable := hfits.teaching evaluation hevaluation hconverged (by decide)
  have hnumber := hteachable.sourceRound
  change (1 : Int) ≤ 0 at hnumber
  omega

end LoopDriver

end JlensEvolve.SkillLoop
