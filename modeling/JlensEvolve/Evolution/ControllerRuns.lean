import JlensEvolve.Evolution.ControllerCases
import JlensEvolve.Evolution.PlanStages
import JlensEvolve.Library.Links
import Mathlib.Algebra.Order.Group.Int
import Mathlib.Data.List.Pairwise

/-!
What every run of calls on a controller keeps: the counters agree with the
records, the stages are claimed in the order of the plan, a task stands as its
stage does, and the parent decisions lead from the seed to the search parent.
-/

namespace JlensEvolve.Evolution

open Library ControllerOutcome

/-- A run of calls, and what its accepted calls charged without a reservation. -/
structure AuditedController where
  controller : Controller
  direct : Int

def ControllerStep.directCharge (controller : Controller) : ControllerStep → Int
  | .call made =>
    if (controller.memory.perform made).persisted then controller.memory.directCharge made else 0
  | .load => 0

def AuditedController.after (audited : AuditedController) (step : ControllerStep) :
    AuditedController :=
  ⟨audited.controller.after step, audited.direct + step.directCharge audited.controller⟩

def CallReservation.calls (reservation : CallReservation) : Int := reservation.reservationCount

def AuxiliaryReservation.calls (reservation : AuxiliaryReservation) : Int :=
  reservation.reservationCount

def ControllerState.StageStands (state : ControllerState) (key : String) (status : ClaimStatus) :
    Prop :=
  ∃ claim, state.claims.get? key = some claim ∧ claim.status = status

def stageKey (stage : Nat × String) : String := claimKey stage.1 stage.2

/-- The claimed stages come first, and all but the last of them are complete. -/
def ControllerState.ClaimedInOrder (state : ControllerState) : Prop :=
  ∃ claimed unclaimed, state.plan.stageSequence = claimed ++ unclaimed ∧
    (∀ stage ∈ claimed, (state.claims.get? (stageKey stage)).isSome) ∧
    (∀ stage ∈ unclaimed, state.claims.get? (stageKey stage) = none) ∧
    ∀ stage ∈ claimed.dropLast, state.StageStands (stageKey stage) .complete

/-- What holds of a controller between calls. -/
structure ControllerState.Accounted (state : ControllerState) (direct : Int) : Prop where
  withinCap : state.usage.realCodexCalls ≤ state.authorization.maximumRealCodexCalls
  realCalls : state.usage.realCodexCalls = state.callReservations.total CallReservation.calls +
    state.auxiliaryCallReservations.total AuxiliaryReservation.calls + direct
  agentCalls : state.usage.agentTaskCalls = state.armEvidence.size
  planned : ∀ key, (state.claims.get? key).isSome →
    ∃ stage ∈ state.plan.stageSequence, key = stageKey stage
  inOrder : state.ClaimedInOrder
  tasks : ∀ stage ∈ state.plan.stages, ∀ taskUid ∈ stage.2.taskUids,
    ∃ task, state.taskStates.get? taskUid = some task ∧
      (task.state = .claimed ↔ state.StageStands (stageKey (stage.1, stage.2.name)) .claimed) ∧
      (task.state = .retired ↔ state.StageStands (stageKey (stage.1, stage.2.name)) .complete)
  parents : Leads ParentRecord.previousParentSha256 ParentRecord.searchParentSha256
    state.seedParentAgentProgramSha256 state.parentHistory state.searchParentSha256

namespace ControllerState

variable {key : String} {taskUids : List String} {tasks : Dict String TaskState}

theorem claimTasks_unopened (hnodup : taskUids.Nodup)
    (h : ∀ taskUid ∈ taskUids, tasks.get? taskUid = some ⟨.unopened, none⟩) :
    ∃ claimed, claimTasks key taskUids tasks = (claimed, .ok ()) ∧
      ∀ taskUid, claimed.get? taskUid =
        if taskUid ∈ taskUids then some ⟨.claimed, some key⟩ else tasks.get? taskUid := by
  induction taskUids generalizing tasks with
  | nil => exact ⟨tasks, rfl, by simp⟩
  | cons first rest ih =>
    obtain ⟨hfirst, hrest⟩ := List.nodup_cons.mp hnodup
    have hunopened : ∀ taskUid ∈ rest,
        (tasks.set first ⟨.claimed, some key⟩).get? taskUid = some ⟨.unopened, none⟩ := by
      intro taskUid htask
      have hne : taskUid ≠ first := by
        intro heq
        exact hfirst (heq ▸ htask)
      rw [Dict.get?_set_of_ne _ _ hne]
      exact h taskUid (List.mem_cons_of_mem _ htask)
    obtain ⟨claimed, hclaimed, hget⟩ := ih hrest hunopened
    refine ⟨claimed, ?_, ?_⟩
    · rw [claimTasks, h first List.mem_cons_self]
      exact hclaimed
    · intro taskUid
      rw [hget taskUid]
      by_cases heq : taskUid = first
      · simp [heq, hfirst]
      · simp [heq, Dict.get?_set_of_ne _ _ heq]

theorem retireTasks_claimed (hnodup : taskUids.Nodup)
    (h : ∀ taskUid ∈ taskUids, tasks.get? taskUid = some ⟨.claimed, some key⟩) :
    ∃ retired, retireTasks key taskUids tasks = (retired, .ok ()) ∧
      ∀ taskUid, retired.get? taskUid =
        if taskUid ∈ taskUids then some ⟨.retired, some key⟩ else tasks.get? taskUid := by
  induction taskUids generalizing tasks with
  | nil => exact ⟨tasks, rfl, by simp⟩
  | cons first rest ih =>
    obtain ⟨hfirst, hrest⟩ := List.nodup_cons.mp hnodup
    have hclaimed : ∀ taskUid ∈ rest,
        (tasks.set first ⟨.retired, some key⟩).get? taskUid = some ⟨.claimed, some key⟩ := by
      intro taskUid htask
      have hne : taskUid ≠ first := by
        intro heq
        exact hfirst (heq ▸ htask)
      rw [Dict.get?_set_of_ne _ _ hne]
      exact h taskUid (List.mem_cons_of_mem _ htask)
    obtain ⟨retired, hretired, hget⟩ := ih hrest hclaimed
    refine ⟨retired, ?_, ?_⟩
    · rw [retireTasks, if_pos (h first List.mem_cons_self)]
      exact hretired
    · intro taskUid
      rw [hget taskUid]
      by_cases heq : taskUid = first
      · simp [heq, hfirst]
      · simp [heq, Dict.get?_set_of_ne _ _ heq]

theorem assertNext_ok {state : ControllerState} {generation : Int} {stage : String}
    {sequence : List (Nat × String)} (h : state.assertNext generation stage sequence = .ok ()) :
    ∃ (index : Nat) (before after : List (Nat × String)), generation = index ∧
      sequence = before ++ (index, stage) :: after ∧
      ∀ prior ∈ before, state.StageStands (stageKey prior) .complete := by
  induction sequence with
  | nil => cases h
  | cons first rest ih =>
    obtain ⟨index, name⟩ := first
    unfold assertNext at h
    split at h
    · next hsame =>
      obtain ⟨hindex, hname⟩ := hsame
      exact ⟨index, [], rest, hindex.symm, by rw [← hname]; rfl, by simp⟩
    · split at h
      · next hclaim =>
        obtain ⟨found, before, after, hfound, hsequence, hcomplete⟩ := ih h
        refine ⟨found, (index, name) :: before, after, hfound, by rw [hsequence]; rfl, ?_⟩
        intro prior hprior
        rcases List.mem_cons.mp hprior with rfl | hmem
        · exact ⟨_, hclaim, rfl⟩
        · exact hcomplete prior hmem
      · cases h

end ControllerState

/-- How a task stands where the claim of its stage is this one. -/
def taskOf (key : String) : Option StageClaim → TaskState
  | none => ⟨.unopened, none⟩
  | some claim =>
    match claim.status with
    | .claimed => ⟨.claimed, some key⟩
    | .complete => ⟨.retired, some key⟩

structure ControllerState.Sound (state : ControllerState) (direct : Int) : Prop where
  frozen : state.plan.Frozen
  withinCap : state.usage.realCodexCalls ≤ state.authorization.maximumRealCodexCalls
  realCalls : state.usage.realCodexCalls = state.callReservations.total CallReservation.calls +
    state.auxiliaryCallReservations.total AuxiliaryReservation.calls + direct
  agentCalls : state.usage.agentTaskCalls = state.armEvidence.total fun _ => (1 : Int)
  planned : ∀ key claim, state.claims.get? key = some claim →
    ∃ stage ∈ state.plan.stages, key = stageKey (stage.1, stage.2.name) ∧
      claim.taskUids = stage.2.taskUids
  inOrder : state.ClaimedInOrder
  tasks : ∀ stage ∈ state.plan.stages, ∀ taskUid ∈ stage.2.taskUids,
    state.taskStates.get? taskUid = some (taskOf (stageKey (stage.1, stage.2.name))
      (state.claims.get? (stageKey (stage.1, stage.2.name))))
  parents : Leads ParentRecord.previousParentSha256 ParentRecord.searchParentSha256
    state.seedParentAgentProgramSha256 state.parentHistory state.searchParentSha256

namespace ControllerState

variable {state : ControllerState} {direct : Int}

theorem taskOf_claimed_iff {key : String} :
    (taskOf key (state.claims.get? key)).state = .claimed ↔ state.StageStands key .claimed := by
  unfold StageStands
  cases hclaim : state.claims.get? key with
  | none => simp [taskOf]
  | some claim => cases hstatus : claim.status <;> simp [taskOf, hstatus]

theorem taskOf_retired_iff {key : String} :
    (taskOf key (state.claims.get? key)).state = .retired ↔ state.StageStands key .complete := by
  unfold StageStands
  cases hclaim : state.claims.get? key with
  | none => simp [taskOf]
  | some claim => cases hstatus : claim.status <;> simp [taskOf, hstatus]

theorem mem_stageSequence {stage : Nat × StagePlan} (hstage : stage ∈ state.plan.stages) :
    (stage.1, stage.2.name) ∈ state.plan.stageSequence := by
  rw [EvolutionPlan.stageSequence_eq]
  exact List.mem_map.mpr ⟨stage, hstage, rfl⟩

theorem Sound.accounted (h : state.Sound direct) : state.Accounted direct where
  withinCap := h.withinCap
  realCalls := h.realCalls
  agentCalls := by
    rw [h.agentCalls, Dict.size_eq_total]
    simp [Dict.total]
  planned := by
    intro key hkey
    obtain ⟨claim, hclaim⟩ := Option.isSome_iff_exists.mp hkey
    obtain ⟨stage, hstage, hsame, -⟩ := h.planned key claim hclaim
    exact ⟨(stage.1, stage.2.name), mem_stageSequence hstage, hsame⟩
  inOrder := h.inOrder
  tasks := by
    intro stage hstage taskUid htask
    exact ⟨_, h.tasks stage hstage taskUid htask, taskOf_claimed_iff, taskOf_retired_iff⟩
  parents := h.parents

theorem stage_of_stageKey (h : state.plan.Frozen) {first second : Nat × StagePlan}
    (hfirst : first ∈ state.plan.stages) (hsecond : second ∈ state.plan.stages)
    (hkey : stageKey (first.1, first.2.name) = stageKey (second.1, second.2.name)) :
    first = second := by
  have hnodup := h.claimKeys_nodup
  rw [EvolutionPlan.stageSequence_eq, List.map_map] at hnodup
  exact List.inj_on_of_nodup_map hnodup hfirst hsecond hkey

theorem stage_of_task (h : state.plan.Frozen) {first second : Nat × StagePlan}
    (hfirst : first ∈ state.plan.stages) (hsecond : second ∈ state.plan.stages) {taskUid : String}
    (htaskFirst : taskUid ∈ first.2.taskUids) (htaskSecond : taskUid ∈ second.2.taskUids) :
    first = second := by
  by_contra hne
  have hsymm : Std.Symm fun first second : Nat × StagePlan =>
      first.2.taskUids.Disjoint second.2.taskUids := ⟨fun _ _ h _ hsecond hfirst => h hfirst hsecond⟩
  exact h.stage_tasks.2.forall hfirst hsecond hne htaskFirst htaskSecond

theorem ClaimedInOrder.unclaimed_after (h : state.ClaimedInOrder)
    {before after : List (Nat × String)} {stage : Nat × String}
    (hsequence : state.plan.stageSequence = before ++ stage :: after)
    (hnew : state.claims.get? (stageKey stage) = none) :
    ∀ other ∈ after, state.claims.get? (stageKey other) = none := by
  obtain ⟨claimed, unclaimed, hsplit, hclaimed, hunclaimed, -⟩ := h
  rw [hsequence] at hsplit
  rcases List.append_eq_append_iff.mp hsplit with ⟨more, hmore, hafter⟩ | ⟨more, hmore, hrest⟩
  · -- the stage itself would be claimed if the claimed ones reached further
    cases more with
    | nil =>
      rw [List.nil_append] at hafter
      intro other hother
      exact hunclaimed other (hafter ▸ List.mem_cons_of_mem _ hother)
    | cons first more =>
      obtain ⟨rfl, -⟩ := List.cons.inj hafter
      have hisSome := hclaimed stage (by rw [hmore]; simp)
      rw [hnew] at hisSome
      cases hisSome
  · intro other hother
    apply hunclaimed other
    rw [hrest]
    simp [hother]

theorem ClaimedInOrder.claim (h : state.ClaimedInOrder) (hfrozen : state.plan.Frozen)
    {before after : List (Nat × String)} {stage : Nat × String} {claim : StageClaim}
    {tasks : Dict String TaskState}
    (hsequence : state.plan.stageSequence = before ++ stage :: after)
    (hcomplete : ∀ prior ∈ before, state.StageStands (stageKey prior) .complete)
    (hnew : state.claims.get? (stageKey stage) = none) :
    ({ state with
      taskStates := tasks, claims := state.claims.set (stageKey stage) claim }).ClaimedInOrder := by
  have hnodup := hfrozen.claimKeys_nodup
  rw [hsequence, List.map_append, List.map_cons, List.nodup_middle, List.nodup_cons] at hnodup
  have hkey : ∀ other, other ∈ before ∨ other ∈ after → stageKey other ≠ stageKey stage := by
    intro other hother heq
    apply hnodup.1
    rw [← List.map_append]
    exact List.mem_map.mpr ⟨other, List.mem_append.mpr hother, heq⟩
  refine ⟨before ++ [stage], after, by simp [hsequence], ?_, ?_, ?_⟩
  · intro other hother
    rcases List.mem_append.mp hother with hbefore | hlast
    · obtain ⟨claim, hclaim, -⟩ := hcomplete other hbefore
      rw [Dict.get?_set_of_ne _ _ (hkey other (Or.inl hbefore)), hclaim]
      rfl
    · rw [List.mem_singleton.mp hlast, Dict.get?_set_self]
      rfl
  · intro other hother
    rw [Dict.get?_set_of_ne _ _ (hkey other (Or.inr hother))]
    exact h.unclaimed_after hsequence hnew other hother
  · intro other hother
    rw [List.dropLast_concat] at hother
    obtain ⟨claim, hclaim, hstatus⟩ := hcomplete other hother
    refine ⟨claim, ?_, hstatus⟩
    rw [Dict.get?_set_of_ne _ _ (hkey other (Or.inl hother))]
    exact hclaim

theorem ClaimedInOrder.complete (h : state.ClaimedInOrder) {key : String} {claim : StageClaim}
    {tasks : Dict String TaskState} (hclaim : state.claims.get? key = some claim) :
    ({ state with
      claims := state.claims.set key { claim with status := .complete }
      taskStates := tasks }).ClaimedInOrder := by
  obtain ⟨claimed, unclaimed, hsplit, hclaimed, hunclaimed, hcomplete⟩ := h
  refine ⟨claimed, unclaimed, hsplit, ?_, ?_, ?_⟩
  · intro stage hstage
    rw [Dict.get?_set]
    split
    · rfl
    · exact hclaimed stage hstage
  · intro stage hstage
    have hne : stageKey stage ≠ key := by
      intro heq
      have hnone := hunclaimed stage hstage
      rw [heq, hclaim] at hnone
      cases hnone
    rw [Dict.get?_set_of_ne _ _ hne]
    exact hunclaimed stage hstage
  · intro stage hstage
    by_cases heq : stageKey stage = key
    · refine ⟨{ claim with status := .complete }, ?_, rfl⟩
      rw [heq, Dict.get?_set_self]
    · obtain ⟨other, hother, hstatus⟩ := hcomplete stage hstage
      refine ⟨other, ?_, hstatus⟩
      rw [Dict.get?_set_of_ne _ _ heq]
      exact hother

theorem Sound.claimed (h : state.Sound direct) {generation : Int} {stage : String}
    {candidates : List String} {stagePlan : StagePlan} {claim : StageClaim}
    (hcandidates : state.checkCandidates generation stage candidates = .ok stagePlan)
    (hnew : state.claims.get? (claimKey generation stage) = none)
    (hclaim : state.checkClaim generation stage stagePlan candidates = .ok claim) :
    ∃ tasks,
      claimTasks (claimKey generation stage) stagePlan.taskUids state.taskStates =
        (tasks, .ok ()) ∧
      ({ state with
        taskStates := tasks
        claims := state.claims.set (claimKey generation stage) claim }).Sound direct := by
  simp only [checkCandidates, except_bind_ok_iff, require_ok_iff] at hcandidates
  obtain ⟨found, hfound, -, -, -, -, -, -, hsame⟩ := hcandidates
  cases hsame
  simp only [checkClaim, except_bind_ok_iff, require_ok_iff] at hclaim
  obtain ⟨-, -, -, -, _, hnext, hsame⟩ := hclaim
  obtain ⟨index, before, after, rfl, hsequence, hcomplete⟩ := assertNext_ok hnext
  obtain ⟨hmem, rfl⟩ := h.frozen.mem_of_stage hfound
  have htaskUids : claim.taskUids = stagePlan.taskUids := by
    cases hsame
    rfl
  have hstatus : claim.status = .claimed := by
    cases hsame
    rfl
  clear hsame
  have hkey : claimKey index stagePlan.name = stageKey (index, stagePlan.name) := rfl
  rw [hkey] at hnew ⊢
  have hunopened : ∀ taskUid ∈ stagePlan.taskUids,
      state.taskStates.get? taskUid = some ⟨.unopened, none⟩ := by
    intro taskUid htask
    have hstands := h.tasks _ hmem taskUid htask
    rw [hnew] at hstands
    exact hstands
  obtain ⟨tasks, htasks, hget⟩ := claimTasks_unopened (h.frozen.stage_tasks.1 _ hmem) hunopened
  refine ⟨tasks, htasks, ?_⟩
  constructor
  · exact h.frozen
  · exact h.withinCap
  · exact h.realCalls
  · exact h.agentCalls
  · intro key other hother
    rw [Dict.get?_set] at hother
    split at hother
    · next hkey =>
      obtain rfl := Option.some.inj hother
      exact ⟨(index, stagePlan), hmem, hkey, htaskUids⟩
    · exact h.planned key other hother
  · exact h.inOrder.claim h.frozen hsequence hcomplete hnew
  · intro other hother taskUid htask
    change tasks.get? taskUid = some (taskOf _ ((state.claims.set _ claim).get? _))
    rw [hget taskUid]
    by_cases hsame : other = (index, stagePlan)
    · subst hsame
      rw [if_pos htask, Dict.get?_set_self, taskOf, hstatus]
    · have hne : stageKey (other.1, other.2.name) ≠ stageKey (index, stagePlan.name) := by
        intro heq
        exact hsame (stage_of_stageKey h.frozen hother hmem heq)
      have hout : taskUid ∉ stagePlan.taskUids := by
        intro hin
        exact hsame (stage_of_task h.frozen hother hmem htask hin)
      rw [if_neg hout, Dict.get?_set_of_ne _ _ hne]
      exact h.tasks other hother taskUid htask
  · exact h.parents

theorem Sound.completed (h : state.Sound direct) {key : String} {claim : StageClaim}
    (hclaim : state.claims.get? key = some claim) (hopen : claim.status ≠ .complete) :
    ∃ tasks,
      retireTasks key claim.taskUids state.taskStates = (tasks, .ok ()) ∧
      ({ state with
        claims := state.claims.set key { claim with status := .complete }
        taskStates := tasks }).Sound direct := by
  obtain ⟨stage, hstage, rfl, htaskUids⟩ := h.planned key claim hclaim
  have hstatus : claim.status = .claimed := by
    cases hcase : claim.status with
    | claimed => rfl
    | complete => exact absurd hcase hopen
  have hclaimed : ∀ taskUid ∈ stage.2.taskUids, state.taskStates.get? taskUid =
      some ⟨.claimed, some (stageKey (stage.1, stage.2.name))⟩ := by
    intro taskUid htask
    rw [h.tasks stage hstage taskUid htask, hclaim, taskOf, hstatus]
  obtain ⟨tasks, htasks, hget⟩ := retireTasks_claimed (h.frozen.stage_tasks.1 stage hstage) hclaimed
  refine ⟨tasks, by rw [htaskUids]; exact htasks, ?_⟩
  constructor
  · exact h.frozen
  · exact h.withinCap
  · exact h.realCalls
  · exact h.agentCalls
  · intro other found hfound
    rw [Dict.get?_set] at hfound
    split at hfound
    · next hkey =>
      obtain rfl := Option.some.inj hfound
      exact ⟨stage, hstage, hkey, htaskUids⟩
    · exact h.planned other found hfound
  · exact h.inOrder.complete hclaim
  · intro other hother taskUid htask
    change tasks.get? taskUid = some (taskOf _ ((state.claims.set _ _).get? _))
    rw [hget taskUid]
    by_cases hsame : other = stage
    · subst hsame
      rw [if_pos htask, Dict.get?_set_self, taskOf]
    · have hne : stageKey (other.1, other.2.name) ≠ stageKey (stage.1, stage.2.name) := by
        intro heq
        exact hsame (stage_of_stageKey h.frozen hother hstage heq)
      have hout : taskUid ∉ stage.2.taskUids := by
        intro hin
        exact hsame (stage_of_task h.frozen hother hstage htask hin)
      rw [if_neg hout, Dict.get?_set_of_ne _ _ hne]
      exact h.tasks other hother taskUid htask
  · exact h.parents

theorem checkCallBudget_ok_iff {increment : Int} :
    state.checkCallBudget increment = .ok () ↔
      state.usage.realCodexCalls + increment ≤ state.authorization.maximumRealCodexCalls := by
  rw [checkCallBudget, require_ok_iff]

theorem calls_of_reservable {generation : Int} {stage taskUid arm : String}
    {value : CallReservation} (h : state.Reservable generation stage taskUid arm value) :
    (state.callReservations.set (armKey generation stage taskUid arm) value).total
        CallReservation.calls =
      state.callReservations.total CallReservation.calls + 1 := by
  rcases h with ⟨hnone, rfl⟩ | ⟨existing, hexisting, -, rfl⟩
  · rw [Dict.total_set_absent _ _ _ hnone]
    rfl
  · have htotal := Dict.total_set_present _ CallReservation.calls existing.again hexisting
    have hcalls : existing.again.calls = existing.calls + 1 := rfl
    omega

theorem calls_of_reservableAuxiliary {reservationId kind : String} {value : AuxiliaryReservation}
    (h : state.ReservableAuxiliary reservationId kind value) :
    (state.auxiliaryCallReservations.set reservationId value).total AuxiliaryReservation.calls =
      state.auxiliaryCallReservations.total AuxiliaryReservation.calls + 1 := by
  rcases h with ⟨hnone, rfl⟩ | ⟨existing, hexisting, -, rfl⟩
  · rw [Dict.total_set_absent _ _ _ hnone]
    rfl
  · have htotal := Dict.total_set_present _ AuxiliaryReservation.calls existing.again hexisting
    have hcalls : existing.again.calls = existing.calls + 1 := rfl
    omega

theorem calls_of_aborted {call : ControllerCall} {kind : AbortKind} {key : String}
    {reservation : CallReservation} (abort : AuditedAbort)
    (hcall : call.abortedArm = some (kind, key))
    (hreservation : state.callReservations.get? key = some reservation) :
    (state.callReservations.set key (kind.abortedWith reservation abort)).total
        CallReservation.calls = state.callReservations.total CallReservation.calls ∧
      state.directCharge call = 0 := by
  have hcalls : (kind.abortedWith reservation abort).calls = reservation.calls ∧
      state.directCharge call = 0 := by
    unfold ControllerCall.abortedArm at hcall
    split at hcall <;> cases hcall <;> exact ⟨rfl, rfl⟩
  have htotal := Dict.total_set_present _ CallReservation.calls
    (kind.abortedWith reservation abort) hreservation
  exact ⟨by omega, hcalls.2⟩

theorem directCharge_of_movesAuxiliary {call : ControllerCall} (h : call.movesAuxiliary = true) :
    state.directCharge call = 0 := by
  cases call <;> first | rfl | cases h

structure SameStages (state next : ControllerState) : Prop where
  plan : next.plan = state.plan
  authorization : next.authorization = state.authorization
  claims : next.claims = state.claims
  taskStates : next.taskStates = state.taskStates
  seed : next.seedParentAgentProgramSha256 = state.seedParentAgentProgramSha256
  history : next.parentHistory = state.parentHistory
  parent : next.searchParentSha256 = state.searchParentSha256

theorem Sound.recounted {charge : Int} {next : ControllerState} (h : state.Sound direct)
    (hsame : SameStages state next)
    (hcap : next.usage.realCodexCalls ≤ state.authorization.maximumRealCodexCalls)
    (hreal : next.usage.realCodexCalls = next.callReservations.total CallReservation.calls +
      next.auxiliaryCallReservations.total AuxiliaryReservation.calls + (direct + charge))
    (hagent : next.usage.agentTaskCalls = next.armEvidence.total fun _ => (1 : Int)) :
    next.Sound (direct + charge) where
  frozen := hsame.plan ▸ h.frozen
  withinCap := hsame.authorization ▸ hcap
  realCalls := hreal
  agentCalls := hagent
  planned := by
    rw [hsame.claims, hsame.plan]
    exact h.planned
  inOrder := by
    unfold ClaimedInOrder StageStands
    rw [hsame.claims, hsame.plan]
    exact h.inOrder
  tasks := by
    rw [hsame.claims, hsame.plan, hsame.taskStates]
    exact h.tasks
  parents := by
    rw [hsame.seed, hsame.history, hsame.parent]
    exact h.parents

theorem Sound.move (h : state.Sound direct) {call : ControllerCall} {next : ControllerState}
    {persisted : Bool} (hmove : ControllerMove state call next persisted) :
    next.Sound (direct + if persisted then state.directCharge call else 0) := by
  have hreal := h.realCalls
  have hagent := h.agentCalls
  cases hmove with
  | quiet => simpa using h
  | looked => exact h.recounted ⟨rfl, rfl, rfl, rfl, rfl, rfl, rfl⟩ h.withinCap (by simpa using hreal) hagent
  | claimed hcandidates hnew hclaim htasks =>
    obtain ⟨tasks, hclaimed, hsound⟩ := h.claimed hcandidates hnew hclaim
    rw [htasks] at hclaimed
    cases hclaimed
    simpa [directCharge] using hsound
  | claimTorn hcandidates hnew hclaim htasks =>
    obtain ⟨tasks, hclaimed, -⟩ := h.claimed hcandidates hnew hclaim
    rw [htasks] at hclaimed
    cases hclaimed
  | completed hclaim hopen _ htasks =>
    obtain ⟨tasks, hretired, hsound⟩ := h.completed hclaim hopen
    rw [htasks] at hretired
    cases hretired
    simpa [directCharge] using hsound
  | completeTorn hclaim hopen _ htasks =>
    obtain ⟨tasks, hretired, -⟩ := h.completed hclaim hopen
    rw [htasks] at hretired
    cases hretired
  | reserved hcheck hbudget hvalue =>
    have htotal := calls_of_reservable hvalue
    have hcap := checkCallBudget_ok_iff.mp hbudget
    refine h.recounted ⟨rfl, rfl, rfl, rfl, rfl, rfl, rfl⟩ ?_ ?_ ?_
    · exact hcap
    · simp only [withReservation, charged, directCharge, htotal, hreal]
      simp
      omega
    · simpa [withReservation, charged] using hagent
  | @aborted call kind key reservation abort hcall hreservation hstatus =>
    obtain ⟨htotal, hdirect⟩ := calls_of_aborted abort hcall hreservation
    refine h.recounted ⟨rfl, rfl, rfl, rfl, rfl, rfl, rfl⟩ ?_ ?_ ?_
    · exact h.withinCap
    · simp only [withReservation, htotal, hreal, hdirect]
      simp
    · exact hagent
  | recorded hcheck hnew hnone hbudget =>
    have hcap := checkCallBudget_ok_iff.mp hbudget
    refine h.recounted ⟨rfl, rfl, rfl, rfl, rfl, rfl, rfl⟩ ?_ ?_ ?_
    · exact hcap
    · simp only [charged, directCharge, hnone, hreal]
      simp
      omega
    · simp only [charged, hagent]
      rw [Dict.total_set_absent _ _ _ hnew]
  | @recordedReserved generation stage taskUid arm evidence real reservation hcheck hnew hreservation
      hreserved =>
      have htotal := Dict.total_set_present _ CallReservation.calls
        (reservation.completedWith evidence) hreservation
      have hcalls : (reservation.completedWith evidence).calls = reservation.calls := rfl
      refine h.recounted ⟨rfl, rfl, rfl, rfl, rfl, rfl, rfl⟩ ?_ ?_ ?_
      · simpa [withReservation, charged] using h.withinCap
      · simp only [withReservation, charged, directCharge, hreservation, hreal]
        simp
        omega
      · simp only [charged, hagent]
        rw [Dict.total_set_absent _ _ _ hnew]
  | @quarantined generation stage taskUid arm evidence reason incident reservation entry hcheck
      hentry hreservation hactive husage =>
      obtain ⟨⟨active, hget, -⟩, -⟩ := hactive
      have htotal := Dict.total_set_present _ CallReservation.calls
        (reservation.quarantinedWith entry) hreservation
      have hcalls : (reservation.quarantinedWith entry).calls = reservation.calls := rfl
      have hless := Dict.total_erase_present _ (fun _ => (1 : Int)) (Option.mem_def.mp hget)
      refine h.recounted ⟨rfl, rfl, rfl, rfl, rfl, rfl, rfl⟩ ?_ ?_ ?_
      · simpa [withoutEvidence, withReservation, charged] using h.withinCap
      · simp only [withoutEvidence, withReservation, charged, directCharge, hreal]
        simp
        omega
      · simp only [withoutEvidence, withReservation, charged, hagent]
        omega
  | quarantineTorn hcheck hentry hreservation hactive husage =>
    obtain ⟨⟨active, hget, -⟩, -⟩ := hactive
    have hone := state.armEvidence.le_total (fun _ => (1 : Int)) (by simp) (Option.mem_def.mp hget)
    omega
  | charged hbudget =>
    have hcap := checkCallBudget_ok_iff.mp hbudget
    refine h.recounted ⟨rfl, rfl, rfl, rfl, rfl, rfl, rfl⟩ ?_ ?_ ?_
    · exact hcap
    · simp only [ControllerState.charged, directCharge, hreal]
      simp
      omega
    · simpa [ControllerState.charged] using hagent
  | reservedAuxiliary hbudget hvalue =>
    have htotal := calls_of_reservableAuxiliary hvalue
    have hcap := checkCallBudget_ok_iff.mp hbudget
    refine h.recounted ⟨rfl, rfl, rfl, rfl, rfl, rfl, rfl⟩ ?_ ?_ ?_
    · exact hcap
    · simp only [withAuxiliary, ControllerState.charged, directCharge, htotal, hreal]
      simp
      omega
    · simpa [withAuxiliary, ControllerState.charged] using hagent
  | @movedAuxiliary call reservationId reservation value hcall hreservation hcount =>
    have htotal := Dict.total_set_present _ AuxiliaryReservation.calls value hreservation
    have hcalls : value.calls = reservation.calls := by
      rw [AuxiliaryReservation.calls, hcount, AuxiliaryReservation.calls]
    refine h.recounted ⟨rfl, rfl, rfl, rfl, rfl, rfl, rfl⟩ ?_ ?_ ?_
    · exact h.withinCap
    · simp only [withAuxiliary, directCharge_of_movesAuxiliary hcall, hreal]
      simp
      omega
    · exact hagent
  | cloud =>
    exact h.recounted ⟨rfl, rfl, rfl, rfl, rfl, rfl, rfl⟩ h.withinCap (by simpa [directCharge] using hreal)
      hagent
  | @decided generation previous parent decision advance value hvalue hprevious =>
    have hparents : Leads ParentRecord.previousParentSha256 ParentRecord.searchParentSha256
        state.seedParentAgentProgramSha256 (state.parentHistory ++ [value]) parent := by
      rw [leads_concat, hvalue]
      exact ⟨hprevious ▸ h.parents, rfl⟩
    simp only [directCharge]
    simp
    exact { h with parents := hparents }

theorem get?_unopenedTasks (taskUids : List String) (taskUid : String) :
    (unopenedTasks taskUids).get? taskUid =
      if taskUid ∈ taskUids then some ⟨.unopened, none⟩ else none := by
  have hfold : ∀ (taskUids : List String) (tasks : Dict String TaskState),
      (taskUids.foldl (fun tasks taskUid => tasks.set taskUid ⟨.unopened, none⟩) tasks).get?
          taskUid =
        if taskUid ∈ taskUids then some ⟨.unopened, none⟩ else tasks.get? taskUid := by
    intro taskUids
    induction taskUids with
    | nil => simp
    | cons first rest ih =>
      intro tasks
      rw [List.foldl_cons, ih, Dict.get?_set]
      by_cases hrest : taskUid ∈ rest
      · simp [hrest]
      · simp [hrest]
  rw [unopenedTasks, hfold]
  rfl

theorem sound_initialized {plan : EvolutionPlan} {authorization : EvolutionAuthorization}
    {original seed epoch : String}
    (h : initializeController plan authorization original seed epoch = .ok state) :
    state.Sound 0 := by
  simp only [initializeController, checkInitialize, EvolutionAuthorization.validate,
    except_bind_ok_iff, require_ok_iff] at h
  obtain ⟨-, ⟨-, ⟨-, -, -, hcalls, -⟩, -⟩, loaded, hloaded, hstate⟩ := h
  have hfrozen : plan.Frozen := EvolutionPlan.frozen_of_fromDict hloaded
  cases hstate
  constructor
  · exact hfrozen
  · exact le_trans (Int.natCast_nonneg plan.plannedRealCodexCalls) hcalls
  · rfl
  · rfl
  · intro key claim hclaim
    cases hclaim
  · refine ⟨[], plan.stageSequence, rfl, by simp, ?_, by simp⟩
    intro stage _
    rfl
  · intro stage hstage taskUid htask
    have hmem : taskUid ∈ plan.generations.flatMap GenerationPlan.taskUids := by
      rw [← hfrozen.taskUids_eq]
      exact List.mem_flatMap.mpr ⟨stage, hstage, htask⟩
    change (unopenedTasks _).get? taskUid = _
    rw [get?_unopenedTasks, if_pos hmem]
    rfl
  · rfl

theorem sound_after {audited : AuditedController} {step : ControllerStep}
    (h : audited.controller.Both fun state => state.Sound audited.direct) :
    (audited.after step).controller.Both fun state => state.Sound (audited.after step).direct := by
  obtain ⟨hmemory, hstored⟩ := h
  cases step with
  | load =>
    have hsame : (audited.after .load).direct = audited.direct := add_zero _
    rw [hsame]
    exact ⟨hstored, hstored⟩
  | call made =>
    have hnext := hmemory.move (audited.controller.memory.perform_moves made)
    refine ⟨hnext, ?_⟩
    change ControllerState.Sound (if _ then _ else _) (audited.direct + if _ then _ else _)
    cases hpersisted : (audited.controller.memory.perform made).persisted with
    | true =>
      rw [hpersisted] at hnext
      exact hnext
    | false => simpa using hstored

/-- Whatever the calls, and also where they raise, the controller is accounted
for in every state of the run. -/
theorem controller_accounted {plan : EvolutionPlan} {authorization : EvolutionAuthorization}
    {original seed epoch : String}
    (h : initializeController plan authorization original seed epoch = .ok state)
    (steps : List ControllerStep) :
    Along (fun audited => audited.controller.memory.Accounted audited.direct)
      AuditedController.after ⟨⟨state, state⟩, 0⟩ steps := by
  have hstart := sound_initialized h
  have hsound : Along (fun audited => audited.controller.Both fun state => state.Sound audited.direct)
      AuditedController.after ⟨⟨state, state⟩, 0⟩ steps :=
    along_invariant (fun _ _ => sound_after) _ steps ⟨hstart, hstart⟩
  apply Along.mono _ hsound
  intro audited haudited
  exact haudited.1.accounted

def originalDigest : String := "1111111111111111111111111111111111111111111111111111111111111111"

def seedDigest : String := "2222222222222222222222222222222222222222222222222222222222222222"

def resumeAuthorization : EvolutionAuthorization where
  maximumUniqueSearchTasks := 91
  maximumRealCodexCalls := 366
  maximumTemporaryCloudInstances := 1
  maximumElapsedHours := 24
  maximumCloudCostCny := 30

def resumedState : ControllerState :=
  initialState EvolutionPlan.resumePlan resumeAuthorization originalDigest seedDigest "epoch"

theorem initialize_resumedState :
    initializeController EvolutionPlan.resumePlan resumeAuthorization originalDigest seedDigest
      "epoch" = .ok resumedState := by
  have hcheck : checkInitialize EvolutionPlan.resumePlan resumeAuthorization originalDigest
      seedDigest "epoch" = .ok () := by
    decide
  have hplan := EvolutionPlan.fromDict_buildResume EvolutionPlan.buildResume_resumePlan
  rw [initializeController, hcheck, hplan]
  rfl

theorem controller_accounted_resumed :
    Along (fun audited => audited.controller.memory.Accounted audited.direct)
      AuditedController.after ⟨⟨resumedState, resumedState⟩, 0⟩
      [.call (.claimStage 0 "observe" []), .call (.recordAuxiliaryCalls 2 none), .load] :=
  controller_accounted initialize_resumedState _

def observedTasks : List String := EvolutionPlan.ninetyOneTasks.take 16

def observeClaim : StageClaim where
  generation := 0
  stage := "observe"
  taskUids := observedTasks
  armSha256s := [originalDigest, seedDigest]
  matchedArmCount := 32
  status := .claimed

/-- The controller after the claim of the first stage. -/
def observing (tasks : Dict String TaskState) : ControllerState :=
  { resumedState with
    taskStates := tasks, claims := resumedState.claims.set (claimKey 0 "observe") observeClaim }

theorem length_observedTasks : observedTasks.length = 16 := by
  simp [observedTasks, EvolutionPlan.ninetyOneTasks]

theorem checkClaim_observe :
    resumedState.checkClaim 0 "observe" ⟨"observe", observedTasks, 0, 32⟩ [] = .ok observeClaim := by
  have harms : (resumedState.arms []).Nodup := by decide
  have hcalls : observedTasks.length * (resumedState.arms []).length ≤ 32 := by
    rw [length_observedTasks]
    decide
  have hbudget : require (observedTasks.length * (resumedState.arms []).length ≤ 32)
      (ControllerError.contract "stage arm budget exceeds frozen plan") = .ok () := if_pos hcalls
  have hdistinct : require (resumedState.arms []).Nodup
      (ControllerError.contract "stage arms must be distinct") = .ok () := if_pos harms
  have hmatched : observedTasks.length * (resumedState.arms []).length = 32 := by
    rw [length_observedTasks]
    rfl
  rw [checkClaim, hdistinct]
  dsimp only [bind, Except.bind]
  rw [hbudget, hmatched]
  rfl

theorem claimStage_resumed :
    ∃ tasks, (resumedState.claimStage 0 "observe" []).state = observing tasks := by
  have hcandidates :
      resumedState.checkCandidates 0 "observe" [] = .ok ⟨"observe", observedTasks, 0, 32⟩ := rfl
  have hnew : resumedState.claims.get? (claimKey 0 "observe") = none := rfl
  obtain ⟨tasks, htasks, -⟩ := (sound_initialized initialize_resumedState).claimed hcandidates hnew
    checkClaim_observe
  refine ⟨tasks, ?_⟩
  rw [claimStage, hcandidates]
  simp only [checked, hnew, checkClaim_observe, htasks]
  rfl

end ControllerState

end JlensEvolve.Evolution
