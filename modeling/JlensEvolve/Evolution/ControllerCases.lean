import JlensEvolve.Evolution.ControllerCalls

/-!
What a call on the controller can do to its state: nothing, or what one of the
moves below says, after the checks it names.
-/

namespace JlensEvolve.Evolution

open Library ControllerOutcome ControllerState

namespace ControllerOutcome

variable {α β : Type} {state : ControllerState}

@[simp] theorem silent_state (outcome : ControllerOutcome α) :
    outcome.silent.state = outcome.state := rfl

@[simp] theorem silent_persisted (outcome : ControllerOutcome α) :
    outcome.silent.persisted = outcome.persisted := rfl

@[simp] theorem persisted'_state (answer : α) : (persisted' state answer).state = state := rfl

@[simp] theorem persisted'_persisted (answer : α) : (persisted' state answer).persisted = true :=
  rfl

theorem checked_rule {P : ControllerOutcome α → Prop} {checks : Except ControllerError β}
    {rest : β → ControllerOutcome α} (hrefused : ∀ error, P (refused state error))
    (hrest : ∀ b, checks = .ok b → P (rest b)) : P (checked state checks rest) := by
  cases checks with
  | ok b => exact hrest b rfl
  | error error => exact hrefused error

end ControllerOutcome

/-- The reservation a call may write for an arm that has none or an aborted one. -/
def ControllerState.Reservable (state : ControllerState) (generation : Int)
    (stage taskUid armSha256 : String) (value : CallReservation) : Prop :=
  let reservation := state.callReservations.get? (armKey generation stage taskUid armSha256)
  (reservation = none ∧ value = .first generation stage taskUid armSha256) ∨
    ∃ existing, reservation = some existing ∧ isAborted existing.status = true ∧
      value = existing.again

def ControllerState.ReservableAuxiliary (state : ControllerState) (reservationId kind : String)
    (value : AuxiliaryReservation) : Prop :=
  let reservation := state.auxiliaryCallReservations.get? reservationId
  (reservation = none ∧ value = .first reservationId kind) ∨
    ∃ existing, reservation = some existing ∧
      existing.status = .abortedWithoutServiceDispatch ∧ value = existing.again

/-- The arm that one of the three audited aborts is about, and how it ends. -/
def ControllerCall.abortedArm : ControllerCall → Option (AbortKind × String)
  | .abortArmCallPreDispatch generation stage taskUid arm _ _ =>
    some (preDispatch, armKey generation stage taskUid arm)
  | .invalidateArmCallInfrastructure generation stage taskUid arm _ _ =>
    some (infrastructure, armKey generation stage taskUid arm)
  | .abortArmCallWithoutServiceDispatch generation stage taskUid arm _ _ =>
    some (noService, armKey generation stage taskUid arm)
  | _ => none

def ControllerCall.movesAuxiliary : ControllerCall → Bool
  | .abortAuxiliaryCall _ _ _ => true
  | .resetAuxiliaryCall _ _ _ => true
  | .completeAuxiliaryCall _ _ => true
  | _ => false

/-- What an accepted call charges without a reservation. -/
def ControllerState.directCharge (state : ControllerState) : ControllerCall → Int
  | .recordArmEvidence generation stage taskUid arm _ realCodexCalls =>
    match state.callReservations.get? (armKey generation stage taskUid arm) with
    | some _ => 0
    | none => realCodexCalls
  | .recordAuxiliaryCalls count realCodexCalls => realCodexCalls.getD count
  | _ => 0

section

variable (state : ControllerState)

/-- The evidence `record_arm_evidence` writes. -/
def ControllerState.evidence (generation : Int) (stage taskUid armSha256 evidenceSha256 : String)
    (realCodexCalls : Int) : ArmEvidence :=
  { generation, stage, taskUid, armSha256, evidenceSha256
    nativeEvaluatorEpoch := state.nativeEvaluatorEpoch, realCodexCalls }

def ControllerState.withoutEvidence (key : String) (reservation : CallReservation)
    (entry : QuarantineEntry) : ControllerState :=
  { state.withReservation key (reservation.quarantinedWith entry) with
    armEvidence := state.armEvidence.erase key
    quarantinedArmEvidence := some (state.quarantinedArmEvidence.getD [] ++ [entry]) }

/-- What a call leaves in memory and whether it persisted that. -/
inductive ControllerMove : ControllerCall → ControllerState → Bool → Prop
  | quiet {call : ControllerCall} : ControllerMove call state false
  | claimed {generation : Int} {stage : String} {candidates : List String} {stagePlan : StagePlan}
      {claim : StageClaim} {tasks : Dict String TaskState}
      (hcandidates : state.checkCandidates generation stage candidates = .ok stagePlan)
      (hnew : state.claims.get? (claimKey generation stage) = none)
      (hclaim : state.checkClaim generation stage stagePlan candidates = .ok claim)
      (htasks : claimTasks (claimKey generation stage) stagePlan.taskUids state.taskStates =
        (tasks, .ok ())) :
      ControllerMove (.claimStage generation stage candidates)
        { state with
          taskStates := tasks, claims := state.claims.set (claimKey generation stage) claim } true
  | claimTorn {generation : Int} {stage : String} {candidates : List String}
      {stagePlan : StagePlan} {claim : StageClaim} {tasks : Dict String TaskState}
      {error : ControllerError}
      (hcandidates : state.checkCandidates generation stage candidates = .ok stagePlan)
      (hnew : state.claims.get? (claimKey generation stage) = none)
      (hclaim : state.checkClaim generation stage stagePlan candidates = .ok claim)
      (htasks : claimTasks (claimKey generation stage) stagePlan.taskUids state.taskStates =
        (tasks, .error error)) :
      ControllerMove (.claimStage generation stage candidates) { state with taskStates := tasks }
        false
  | completed {generation : Int} {stage : String} {claim : StageClaim}
      {tasks : Dict String TaskState}
      (hclaim : state.claims.get? (claimKey generation stage) = some claim)
      (hopen : claim.status ≠ .complete)
      (hmissing : state.missingArms (claimKey generation stage) claim = [])
      (htasks : retireTasks (claimKey generation stage) claim.taskUids state.taskStates =
        (tasks, .ok ())) :
      ControllerMove (.completeStage generation stage)
        { state with
          claims := state.claims.set (claimKey generation stage) { claim with status := .complete }
          taskStates := tasks } true
  | completeTorn {generation : Int} {stage : String} {claim : StageClaim}
      {tasks : Dict String TaskState} {error : ControllerError}
      (hclaim : state.claims.get? (claimKey generation stage) = some claim)
      (hopen : claim.status ≠ .complete)
      (hmissing : state.missingArms (claimKey generation stage) claim = [])
      (htasks : retireTasks (claimKey generation stage) claim.taskUids state.taskStates =
        (tasks, .error error)) :
      ControllerMove (.completeStage generation stage)
        { state with
          claims := state.claims.set (claimKey generation stage) { claim with status := .complete }
          taskStates := tasks } false
  | reserved {generation : Int} {stage taskUid arm : String} {value : CallReservation}
      (hcheck : state.checkReserve generation stage taskUid arm = .ok ())
      (hbudget : state.checkCallBudget 1 = .ok ())
      (hvalue : state.Reservable generation stage taskUid arm value) :
      ControllerMove (.reserveArmCall generation stage taskUid arm)
        { state.withReservation (armKey generation stage taskUid arm) value with
          usage := state.charged 1 0 0 } true
  | aborted {call : ControllerCall} {kind : AbortKind} {key : String}
      {reservation : CallReservation} {abort : AuditedAbort}
      (hcall : call.abortedArm = some (kind, key))
      (hreservation : state.callReservations.get? key = some reservation)
      (hstatus : reservation.status = .reserved) :
      ControllerMove call (state.withReservation key (kind.abortedWith reservation abort)) true
  | recorded {generation : Int} {stage taskUid arm evidence : String} {realCodexCalls : Int}
      (hcheck : state.checkEvidence generation stage taskUid arm evidence realCodexCalls = .ok ())
      (hnew : state.armEvidence.get? (armKey generation stage taskUid arm) = none)
      (hnone : state.callReservations.get? (armKey generation stage taskUid arm) = none)
      (hbudget : state.checkCallBudget realCodexCalls = .ok ()) :
      ControllerMove (.recordArmEvidence generation stage taskUid arm evidence realCodexCalls)
        { state with
          armEvidence := state.armEvidence.set (armKey generation stage taskUid arm)
            (state.evidence generation stage taskUid arm evidence realCodexCalls)
          usage := state.charged realCodexCalls 1 0 } true
  | recordedReserved {generation : Int} {stage taskUid arm evidence : String} {realCodexCalls : Int}
      {reservation : CallReservation}
      (hcheck : state.checkEvidence generation stage taskUid arm evidence realCodexCalls = .ok ())
      (hnew : state.armEvidence.get? (armKey generation stage taskUid arm) = none)
      (hreservation :
        state.callReservations.get? (armKey generation stage taskUid arm) = some reservation)
      (hreserved : checkReserved reservation evidence realCodexCalls = .ok ()) :
      ControllerMove (.recordArmEvidence generation stage taskUid arm evidence realCodexCalls)
        { state.withReservation (armKey generation stage taskUid arm)
            (reservation.completedWith evidence) with
          armEvidence := state.armEvidence.set (armKey generation stage taskUid arm)
            (state.evidence generation stage taskUid arm evidence realCodexCalls)
          usage := state.charged 0 1 0 } true
  | looked {call : ControllerCall} :
      ControllerMove call
        { state with quarantinedArmEvidence := some (state.quarantinedArmEvidence.getD []) } false
  | quarantined {generation : Int} {stage taskUid arm evidence reasonCode incident : String}
      {reservation : CallReservation} {entry : QuarantineEntry}
      (hcheck : state.checkQuarantine generation stage arm evidence reasonCode incident = .ok ())
      (hentry : entry = ⟨generation, stage, taskUid, arm, evidence, reasonCode, incident⟩)
      (hreservation :
        state.callReservations.get? (armKey generation stage taskUid arm) = some reservation)
      (hactive : state.Quarantinable (armKey generation stage taskUid arm) evidence reservation)
      (husage : 1 ≤ state.usage.agentTaskCalls) :
      ControllerMove
        (.quarantineCompletedArmEvidence generation stage taskUid arm evidence reasonCode incident)
        { state.withoutEvidence (armKey generation stage taskUid arm) reservation entry with
          usage := state.charged 0 (-1) 0 } true
  | quarantineTorn {generation : Int} {stage taskUid arm evidence reasonCode incident : String}
      {reservation : CallReservation} {entry : QuarantineEntry}
      (hcheck : state.checkQuarantine generation stage arm evidence reasonCode incident = .ok ())
      (hentry : entry = ⟨generation, stage, taskUid, arm, evidence, reasonCode, incident⟩)
      (hreservation :
        state.callReservations.get? (armKey generation stage taskUid arm) = some reservation)
      (hactive : state.Quarantinable (armKey generation stage taskUid arm) evidence reservation)
      (husage : state.usage.agentTaskCalls < 1) :
      ControllerMove
        (.quarantineCompletedArmEvidence generation stage taskUid arm evidence reasonCode incident)
        (state.withoutEvidence (armKey generation stage taskUid arm) reservation entry) false
  | charged {count : Int} {realCodexCalls : Option Int}
      (hbudget : state.checkCallBudget (realCodexCalls.getD count) = .ok ()) :
      ControllerMove (.recordAuxiliaryCalls count realCodexCalls)
        { state with usage := state.charged (realCodexCalls.getD count) 0 count } true
  | reservedAuxiliary {reservationId kind : String} {value : AuxiliaryReservation}
      (hbudget : state.checkCallBudget 1 = .ok ())
      (hvalue : state.ReservableAuxiliary reservationId kind value) :
      ControllerMove (.reserveAuxiliaryCall reservationId kind)
        { state.withAuxiliary reservationId value with usage := state.charged 1 0 1 } true
  | movedAuxiliary {call : ControllerCall} {reservationId : String}
      {reservation value : AuxiliaryReservation} (hcall : call.movesAuxiliary = true)
      (hreservation : state.auxiliaryCallReservations.get? reservationId = some reservation)
      (hcount : value.reservationCount = reservation.reservationCount) :
      ControllerMove call (state.withAuxiliary reservationId value) true
  | cloud {instanceId : String} {instanceIds : List String} {elapsedHours cloudCostCny : ℚ}
      {externalActions : Nat} :
      ControllerMove (.registerCloudUsage instanceId elapsedHours cloudCostCny)
        { state with
          usage := { state.usage with
            cloudInstanceIds := instanceIds, elapsedHours, cloudCostCny }
          externalActions } true
  | decided {generation : Int} {previousParent searchParent decision : String} {advance : Bool}
      {value : ParentRecord}
      (hvalue : value = ⟨generation, previousParent, searchParent, decision, advance⟩)
      (hprevious : previousParent = state.searchParentSha256) :
      ControllerMove
        (.recordParentDecision generation previousParent searchParent decision advance)
        { state with
          parentHistory := state.parentHistory ++ [value], searchParentSha256 := searchParent } true

end

def ControllerOutcome.Moves {α : Type} (state : ControllerState) (call : ControllerCall)
    (outcome : ControllerOutcome α) : Prop :=
  ControllerMove state call outcome.state outcome.persisted

namespace ControllerState

variable (state : ControllerState) {call : ControllerCall}

theorem moves_refused {α : Type} (error : ControllerError) :
    Moves state call (refused state error : ControllerOutcome α) := .quiet

theorem moves_unchanged {α : Type} (answer : α) : Moves state call (unchanged state answer) := .quiet

theorem claimStage_moves (generation : Int) (stage : String) (candidates : List String) :
    Moves state (.claimStage generation stage candidates)
      (state.claimStage generation stage candidates) := by
  unfold claimStage
  apply checked_rule (state.moves_refused)
  intro stagePlan hcandidates
  dsimp only
  split
  · split
    · exact state.moves_unchanged _
    · exact state.moves_refused _
  · next hnew =>
    apply checked_rule (state.moves_refused)
    intro claim hclaim
    split
    · next htasks => exact .claimTorn hcandidates hnew hclaim htasks
    · next htasks => exact .claimed hcandidates hnew hclaim htasks

theorem completeStage_moves (generation : Int) (stage : String) :
    Moves state (.completeStage generation stage) (state.completeStage generation stage) := by
  unfold completeStage
  dsimp only
  split
  · exact state.moves_refused _
  · next hclaim =>
    split
    · exact state.moves_unchanged _
    · next hopen =>
      split
      · exact state.moves_refused _
      · next hmissing =>
        split
        · next htasks => exact .completeTorn hclaim hopen (not_not.mp hmissing) htasks
        · next htasks => exact .completed hclaim hopen (not_not.mp hmissing) htasks

theorem reserveArmCall_moves (generation : Int) (stage taskUid arm : String) :
    Moves state (.reserveArmCall generation stage taskUid arm)
      (state.reserveArmCall generation stage taskUid arm) := by
  unfold reserveArmCall
  apply checked_rule (state.moves_refused)
  intro _ hcheck
  dsimp only
  split
  · next existing hexisting =>
    split
    · next haborted =>
      apply checked_rule (state.moves_refused)
      intro _ hbudget
      exact .reserved hcheck hbudget (.inr ⟨existing, hexisting, haborted, rfl⟩)
    · exact state.moves_unchanged _
  · next hnone =>
    apply checked_rule (state.moves_refused)
    intro _ hbudget
    exact .reserved hcheck hbudget (.inl ⟨hnone, rfl⟩)

theorem abortArmCall_moves {kind : AbortKind} {generation : Int} {stage taskUid arm : String}
    (reasonCode evidence : String)
    (hcall : call.abortedArm = some (kind, armKey generation stage taskUid arm)) :
    Moves state call
      (state.abortArmCall kind generation stage taskUid arm reasonCode evidence) := by
  unfold abortArmCall
  apply checked_rule (state.moves_refused)
  intro reservation hcheck
  have hreservation :
      state.callReservations.get? (armKey generation stage taskUid arm) = some reservation := by
    simp only [checkAbort, except_bind_ok_iff] at hcheck
    obtain ⟨-, -, -, -, -, -, hfound⟩ := hcheck
    split at hfound
    · cases hfound
    · next hget =>
      cases hfound
      exact hget
  dsimp only
  split
  · split
    · exact state.moves_unchanged _
    · exact state.moves_refused _
  · split
    · exact state.moves_refused _
    · next hstatus =>
      split
      · exact state.moves_refused _
      · exact .aborted hcall hreservation (not_not.mp hstatus)

theorem recordArmEvidence_moves (generation : Int) (stage taskUid arm evidence : String)
    (realCodexCalls : Int) :
    Moves state (.recordArmEvidence generation stage taskUid arm evidence realCodexCalls)
      (state.recordArmEvidence generation stage taskUid arm evidence realCodexCalls) := by
  unfold recordArmEvidence
  apply checked_rule (state.moves_refused)
  intro _ hcheck
  dsimp only
  split
  · split
    · exact state.moves_unchanged _
    · exact state.moves_refused _
  · next hnew =>
    split
    · next hreservation =>
      apply checked_rule (state.moves_refused)
      intro _ hreserved
      exact .recordedReserved hcheck hnew hreservation hreserved
    · next hnone =>
      apply checked_rule (state.moves_refused)
      intro _ hbudget
      exact .recorded hcheck hnew hnone hbudget

theorem quarantineCompletedArmEvidence_moves (generation : Int)
    (stage taskUid arm evidence reasonCode incident : String) :
    Moves state
      (.quarantineCompletedArmEvidence generation stage taskUid arm evidence reasonCode incident)
      (state.quarantineCompletedArmEvidence generation stage taskUid arm evidence reasonCode
        incident) := by
  unfold quarantineCompletedArmEvidence
  apply checked_rule (state.moves_refused)
  intro _ hcheck
  dsimp only
  split
  · exact .looked
  · split
    · exact .looked
    · next hreservation =>
      split
      · exact .looked
      · next hactive =>
        split
        · next husage => exact .quarantineTorn hcheck rfl hreservation (not_not.mp hactive) husage
        · next husage =>
          exact .quarantined hcheck rfl hreservation (not_not.mp hactive) (not_lt.mp husage)

theorem recordAuxiliaryCalls_moves (count : Int) (realCodexCalls : Option Int) :
    Moves state (.recordAuxiliaryCalls count realCodexCalls)
      (state.recordAuxiliaryCalls count realCodexCalls) := by
  unfold recordAuxiliaryCalls
  apply checked_rule (state.moves_refused)
  intro _ hchecks
  simp only [except_bind_ok_iff, require_ok_iff] at hchecks
  obtain ⟨-, -, -, -, hbudget⟩ := hchecks
  exact .charged hbudget

theorem reserveAuxiliaryCall_moves (reservationId kind : String) :
    Moves state (.reserveAuxiliaryCall reservationId kind)
      (state.reserveAuxiliaryCall reservationId kind) := by
  unfold reserveAuxiliaryCall
  apply checked_rule (state.moves_refused)
  intro _ _
  split
  · next existing hexisting =>
    split
    · exact state.moves_refused _
    · split
      · next haborted =>
        apply checked_rule (state.moves_refused)
        intro _ hbudget
        have hvalue : state.ReservableAuxiliary reservationId kind existing.again :=
          .inr ⟨existing, hexisting, haborted, rfl⟩
        exact .reservedAuxiliary hbudget hvalue
      · exact state.moves_unchanged _
  · next hnone =>
    apply checked_rule (state.moves_refused)
    intro _ hbudget
    exact .reservedAuxiliary hbudget (.inl ⟨hnone, rfl⟩)

theorem auxiliaryReservation_ok {reservationId : String} {reservation : AuxiliaryReservation}
    (h : state.auxiliaryReservation reservationId = .ok reservation) :
    state.auxiliaryCallReservations.get? reservationId = some reservation := by
  unfold auxiliaryReservation at h
  split at h
  · cases h
  · next hget =>
    cases h
    exact hget

theorem abortAuxiliaryCall_moves (reservationId reasonCode evidence : String) :
    Moves state (.abortAuxiliaryCall reservationId reasonCode evidence)
      (state.abortAuxiliaryCall reservationId reasonCode evidence) := by
  unfold abortAuxiliaryCall
  apply checked_rule (state.moves_refused)
  intro reservation hchecks
  simp only [except_bind_ok_iff] at hchecks
  obtain ⟨-, -, -, -, hfound⟩ := hchecks
  dsimp only
  split
  · split
    · exact state.moves_unchanged _
    · exact state.moves_refused _
  · split
    · exact state.moves_refused _
    · split
      · exact state.moves_refused _
      · exact .movedAuxiliary rfl (state.auxiliaryReservation_ok hfound) rfl

theorem resetAuxiliaryCall_moves (reservationId reasonCode evidence : String) :
    Moves state (.resetAuxiliaryCall reservationId reasonCode evidence)
      (state.resetAuxiliaryCall reservationId reasonCode evidence) := by
  unfold resetAuxiliaryCall
  apply checked_rule (state.moves_refused)
  intro reservation hchecks
  simp only [except_bind_ok_iff] at hchecks
  obtain ⟨-, -, -, -, hfound⟩ := hchecks
  dsimp only
  split
  · exact state.moves_unchanged _
  · split
    · exact state.moves_refused _
    · exact .movedAuxiliary rfl (state.auxiliaryReservation_ok hfound) rfl

theorem completeAuxiliaryCall_moves (reservationId evidence : String) :
    Moves state (.completeAuxiliaryCall reservationId evidence)
      (state.completeAuxiliaryCall reservationId evidence) := by
  unfold completeAuxiliaryCall
  apply checked_rule (state.moves_refused)
  intro reservation hchecks
  simp only [except_bind_ok_iff] at hchecks
  obtain ⟨-, -, hfound⟩ := hchecks
  split
  · split
    · exact state.moves_unchanged _
    · exact state.moves_refused _
  · split
    · exact state.moves_refused _
    · exact .movedAuxiliary rfl (state.auxiliaryReservation_ok hfound) rfl

theorem registerCloudUsage_moves (instanceId : String) (elapsedHours cloudCostCny : ℚ) :
    Moves state (.registerCloudUsage instanceId elapsedHours cloudCostCny)
      (state.registerCloudUsage instanceId elapsedHours cloudCostCny) := by
  unfold registerCloudUsage
  apply checked_rule (state.moves_refused)
  intro _ _
  exact .cloud

theorem recordParentDecision_moves (generation : Int)
    (previousParent searchParent decision : String) (advance : Bool) :
    Moves state (.recordParentDecision generation previousParent searchParent decision advance)
      (state.recordParentDecision generation previousParent searchParent decision advance) := by
  unfold recordParentDecision
  apply checked_rule (state.moves_refused)
  intro _ _
  dsimp only
  split
  · split
    · exact state.moves_unchanged _
    · exact state.moves_refused _
  · split
    · exact state.moves_refused _
    · next hprevious =>
      split
      · exact state.moves_refused _
      · exact .decided rfl (not_not.mp hprevious)

theorem perform_moves (call : ControllerCall) : Moves state call (state.perform call) := by
  cases call with
  | claimStage generation stage candidates =>
    exact state.claimStage_moves generation stage candidates
  | completeStage generation stage => exact state.completeStage_moves generation stage
  | reserveArmCall generation stage taskUid arm =>
    exact state.reserveArmCall_moves generation stage taskUid arm
  | abortArmCallPreDispatch generation stage taskUid arm reasonCode evidence =>
    exact state.abortArmCall_moves reasonCode evidence rfl
  | invalidateArmCallInfrastructure generation stage taskUid arm reasonCode evidence =>
    exact state.abortArmCall_moves reasonCode evidence rfl
  | abortArmCallWithoutServiceDispatch generation stage taskUid arm reasonCode evidence =>
    exact state.abortArmCall_moves reasonCode evidence rfl
  | recordArmEvidence generation stage taskUid arm evidence realCodexCalls =>
    exact state.recordArmEvidence_moves generation stage taskUid arm evidence realCodexCalls
  | quarantineCompletedArmEvidence generation stage taskUid arm evidence reasonCode incident =>
    exact state.quarantineCompletedArmEvidence_moves generation stage taskUid arm evidence
      reasonCode incident
  | recordAuxiliaryCalls count realCodexCalls =>
    exact state.recordAuxiliaryCalls_moves count realCodexCalls
  | reserveAuxiliaryCall reservationId kind =>
    exact state.reserveAuxiliaryCall_moves reservationId kind
  | abortAuxiliaryCall reservationId reasonCode evidence =>
    exact state.abortAuxiliaryCall_moves reservationId reasonCode evidence
  | resetAuxiliaryCall reservationId reasonCode evidence =>
    exact state.resetAuxiliaryCall_moves reservationId reasonCode evidence
  | completeAuxiliaryCall reservationId evidence =>
    exact state.completeAuxiliaryCall_moves reservationId evidence
  | registerCloudUsage instanceId elapsedHours cloudCostCny =>
    exact state.registerCloudUsage_moves instanceId elapsedHours cloudCostCny
  | recordParentDecision generation previousParent searchParent decision advance =>
    exact state.recordParentDecision_moves generation previousParent searchParent decision advance

variable {state} {generation : Int} {stage taskUid arm : String}

theorem checkArm_of_claimed {claim : StageClaim} (unclaimed outside : String)
    (hclaim : state.claims.get? (claimKey generation stage) = some claim)
    (hstatus : claim.status = .claimed) (htask : taskUid ∈ claim.taskUids)
    (harm : arm ∈ claim.armSha256s) :
    state.checkArm generation stage taskUid arm unclaimed outside = .ok () := by
  rw [checkArm, hclaim]
  simp [require, hstatus, htask, harm, bind, Except.bind]

theorem reserveArmCall_first (hcheck : state.checkReserve generation stage taskUid arm = .ok ())
    (hnone : state.callReservations.get? (armKey generation stage taskUid arm) = none)
    (hbudget : state.checkCallBudget 1 = .ok ()) :
    state.reserveArmCall generation stage taskUid arm =
      persisted' { state.withReservation (armKey generation stage taskUid arm)
          (.first generation stage taskUid arm) with usage := state.charged 1 0 0 }
        (.first generation stage taskUid arm, true) := by
  rw [reserveArmCall, hcheck]
  simp only [checked, hnone, hbudget]

theorem recordArmEvidence_reserved {evidence : String} {realCodexCalls : Int}
    {reservation : CallReservation}
    (hcheck : state.checkEvidence generation stage taskUid arm evidence realCodexCalls = .ok ())
    (hnew : state.armEvidence.get? (armKey generation stage taskUid arm) = none)
    (hreservation :
      state.callReservations.get? (armKey generation stage taskUid arm) = some reservation)
    (hreserved : checkReserved reservation evidence realCodexCalls = .ok ()) :
    state.recordArmEvidence generation stage taskUid arm evidence realCodexCalls =
      persisted' { state.withReservation (armKey generation stage taskUid arm)
          (reservation.completedWith evidence) with
        armEvidence := state.armEvidence.set (armKey generation stage taskUid arm)
          (state.evidence generation stage taskUid arm evidence realCodexCalls)
        usage := state.charged 0 1 0 }
        (state.evidence generation stage taskUid arm evidence realCodexCalls) := by
  rw [recordArmEvidence, hcheck]
  simp only [checked, hnew, hreservation, hreserved]
  rfl

theorem recordArmEvidence_unreserved {evidence : String} {realCodexCalls : Int}
    (hcheck : state.checkEvidence generation stage taskUid arm evidence realCodexCalls = .ok ())
    (hnew : state.armEvidence.get? (armKey generation stage taskUid arm) = none)
    (hnone : state.callReservations.get? (armKey generation stage taskUid arm) = none)
    (hbudget : state.checkCallBudget realCodexCalls = .ok ()) :
    state.recordArmEvidence generation stage taskUid arm evidence realCodexCalls =
      persisted' { state with
        armEvidence := state.armEvidence.set (armKey generation stage taskUid arm)
          (state.evidence generation stage taskUid arm evidence realCodexCalls)
        usage := state.charged realCodexCalls 1 0 }
        (state.evidence generation stage taskUid arm evidence realCodexCalls) := by
  rw [recordArmEvidence, hcheck]
  simp only [checked, hnew, hnone, hbudget]
  rfl

theorem quarantineCompletedArmEvidence_active {evidence reasonCode incident : String}
    {reservation : CallReservation} {entry : QuarantineEntry}
    (hcheck : state.checkQuarantine generation stage arm evidence reasonCode incident = .ok ())
    (hentry : entry = ⟨generation, stage, taskUid, arm, evidence, reasonCode, incident⟩)
    (hnew : entry ∉ state.quarantinedArmEvidence.getD [])
    (hreservation :
      state.callReservations.get? (armKey generation stage taskUid arm) = some reservation)
    (hactive : state.Quarantinable (armKey generation stage taskUid arm) evidence reservation)
    (husage : 1 ≤ state.usage.agentTaskCalls) :
    state.quarantineCompletedArmEvidence generation stage taskUid arm evidence reasonCode incident =
      persisted' { state.withoutEvidence (armKey generation stage taskUid arm) reservation entry with
        usage := state.charged 0 (-1) 0 } entry := by
  subst hentry
  rw [quarantineCompletedArmEvidence, hcheck]
  simp only [checked]
  rw [if_neg hnew, hreservation]
  have hlooked : ({ state with
      quarantinedArmEvidence := some (state.quarantinedArmEvidence.getD []) }).Quarantinable
        (armKey generation stage taskUid arm) evidence reservation := hactive
  dsimp only
  rw [if_neg (not_not.mpr hlooked), if_neg (not_lt.mpr husage)]
  rfl

end ControllerState

end JlensEvolve.Evolution
