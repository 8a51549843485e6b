import JlensEvolve.Evolution.ControllerRuns

/-!
Evidence that is quarantined for an arm stays out of the active evidence as
long as nobody records the same digest for the arm again:
`record_arm_evidence` does not look at the quarantine, and a second call of
`quarantine_completed_arm_evidence` with the same entry finds the entry and
removes nothing.
-/

namespace JlensEvolve.Evolution

open Library ControllerOutcome

def QuarantineEntry.key (entry : QuarantineEntry) : String :=
  armKey entry.generation entry.stage entry.taskUid entry.armSha256

namespace ControllerState

variable (state : ControllerState)

def quarantine : List QuarantineEntry := state.quarantinedArmEvidence.getD []

/-- The arm has active evidence with this digest. -/
def Active (key evidenceSha256 : String) : Prop :=
  ∃ active, state.armEvidence.get? key = some active ∧ active.evidenceSha256 = evidenceSha256

structure QuarantinedStaysOut : Prop where
  /-- When `quarantine_completed_arm_evidence` returns, the digest is not active. -/
  returned : ∀ generation stage taskUid arm evidence reasonCode incident entry,
    (state.quarantineCompletedArmEvidence generation stage taskUid arm evidence reasonCode
        incident).answer = .ok entry →
      ¬(state.quarantineCompletedArmEvidence generation stage taskUid arm evidence reasonCode
        incident).state.Active (armKey generation stage taskUid arm) evidence
  /-- A digest once quarantined for an arm is not active. -/
  never : ∀ entry ∈ state.quarantine, ¬state.Active entry.key entry.evidenceSha256

/-- The call records evidence that is not there yet. -/
def RecordsNew (generation : Int) (stage taskUid arm evidence : String) (realCodexCalls : Int) :
    Prop :=
  state.checkEvidence generation stage taskUid arm evidence realCodexCalls = .ok () ∧
    state.armEvidence.get? (armKey generation stage taskUid arm) = none ∧
    match state.callReservations.get? (armKey generation stage taskUid arm) with
    | some reservation => checkReserved reservation evidence realCodexCalls = .ok ()
    | none => state.checkCallBudget realCodexCalls = .ok ()

end ControllerState

/-- New evidence does not carry a digest that is quarantined for its arm. -/
def Controller.RecordsClean (controller : Controller) : ControllerStep → Prop
  | .call (.recordArmEvidence generation stage taskUid arm evidence realCodexCalls) =>
    controller.memory.RecordsNew generation stage taskUid arm evidence realCodexCalls →
      ∀ entry ∈ controller.memory.quarantine,
        entry.key = armKey generation stage taskUid arm → entry.evidenceSha256 ≠ evidence
  | _ => True

namespace ControllerState

variable {state : ControllerState}

/-- Quarantined digests are not active, and their arms have a reservation. -/
structure KeptOut (state : ControllerState) : Prop where
  never : ∀ entry ∈ state.quarantine, ¬state.Active entry.key entry.evidenceSha256
  reserved : ∀ entry ∈ state.quarantine, (state.callReservations.get? entry.key).isSome

theorem KeptOut.congr {next : ControllerState} (h : state.KeptOut)
    (hevidence : next.armEvidence = state.armEvidence)
    (hquarantine : next.quarantine = state.quarantine)
    (hreservations : ∀ key, (state.callReservations.get? key).isSome →
      (next.callReservations.get? key).isSome) : next.KeptOut := by
  constructor
  · unfold Active
    rw [hevidence, hquarantine]
    exact h.never
  · rw [hquarantine]
    intro entry hentry
    exact hreservations entry.key (h.reserved entry hentry)

theorem isSome_set {ν : Type} (d : Dict String ν) {key other : String} (value : ν)
    (h : (d.get? other).isSome) : ((d.set key value).get? other).isSome := by
  rw [Dict.get?_set]
  split
  · rfl
  · exact h

theorem KeptOut.withReservation (h : state.KeptOut) (key : String) (value : CallReservation) :
    (state.withReservation key value).KeptOut :=
  h.congr rfl rfl fun _ hother => isSome_set _ _ hother

theorem KeptOut.withoutEvidence (h : state.KeptOut) {key : String} {reservation : CallReservation}
    {entry : QuarantineEntry} (hkey : entry.key = key) :
    (state.withoutEvidence key reservation entry).KeptOut := by
  subst hkey
  have hmem : ∀ other, other ∈ (state.withoutEvidence entry.key reservation entry).quarantine ↔
      other ∈ state.quarantine ∨ other = entry := by
    intro other
    simp [quarantine, ControllerState.withoutEvidence]
  constructor
  · intro other hother hactive
    obtain ⟨active, hactive, hdigest⟩ := hactive
    change (state.armEvidence.erase entry.key).get? other.key = some active at hactive
    rw [Dict.get?_erase] at hactive
    split at hactive
    · cases hactive
    · next hne =>
      rcases (hmem other).mp hother with hold | rfl
      · exact h.never other hold ⟨active, hactive, hdigest⟩
      · exact hne rfl
  · intro other hother
    change ((state.callReservations.set entry.key _).get? other.key).isSome
    rcases (hmem other).mp hother with hold | rfl
    · exact isSome_set _ _ (h.reserved other hold)
    · rw [Dict.get?_set_self]
      rfl

theorem KeptOut.withEvidence (h : state.KeptOut) {next : ControllerState} {key : String}
    {value : ArmEvidence} (hevidence : next.armEvidence = state.armEvidence.set key value)
    (hquarantine : next.quarantine = state.quarantine)
    (hreservations : ∀ key, (state.callReservations.get? key).isSome →
      (next.callReservations.get? key).isSome)
    (hclean : ∀ entry ∈ state.quarantine,
      entry.key = key → entry.evidenceSha256 ≠ value.evidenceSha256) : next.KeptOut := by
  constructor
  · intro entry hentry hactive
    rw [hquarantine] at hentry
    obtain ⟨active, hactive, hdigest⟩ := hactive
    rw [hevidence, Dict.get?_set] at hactive
    split at hactive
    · next hkey =>
      cases hactive
      exact hclean entry hentry hkey hdigest.symm
    · exact h.never entry hentry ⟨active, hactive, hdigest⟩
  · rw [hquarantine]
    intro entry hentry
    exact hreservations entry.key (h.reserved entry hentry)

theorem KeptOut.move (h : state.KeptOut) {stored : ControllerState} {call : ControllerCall}
    {next : ControllerState} {persisted : Bool}
    (hclean : Controller.RecordsClean ⟨state, stored⟩ (.call call))
    (hmove : ControllerMove state call next persisted) : next.KeptOut := by
  cases hmove with
  | quiet => exact h
  | looked => exact h.congr rfl rfl fun _ hreserved => hreserved
  | claimed => exact h.congr rfl rfl fun _ hreserved => hreserved
  | claimTorn => exact h.congr rfl rfl fun _ hreserved => hreserved
  | completed => exact h.congr rfl rfl fun _ hreserved => hreserved
  | completeTorn => exact h.congr rfl rfl fun _ hreserved => hreserved
  | reserved => exact (h.withReservation _ _).congr rfl rfl fun _ hreserved => hreserved
  | aborted => exact h.withReservation _ _
  | recorded hcheck hnew hnone hbudget =>
    refine h.withEvidence rfl rfl (fun _ hreserved => hreserved) ?_
    intro entry hentry hkey
    have hreserved := h.reserved entry hentry
    rw [hkey, hnone] at hreserved
    cases hreserved
  | recordedReserved hcheck hnew hreservation hreserved =>
    refine h.withEvidence rfl rfl (fun _ hother => isSome_set _ _ hother) ?_
    apply hclean
    refine ⟨hcheck, hnew, ?_⟩
    dsimp only
    rw [hreservation]
    exact hreserved
  | quarantined hcheck hentry =>
    subst hentry
    exact (h.withoutEvidence rfl).congr rfl rfl fun _ hreserved => hreserved
  | quarantineTorn hcheck hentry =>
    subst hentry
    exact h.withoutEvidence rfl
  | charged => exact h.congr rfl rfl fun _ hreserved => hreserved
  | reservedAuxiliary => exact h.congr rfl rfl fun _ hreserved => hreserved
  | movedAuxiliary => exact h.congr rfl rfl fun _ hreserved => hreserved
  | cloud => exact h.congr rfl rfl fun _ hreserved => hreserved
  | decided => exact h.congr rfl rfl fun _ hreserved => hreserved

theorem mem_quarantine_of_returned {generation : Int}
    {stage taskUid arm evidence reasonCode incident : String} {entry : QuarantineEntry}
    (h : (state.quarantineCompletedArmEvidence generation stage taskUid arm evidence reasonCode
      incident).answer = .ok entry) :
    (⟨generation, stage, taskUid, arm, evidence, reasonCode, incident⟩ : QuarantineEntry) ∈
      (state.quarantineCompletedArmEvidence generation stage taskUid arm evidence reasonCode
        incident).state.quarantine := by
  revert h
  have hrefused : ∀ (left : ControllerState) (error : ControllerError) {P : Prop},
      (refused left error : ControllerOutcome QuarantineEntry).answer = .ok entry → P := by
    intro left error P hanswer
    cases hanswer
  unfold quarantineCompletedArmEvidence
  refine checked_rule (P := fun outcome => outcome.answer = .ok entry →
    _ ∈ outcome.state.quarantine) (fun error => hrefused state error) ?_
  intro _ _
  dsimp only
  split
  · next hmem => exact fun _ => hmem
  · split
    · exact hrefused _ _
    · split
      · exact hrefused _ _
      · split
        · exact hrefused _ _
        · intro _
          exact List.mem_append_right _ (List.mem_singleton.mpr rfl)

theorem KeptOut.staysOut (h : state.KeptOut) : state.QuarantinedStaysOut where
  returned := by
    intro generation stage taskUid arm evidence reasonCode incident entry hanswer
    have hclean : Controller.RecordsClean ⟨state, state⟩ (.call (.quarantineCompletedArmEvidence
        generation stage taskUid arm evidence reasonCode incident)) := trivial
    have hmove := h.move hclean (state.quarantineCompletedArmEvidence_moves generation stage taskUid
      arm evidence reasonCode incident)
    exact hmove.never _ (mem_quarantine_of_returned hanswer)
  never := h.never

theorem recordArmEvidence_of_new {generation : Int} {stage taskUid arm evidence : String}
    {realCodexCalls : Int}
    (h : state.RecordsNew generation stage taskUid arm evidence realCodexCalls) :
    (state.recordArmEvidence generation stage taskUid arm evidence realCodexCalls).state.Active
        (armKey generation stage taskUid arm) evidence ∧
      (state.recordArmEvidence generation stage taskUid arm evidence
        realCodexCalls).state.quarantine = state.quarantine := by
  obtain ⟨hcheck, hnew, haccepted⟩ := h
  have hactive : ∀ next : ControllerState,
      next.armEvidence = state.armEvidence.set (armKey generation stage taskUid arm)
        (state.evidence generation stage taskUid arm evidence realCodexCalls) →
      next.Active (armKey generation stage taskUid arm) evidence := by
    intro next hnext
    refine ⟨state.evidence generation stage taskUid arm evidence realCodexCalls, ?_, rfl⟩
    rw [hnext, Dict.get?_set_self]
  rw [recordArmEvidence, hcheck]
  simp only [checked, hnew]
  cases hreservation : state.callReservations.get? (armKey generation stage taskUid arm) with
  | none =>
    rw [hreservation] at haccepted
    dsimp only at haccepted ⊢
    rw [haccepted]
    exact ⟨hactive _ rfl, rfl⟩
  | some reservation =>
    rw [hreservation] at haccepted
    dsimp only at haccepted ⊢
    rw [haccepted]
    exact ⟨hactive _ rfl, rfl⟩

theorem keptOut_initialized {plan : EvolutionPlan} {authorization : EvolutionAuthorization}
    {original seed epoch : String}
    (h : initializeController plan authorization original seed epoch = .ok state) :
    state.KeptOut := by
  simp only [initializeController, except_bind_ok_iff] at h
  obtain ⟨-, -, -, -, hstate⟩ := h
  cases hstate
  constructor
  · intro entry hentry
    cases hentry
  · intro entry hentry
    cases hentry

/-- Quarantined evidence stays out all along a run exactly when no call records
a digest anew that is quarantined for the arm. -/
theorem quarantined_staysOut_iff {plan : EvolutionPlan} {authorization : EvolutionAuthorization}
    {original seed epoch : String}
    (h : initializeController plan authorization original seed epoch = .ok state)
    (steps : List ControllerStep) :
    Along (fun controller => controller.memory.QuarantinedStaysOut) Controller.after
        ⟨state, state⟩ steps ↔
      Guarded Controller.RecordsClean Controller.after ⟨state, state⟩ steps := by
  have hstart := keptOut_initialized h
  apply along_iff_guarded (I := Controller.Both KeptOut) _ _ _ _ _ ⟨hstart, hstart⟩
  · intro controller hkept
    exact hkept.1.staysOut
  · intro controller step hkept hclean
    exact hkept.after fun made hstep => by
      subst hstep
      exact hkept.1.move hclean (controller.memory.perform_moves made)
  · intro controller step hkept hstays
    cases step with
    | load => trivial
    | call made =>
        cases made with
        | recordArmEvidence generation stage taskUid arm evidence realCodexCalls =>
            intro hnew entry hentry hkey hdigest
            obtain ⟨hactive, hquarantine⟩ := recordArmEvidence_of_new hnew
            apply hstays.never entry
            · change entry ∈ (controller.memory.recordArmEvidence generation stage taskUid arm
                evidence realCodexCalls).state.quarantine
              rw [hquarantine]
              exact hentry
            · rw [hkey, hdigest]
              exact hactive
        | _ => trivial

section Again

variable {generation : Int} {stage taskUid arm evidence reasonCode incident : String}

/-- Quarantined evidence is recorded again, and the same quarantine call returns
and leaves it active. -/
theorem recorded_again {reservation : CallReservation} {entry : QuarantineEntry}
    (hquarantine : state.checkQuarantine generation stage arm evidence reasonCode incident = .ok ())
    (hentry : entry = ⟨generation, stage, taskUid, arm, evidence, reasonCode, incident⟩)
    (hnew : entry ∉ state.quarantine)
    (hreservation :
      state.callReservations.get? (armKey generation stage taskUid arm) = some reservation)
    (hactive : state.Quarantinable (armKey generation stage taskUid arm) evidence reservation)
    (husage : 1 ≤ state.usage.agentTaskCalls)
    (hevidence : state.checkEvidence generation stage taskUid arm evidence 1 = .ok ()) :
    ∃ next, next = ((state.quarantineCompletedArmEvidence generation stage taskUid arm evidence
        reasonCode incident).state.recordArmEvidence generation stage taskUid arm evidence 1).state ∧
      entry ∈ next.quarantine ∧ next.Active entry.key entry.evidenceSha256 := by
  refine ⟨_, rfl, ?_⟩
  rw [quarantineCompletedArmEvidence_active hquarantine hentry hnew hreservation hactive husage]
  set removed : ControllerState :=
    { state.withoutEvidence (armKey generation stage taskUid arm) reservation entry with
      usage := state.charged 0 (-1) 0 } with hremoved
  have hgone : removed.armEvidence.get? (armKey generation stage taskUid arm) = none := by
    change (state.armEvidence.erase _).get? _ = none
    rw [Dict.get?_erase, if_pos rfl]
  have hreserved : removed.callReservations.get? (armKey generation stage taskUid arm) =
      some (reservation.quarantinedWith entry) := Dict.get?_set_self _ _ _
  have haccepted : checkReserved (reservation.quarantinedWith entry) evidence 1 = .ok () := by
    simp [checkReserved, CallReservation.quarantinedWith, require, bind, Except.bind]
  have hcheck : removed.checkEvidence generation stage taskUid arm evidence 1 = .ok () := hevidence
  rw [persisted'_state, recordArmEvidence_reserved hcheck hgone hreserved haccepted]
  constructor
  · change entry ∈ state.quarantine ++ [entry]
    simp
  · refine ⟨removed.evidence generation stage taskUid arm evidence 1, ?_, ?_⟩
    · change (removed.armEvidence.set _ _).get? entry.key = _
      rw [hentry]
      exact Dict.get?_set_self _ _ _
    · rw [hentry]
      rfl

end Again

def nativeEvidence : String := "3333333333333333333333333333333333333333333333333333333333333333"

def outageReport : String := "4444444444444444444444444444444444444444444444444444444444444444"

/-- Evidence for the first task is recorded, quarantined and recorded again. -/
def quarantinedOnce : List ControllerCall :=
  let task := EvolutionPlan.numberedTask 0
  [.claimStage 0 "observe" [],
    .reserveArmCall 0 "observe" task originalDigest,
    .recordArmEvidence 0 "observe" task originalDigest nativeEvidence 1,
    .quarantineCompletedArmEvidence 0 "observe" task originalDigest nativeEvidence
      "evaluator-outage" outageReport,
    .recordArmEvidence 0 "observe" task originalDigest nativeEvidence 1]

section Observing

variable (tasks : Dict String TaskState)

theorem checkArm_observing (unclaimed outside : String) :
    (observing tasks).checkArm 0 "observe" (EvolutionPlan.numberedTask 0) originalDigest unclaimed
      outside = .ok () := by
  have htask : EvolutionPlan.numberedTask 0 ∈ observeClaim.taskUids := List.mem_cons_self
  have harm : originalDigest ∈ observeClaim.armSha256s := List.mem_cons_self
  exact checkArm_of_claimed _ _ (Dict.get?_set_self _ _ _) rfl htask harm

theorem checkReserve_observing :
    (observing tasks).checkReserve 0 "observe" (EvolutionPlan.numberedTask 0) originalDigest =
      .ok () := by
  have hdigest : validateSha originalDigest "arm" = .ok () := by
    rw [validateSha, require_ok_iff]
    decide
  rw [checkReserve, hdigest]
  exact checkArm_observing tasks _ _

theorem checkEvidence_observing :
    (observing tasks).checkEvidence 0 "observe" (EvolutionPlan.numberedTask 0) originalDigest
      nativeEvidence 1 = .ok () := by
  have hdigest : validateSha originalDigest "arm" = .ok () := by
    rw [validateSha, require_ok_iff]
    decide
  have hevidence : validateSha nativeEvidence "native evidence" = .ok () := by
    rw [validateSha, require_ok_iff]
    decide
  rw [checkEvidence, hdigest, hevidence]
  exact checkArm_observing tasks _ _

theorem checkQuarantine_observing :
    (observing tasks).checkQuarantine 0 "observe" originalDigest nativeEvidence "evaluator-outage"
      outageReport = .ok () := by
  have hdigest : validateSha originalDigest "arm" = .ok () := by
    rw [validateSha, require_ok_iff]
    decide
  have hevidence : validateSha nativeEvidence "quarantined evidence" = .ok () := by
    rw [validateSha, require_ok_iff]
    decide
  have hincident : validateSha outageReport "quarantine incident" = .ok () := by
    rw [validateSha, require_ok_iff]
    decide
  have hreason : isReasonCode "evaluator-outage" = true := by decide
  have hclaim : (observing tasks).claims.get? (claimKey 0 "observe") = some observeClaim :=
    Dict.get?_set_self _ _ _
  rw [checkQuarantine, hdigest, hevidence, hincident, hclaim, require, if_pos hreason]
  rfl

theorem budget_observing : (observing tasks).checkCallBudget 1 = .ok () := by
  rw [checkCallBudget_ok_iff]
  change (0 : Int) + 1 ≤ 366
  omega

def firstArm : String := armKey 0 "observe" (EvolutionPlan.numberedTask 0) originalDigest

def firstReservation : CallReservation :=
  .first 0 "observe" (EvolutionPlan.numberedTask 0) originalDigest

def reservedFirst : ControllerState :=
  { (observing tasks).withReservation firstArm firstReservation with
    usage := (observing tasks).charged 1 0 0 }

def recordedFirst : ControllerState :=
  { (reservedFirst tasks).withReservation firstArm
      (firstReservation.completedWith nativeEvidence) with
    armEvidence := (reservedFirst tasks).armEvidence.set firstArm
      ((reservedFirst tasks).evidence 0 "observe" (EvolutionPlan.numberedTask 0) originalDigest
        nativeEvidence 1)
    usage := (reservedFirst tasks).charged 0 1 0 }

theorem reserve_observing :
    ((observing tasks).reserveArmCall 0 "observe" (EvolutionPlan.numberedTask 0)
      originalDigest).state = reservedFirst tasks := by
  rw [reserveArmCall_first (checkReserve_observing tasks) rfl (budget_observing tasks)]
  rfl

theorem record_reservedFirst :
    ((reservedFirst tasks).recordArmEvidence 0 "observe" (EvolutionPlan.numberedTask 0)
      originalDigest nativeEvidence 1).state = recordedFirst tasks := by
  have hcheck : (reservedFirst tasks).checkEvidence 0 "observe" (EvolutionPlan.numberedTask 0)
      originalDigest nativeEvidence 1 = .ok () := checkEvidence_observing tasks
  have hnew : (reservedFirst tasks).armEvidence.get? firstArm = none := rfl
  have hreservation :
      (reservedFirst tasks).callReservations.get? firstArm = some firstReservation :=
    Dict.get?_set_self _ _ _
  have haccepted : checkReserved firstReservation nativeEvidence 1 = .ok () := rfl
  rw [recordArmEvidence_reserved hcheck hnew hreservation haccepted]
  rfl

end Observing

/-- After its quarantine the evidence of the first task is active again. -/
theorem recorded_again_active :
    ¬Along (fun controller => controller.memory.QuarantinedStaysOut) Controller.after
      ⟨resumedState, resumedState⟩ (quarantinedOnce.map .call) := by
  intro halong
  have hout := ((along_iff_prefixes _ _ _ _).mp halong _ List.prefix_rfl).never
  rw [Controller.memory_run_calls] at hout
  obtain ⟨tasks, hclaim⟩ := claimStage_resumed
  have hreservation : (recordedFirst tasks).callReservations.get? firstArm =
      some (firstReservation.completedWith nativeEvidence) := Dict.get?_set_self _ _ _
  have hactive : (recordedFirst tasks).Quarantinable firstArm nativeEvidence
      (firstReservation.completedWith nativeEvidence) :=
    ⟨⟨_, Dict.get?_set_self _ _ _, rfl⟩, rfl, rfl⟩
  have husage : 1 ≤ (recordedFirst tasks).usage.agentTaskCalls := by
    change (1 : Int) ≤ 0 + 0 + 1
    omega
  have hquarantine : (recordedFirst tasks).checkQuarantine 0 "observe" originalDigest
      nativeEvidence "evaluator-outage" outageReport = .ok () := checkQuarantine_observing tasks
  obtain ⟨next, hnext, hmem, hagain⟩ := recorded_again hquarantine rfl List.not_mem_nil
    hreservation hactive husage (checkEvidence_observing tasks)
  have hrun : run (fun state call => (state.perform call).state) resumedState quarantinedOnce =
      next := by
    simp only [quarantinedOnce, run_cons, run_nil, perform, silent_state, hclaim,
      reserve_observing, record_reservedFirst]
    exact hnext.symm
  change ∀ entry ∈ (run _ resumedState _).quarantine, _ at hout
  rw [hrun] at hout
  exact hout _ hmem hagain

theorem quarantined_staysOut_claiming :
    Along (fun controller => controller.memory.QuarantinedStaysOut) Controller.after
        ⟨resumedState, resumedState⟩ [.call (.claimStage 0 "observe" []), .load] ↔
      Guarded Controller.RecordsClean Controller.after ⟨resumedState, resumedState⟩
        [.call (.claimStage 0 "observe" []), .load] :=
  quarantined_staysOut_iff initialize_resumedState _

end ControllerState

end JlensEvolve.Evolution
