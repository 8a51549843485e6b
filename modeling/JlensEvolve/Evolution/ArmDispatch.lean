import JlensEvolve.Evolution.Quarantine
import JlensEvolve.Library.Separation

/-!
When `reserve_arm_call` allows a dispatch. The permission depends on the
reservation of the arm alone, and `record_arm_evidence` makes no reservation
where there is none, so that an arm whose evidence came without a reservation
may be dispatched once more.
-/

namespace JlensEvolve.Evolution

open Library ControllerOutcome ControllerState

/-- What the answers of the calls say about an arm. -/
inductive ArmEvent where
  /-- `dispatch_allowed` was answered, with or without evidence on record. -/
  | dispatched (key : String) (recorded : Bool)
  /-- An audited abort or invalidation. -/
  | aborted (key : String)
deriving DecidableEq

def ArmEvent.Dispatches (key : String) : ArmEvent → Prop
  | .dispatched other _ => other = key
  | .aborted _ => False

def ArmEvent.Aborts (key : String) : ArmEvent → Prop
  | .dispatched _ _ => False
  | .aborted other => other = key

/-- `dispatch_allowed` of the answer. -/
def ControllerOutcome.dispatchAllowed (outcome : ControllerOutcome (CallReservation × Bool)) :
    Bool :=
  match outcome.answer with
  | .ok (_, allowed) => allowed
  | .error _ => false

/-- The events of a call; an abort that is only confirmed is no new one. -/
def ControllerState.armEvents (state : ControllerState) (call : ControllerCall) : List ArmEvent :=
  match call, call.abortedArm with
  | .reserveArmCall generation stage taskUid arm, _ =>
    if (state.reserveArmCall generation stage taskUid arm).dispatchAllowed then
      [.dispatched (armKey generation stage taskUid arm)
        (state.armEvidence.get? (armKey generation stage taskUid arm)).isSome]
    else []
  | _, some (_, key) => if (state.perform call).persisted then [.aborted key] else []
  | _, none => []

def ControllerStep.armEvents (controller : Controller) : ControllerStep → List ArmEvent
  | .call made => controller.memory.armEvents made
  | .load => []

structure WatchedController where
  controller : Controller
  history : List ArmEvent

def WatchedController.after (watched : WatchedController) (step : ControllerStep) :
    WatchedController :=
  ⟨watched.controller.after step, watched.history ++ step.armEvents watched.controller⟩

/-- An arm is dispatched at most once between two aborts, and never with
evidence on record. -/
structure Disciplined (history : List ArmEvent) : Prop where
  once : ∀ key, Separated (ArmEvent.Dispatches key) (ArmEvent.Aborts key) history
  unrecorded : ∀ key, ArmEvent.dispatched key true ∉ history

/-- Where a call reserves an arm for the first time, the arm has no evidence. -/
def WatchedController.ReservesUnrecorded (watched : WatchedController) : ControllerStep → Prop
  | .call (.reserveArmCall generation stage taskUid arm) =>
    let state := watched.controller.memory
    let key := armKey generation stage taskUid arm
    state.checkReserve generation stage taskUid arm = .ok () →
      state.callReservations.get? key = none → state.checkCallBudget 1 = .ok () →
        state.armEvidence.get? key = none
  | _ => True

namespace ControllerState

variable {state : ControllerState}

def acceptedEvents (state : ControllerState) (call : ControllerCall) : List ArmEvent :=
  match call, call.abortedArm with
  | .reserveArmCall generation stage taskUid arm, _ =>
    [.dispatched (armKey generation stage taskUid arm)
      (state.armEvidence.get? (armKey generation stage taskUid arm)).isSome]
  | _, some (_, key) => [.aborted key]
  | _, none => []

theorem dispatchAllowed_reserveArmCall (generation : Int) (stage taskUid arm : String) :
    (state.reserveArmCall generation stage taskUid arm).dispatchAllowed =
      (state.reserveArmCall generation stage taskUid arm).persisted := by
  unfold reserveArmCall
  refine checked_rule (P := fun outcome => outcome.dispatchAllowed = outcome.persisted)
    (fun _ => rfl) ?_
  intro _ _
  dsimp only
  split
  · split
    · exact checked_rule (P := fun outcome => outcome.dispatchAllowed = outcome.persisted)
        (fun _ => rfl) (fun _ _ => rfl)
    · rfl
  · exact checked_rule (P := fun outcome => outcome.dispatchAllowed = outcome.persisted)
      (fun _ => rfl) (fun _ _ => rfl)

theorem armEvents_eq (call : ControllerCall) :
    state.armEvents call =
      if (state.perform call).persisted then state.acceptedEvents call else [] := by
  cases call with
  | reserveArmCall generation stage taskUid arm =>
    change (if _ then _ else _) = if _ then _ else _
    rw [dispatchAllowed_reserveArmCall]
    rfl
  | abortArmCallPreDispatch => rfl
  | invalidateArmCallInfrastructure => rfl
  | abortArmCallWithoutServiceDispatch => rfl
  | _ => simp [armEvents, acceptedEvents, ControllerCall.abortedArm]

theorem acceptedEvents_of_aborted (state : ControllerState) {call : ControllerCall}
    {kind : AbortKind} {key : String} (h : call.abortedArm = some (kind, key)) :
    state.acceptedEvents call = [.aborted key] := by
  unfold ControllerCall.abortedArm at h
  split at h <;> cases h <;> rfl

/-- The reservations and the evidence against what was told before. -/
structure Dispatching (history : List ArmEvent) (state : ControllerState) : Prop where
  opened : ∀ key, (∀ reservation, state.callReservations.get? key = some reservation →
    isAborted reservation.status = true) →
      Open (ArmEvent.Dispatches key) (ArmEvent.Aborts key) history
  completed : ∀ key, (state.armEvidence.get? key).isSome →
    ∀ reservation, state.callReservations.get? key = some reservation →
      reservation.status = .completed

variable {history more : List ArmEvent} {next : ControllerState}

theorem Dispatching.congr (h : Dispatching history state) (hmore : more = [])
    (hevidence : next.armEvidence = state.armEvidence)
    (hreservations : next.callReservations = state.callReservations) :
    Dispatching (history ++ more) next := by
  rw [hmore, List.append_nil]
  constructor
  · rw [hreservations]
    exact h.opened
  · rw [hevidence, hreservations]
    exact h.completed

theorem Dispatching.written (h : Dispatching history state) {key : String} {value : CallReservation}
    (hreservations : next.callReservations = state.callReservations.set key value)
    (hother : ∀ other, other ≠ key →
      (next.armEvidence.get? other).isSome → (state.armEvidence.get? other).isSome)
    (hmore : ∀ other, other ≠ key →
      Open (ArmEvent.Dispatches other) (ArmEvent.Aborts other) history →
        Open (ArmEvent.Dispatches other) (ArmEvent.Aborts other) (history ++ more))
    (hopened : isAborted value.status = true →
      Open (ArmEvent.Dispatches key) (ArmEvent.Aborts key) (history ++ more))
    (hcompleted : (next.armEvidence.get? key).isSome → value.status = .completed) :
    Dispatching (history ++ more) next := by
  constructor
  · intro other haborted
    rw [hreservations] at haborted
    by_cases heq : other = key
    · subst heq
      exact hopened (haborted value (Dict.get?_set_self _ _ _))
    · apply hmore other heq
      apply h.opened other
      intro reservation hreservation
      apply haborted reservation
      rw [Dict.get?_set_of_ne _ _ heq]
      exact hreservation
  · intro other hevidence reservation hreservation
    rw [hreservations] at hreservation
    by_cases heq : other = key
    · subst heq
      rw [Dict.get?_set_self] at hreservation
      cases hreservation
      exact hcompleted hevidence
    · rw [Dict.get?_set_of_ne _ _ heq] at hreservation
      exact h.completed other (hother other heq hevidence) reservation hreservation

theorem acceptedEvents_of_movesAuxiliary {call : ControllerCall}
    (h : call.movesAuxiliary = true) : state.acceptedEvents call = [] := by
  cases call <;> first | rfl | cases h

theorem open_dispatched_of_ne {key other : String} {recorded : Bool} (hne : other ≠ key)
    (h : Open (ArmEvent.Dispatches other) (ArmEvent.Aborts other) history) :
    Open (ArmEvent.Dispatches other) (ArmEvent.Aborts other)
      (history ++ [.dispatched key recorded]) :=
  h.concat fun heq => hne heq.symm

theorem open_aborted {key other : String}
    (h : Open (ArmEvent.Dispatches other) (ArmEvent.Aborts other) history) :
    Open (ArmEvent.Dispatches other) (ArmEvent.Aborts other) (history ++ [.aborted key]) :=
  h.concat fun hdispatched => hdispatched

theorem Dispatching.reservable (h : Dispatching history state) {generation : Int}
    {stage taskUid arm : String} {value : CallReservation}
    (hvalue : state.Reservable generation stage taskUid arm value)
    (hclean : state.callReservations.get? (armKey generation stage taskUid arm) = none →
      state.armEvidence.get? (armKey generation stage taskUid arm) = none) :
    Open (ArmEvent.Dispatches (armKey generation stage taskUid arm))
        (ArmEvent.Aborts (armKey generation stage taskUid arm)) history ∧
      state.armEvidence.get? (armKey generation stage taskUid arm) = none ∧
      value.status = .reserved := by
  rcases hvalue with ⟨hnone, rfl⟩ | ⟨existing, hexisting, haborted, rfl⟩
  · refine ⟨h.opened _ ?_, hclean hnone, rfl⟩
    intro reservation hreservation
    rw [hnone] at hreservation
    cases hreservation
  · refine ⟨h.opened _ ?_, ?_, rfl⟩
    · intro reservation hreservation
      rw [hexisting] at hreservation
      cases hreservation
      exact haborted
    · cases hevidence : state.armEvidence.get? (armKey generation stage taskUid arm) with
      | none => rfl
      | some found =>
        have hcompleted := h.completed _ (by rw [hevidence]; rfl) existing hexisting
        rw [hcompleted] at haborted
        cases haborted

theorem Dispatching.withoutEvidence (h : Dispatching history state) (hmore : more = [])
    {key : String} (reservation : CallReservation) (entry : QuarantineEntry)
    (hevidence : next.armEvidence = state.armEvidence.erase key)
    (hreservations : next.callReservations =
      state.callReservations.set key (reservation.quarantinedWith entry)) :
    Dispatching (history ++ more) next := by
  rw [hmore]
  refine h.written hreservations ?_ ?_ ?_ ?_
  · intro other hne hother
    rw [hevidence, Dict.get?_erase, if_neg hne] at hother
    exact hother
  · intro other _ hother
    rw [List.append_nil]
    exact hother
  · intro haborted
    cases haborted
  · intro hother
    rw [hevidence, Dict.get?_erase, if_pos rfl] at hother
    cases hother

theorem Dispatching.move (h : Dispatching history state) {stored : ControllerState}
    {call : ControllerCall} {persisted : Bool}
    (hclean : WatchedController.ReservesUnrecorded ⟨⟨state, stored⟩, history⟩ (.call call))
    (hmove : ControllerMove state call next persisted) :
    Dispatching (history ++ if persisted then state.acceptedEvents call else []) next := by
  cases hmove with
  | quiet => exact h.congr rfl rfl rfl
  | looked => exact h.congr rfl rfl rfl
  | claimed => exact h.congr rfl rfl rfl
  | claimTorn => exact h.congr rfl rfl rfl
  | completed => exact h.congr rfl rfl rfl
  | completeTorn => exact h.congr rfl rfl rfl
  | reserved hcheck hbudget hvalue =>
    obtain ⟨hopen, hnone, hstatus⟩ := h.reservable hvalue fun hnone => hclean hcheck hnone hbudget
    refine h.written rfl (fun _ _ hevidence => hevidence)
      (fun _ hne hother => open_dispatched_of_ne hne hother) ?_ ?_
    · intro haborted
      rw [hstatus] at haborted
      cases haborted
    · intro hevidence
      change (state.armEvidence.get? _).isSome = true at hevidence
      rw [hnone] at hevidence
      cases hevidence
  | @aborted call kind key reservation abort hcall hreservation hreserved =>
    rw [if_pos rfl, acceptedEvents_of_aborted state hcall]
    refine h.written rfl (fun _ _ hevidence => hevidence) (fun _ _ hother => open_aborted hother)
      ?_ ?_
    · intro _
      exact open_concat_gap id rfl
    · intro hevidence
      have hcompleted := h.completed key hevidence reservation hreservation
      rw [hreserved] at hcompleted
      cases hcompleted
  | @recorded generation stage taskUid arm evidence real hcheck hnew hnone hbudget =>
    constructor
    · simpa [acceptedEvents, ControllerCall.abortedArm] using h.opened
    · intro other hevidence reservation hreservation
      by_cases heq : other = armKey generation stage taskUid arm
      · subst heq
        change state.callReservations.get? _ = _ at hreservation
        rw [hnone] at hreservation
        cases hreservation
      · change ((state.armEvidence.set _ _).get? other).isSome = true at hevidence
        rw [Dict.get?_set_of_ne _ _ heq] at hevidence
        exact h.completed other hevidence reservation hreservation
  | @recordedReserved generation stage taskUid arm evidence real reservation hcheck hnew =>
    refine h.written rfl ?_ ?_ ?_ (fun _ => rfl)
    · intro other hne hevidence
      change ((state.armEvidence.set _ _).get? other).isSome = true at hevidence
      rw [Dict.get?_set_of_ne _ _ hne] at hevidence
      exact hevidence
    · intro other _ hother
      simpa [acceptedEvents, ControllerCall.abortedArm] using hother
    · intro haborted
      cases haborted
  | @quarantined _ _ _ _ _ _ _ reservation entry =>
    exact h.withoutEvidence rfl reservation entry rfl rfl
  | @quarantineTorn _ _ _ _ _ _ _ reservation entry =>
    exact h.withoutEvidence rfl reservation entry rfl rfl
  | charged => exact h.congr rfl rfl rfl
  | reservedAuxiliary => exact h.congr rfl rfl rfl
  | movedAuxiliary hcall => exact h.congr (acceptedEvents_of_movesAuxiliary hcall) rfl rfl
  | cloud => exact h.congr rfl rfl rfl
  | decided => exact h.congr rfl rfl rfl

end ControllerState

section Discipline

variable {state next : ControllerState} {history more : List ArmEvent}

theorem Disciplined.silent (h : Disciplined history) (hmore : more = []) :
    Disciplined (history ++ more) := by
  rw [hmore, List.append_nil]
  exact h

theorem Disciplined.told (h : Disciplined history) {event : ArmEvent}
    (honce : ∀ key, event.Dispatches key → Open (ArmEvent.Dispatches key) (ArmEvent.Aborts key)
      history) (hunrecorded : ∀ key, event ≠ .dispatched key true) :
    Disciplined (history ++ [event]) := by
  constructor
  · intro key
    exact separated_concat_iff.mpr ⟨h.once key, honce key⟩
  · intro key hmem
    rcases List.mem_append.mp hmem with hold | hlast
    · exact h.unrecorded key hold
    · exact hunrecorded key (List.mem_singleton.mp hlast).symm

theorem Disciplined.move (h : Disciplined history) (hdispatching : Dispatching history state)
    {stored : ControllerState} {call : ControllerCall} {persisted : Bool}
    (hclean : WatchedController.ReservesUnrecorded ⟨⟨state, stored⟩, history⟩ (.call call))
    (hmove : ControllerMove state call next persisted) :
    Disciplined (history ++ if persisted then state.acceptedEvents call else []) := by
  cases hmove with
  | reserved hcheck hbudget hvalue =>
    obtain ⟨hopen, hnone, -⟩ := hdispatching.reservable hvalue fun hnone =>
      hclean hcheck hnone hbudget
    apply h.told
    · intro key hkey
      cases hkey
      exact hopen
    · intro key hevent
      rw [hnone] at hevent
      cases hevent
  | aborted hcall =>
    rw [if_pos rfl, acceptedEvents_of_aborted state hcall]
    apply h.told
    · intro key hkey
      cases hkey
    · intro key hevent
      cases hevent
  | movedAuxiliary hcall => exact h.silent (acceptedEvents_of_movesAuxiliary hcall)
  | _ => exact h.silent rfl

end Discipline

namespace WatchedController

variable {watched : WatchedController} {step : ControllerStep}

structure Kept (watched : WatchedController) : Prop where
  disciplined : Disciplined watched.history
  dispatching : watched.controller.Both (Dispatching watched.history)

theorem Kept.after (h : watched.Kept) (hclean : watched.ReservesUnrecorded step) :
    (watched.after step).Kept := by
  obtain ⟨hdisciplined, hmemory, hstored⟩ := h
  cases step with
  | load =>
    have hhistory : (watched.after .load).history = watched.history := List.append_nil _
    refine ⟨?_, ?_⟩
    · rw [hhistory]
      exact hdisciplined
    · rw [hhistory]
      exact ⟨hstored, hstored⟩
  | call made =>
    have hmove := watched.controller.memory.perform_moves made
    have hhistory : (watched.after (.call made)).history =
        watched.history ++ if (watched.controller.memory.perform made).persisted then
          watched.controller.memory.acceptedEvents made else [] := by
      change _ ++ watched.controller.memory.armEvents made = _
      rw [armEvents_eq]
    have hnext := hmemory.move hclean hmove
    refine ⟨?_, ?_⟩
    · rw [hhistory]
      exact hdisciplined.move hmemory hclean hmove
    · rw [hhistory]
      refine ⟨hnext, ?_⟩
      change Dispatching _ (if _ then _ else _)
      cases hpersisted : (watched.controller.memory.perform made).persisted with
      | true =>
        rw [hpersisted] at hnext
        exact hnext
      | false => simpa using hstored

theorem reservesUnrecorded_of_disciplined
    (h : Disciplined (watched.after step).history) : watched.ReservesUnrecorded step := by
  cases step with
  | load => trivial
  | call made =>
    cases made with
    | reserveArmCall generation stage taskUid arm =>
      intro hcheck hnone hbudget
      by_contra hevidence
      set state := watched.controller.memory
      set key := armKey generation stage taskUid arm
      apply h.unrecorded key
      have hreserve := reserveArmCall_first hcheck hnone hbudget
      have hrecorded : (state.armEvidence.get? key).isSome = true := by
        rw [Option.isSome_iff_ne_none]
        exact hevidence
      have htold : state.armEvents (.reserveArmCall generation stage taskUid arm) =
          [.dispatched key true] := by
        change (if _ then _ else _) = _
        rw [hreserve, hrecorded]
        rfl
      change _ ∈ watched.history ++
        state.armEvents (.reserveArmCall generation stage taskUid arm)
      rw [htold]
      simp
    | _ => trivial

theorem kept_initialized {state : ControllerState} {plan : EvolutionPlan}
    {authorization : EvolutionAuthorization} {original seed epoch : String}
    (h : initializeController plan authorization original seed epoch = .ok state) :
    Kept ⟨⟨state, state⟩, []⟩ := by
  simp only [initializeController, except_bind_ok_iff] at h
  obtain ⟨-, -, -, -, hstate⟩ := h
  cases hstate
  have hdispatching : Dispatching [] (initialState plan authorization original seed epoch) := by
    constructor
    · intro key _
      exact open_nil
    · intro key hevidence
      cases hevidence
  refine ⟨⟨fun key => separated_nil, ?_⟩, hdispatching, hdispatching⟩
  intro key hmem
  cases hmem

/-- Arms are dispatched with discipline all along a run exactly when no call
reserves an arm for the first time that has evidence already. -/
theorem disciplined_iff {state : ControllerState} {plan : EvolutionPlan}
    {authorization : EvolutionAuthorization} {original seed epoch : String}
    (h : initializeController plan authorization original seed epoch = .ok state)
    (steps : List ControllerStep) :
    Along (fun watched => Disciplined watched.history) WatchedController.after
        ⟨⟨state, state⟩, []⟩ steps ↔
      Guarded ReservesUnrecorded WatchedController.after ⟨⟨state, state⟩, []⟩ steps := by
  apply along_iff_guarded (I := Kept) _ _ _ _ _ (kept_initialized h)
  · intro watched hkept
    exact hkept.disciplined
  · intro watched step hkept hclean
    exact hkept.after hclean
  · intro watched step _ hdisciplined
    exact reservesUnrecorded_of_disciplined hdisciplined

/-- The first stage with evidence for its first task that came without a
reservation. -/
def recordedAtOnce (tasks : Dict String TaskState) : ControllerState :=
  { observing tasks with
    armEvidence := (observing tasks).armEvidence.set firstArm
      ((observing tasks).evidence 0 "observe" (EvolutionPlan.numberedTask 0) originalDigest
        nativeEvidence 1)
    usage := (observing tasks).charged 1 1 0 }

theorem record_observing (tasks : Dict String TaskState) :
    ((observing tasks).recordArmEvidence 0 "observe" (EvolutionPlan.numberedTask 0) originalDigest
      nativeEvidence 1).state = recordedAtOnce tasks := by
  rw [recordArmEvidence_unreserved (checkEvidence_observing tasks) rfl rfl (budget_observing tasks)]
  rfl

/-- Evidence for the first task is recorded without a reservation, and then the
arm is reserved. -/
def recordedUnreserved : List ControllerStep :=
  [.call (.claimStage 0 "observe" []),
    .call (.recordArmEvidence 0 "observe" (EvolutionPlan.numberedTask 0) originalDigest
      nativeEvidence 1),
    .call (.reserveArmCall 0 "observe" (EvolutionPlan.numberedTask 0) originalDigest)]

theorem dispatched_with_evidence :
    ¬Along (fun watched => Disciplined watched.history) after
      ⟨⟨resumedState, resumedState⟩, []⟩ recordedUnreserved := by
  intro halong
  have hdisciplined := (along_iff_prefixes _ _ _ _).mp halong _ List.prefix_rfl
  obtain ⟨tasks, hclaim⟩ := claimStage_resumed
  set watched : WatchedController := run after ⟨⟨resumedState, resumedState⟩, []⟩
    (recordedUnreserved.take 2) with hwatched
  have hguard : watched.ReservesUnrecorded
      (.call (.reserveArmCall 0 "observe" (EvolutionPlan.numberedTask 0) originalDigest)) :=
    reservesUnrecorded_of_disciplined hdisciplined
  have hmemory : watched.controller.memory = recordedAtOnce tasks := by
    change ((resumedState.claimStage 0 "observe" []).state.recordArmEvidence 0 "observe"
      (EvolutionPlan.numberedTask 0) originalDigest nativeEvidence 1).state = _
    rw [hclaim]
    exact record_observing tasks
  have hbudget : (recordedAtOnce tasks).checkCallBudget 1 = .ok () := by
    rw [checkCallBudget_ok_iff]
    change (0 : Int) + 1 + 1 ≤ 366
    omega
  unfold ReservesUnrecorded at hguard
  rw [hmemory] at hguard
  have hnone := hguard (checkReserve_observing tasks) rfl hbudget
  have hsome : (recordedAtOnce tasks).armEvidence.get? firstArm = some _ := Dict.get?_set_self _ _ _
  rw [firstArm, hnone] at hsome
  cases hsome

theorem disciplined_claiming :
    Along (fun watched => Disciplined watched.history) after
        ⟨⟨resumedState, resumedState⟩, []⟩ [.call (.claimStage 0 "observe" []), .load] ↔
      Guarded ReservesUnrecorded after ⟨⟨resumedState, resumedState⟩, []⟩
        [.call (.claimStage 0 "observe" []), .load] :=
  disciplined_iff initialize_resumedState _

end WatchedController

end JlensEvolve.Evolution
