import JlensEvolve.Kernel.CostLedgerRuns
import JlensEvolve.Kernel.LedgerProcesses

/-!
A process that nobody interrupts. Its file steps, one after the other, are the
program of the ledger: the lease, the read, the checks and the append of
`_append_mutation`, and the callback of `dispatch_once` after an append.
-/

namespace JlensEvolve.Kernel

open Library Contracts

/-- One more step of a process that nobody interrupts: the files, its stage and
the callbacks it has invoked. -/
def soloStep (ledger : DurableCostLedger) (state : LedgerFiles × Stage × List String) :
    LedgerFiles × Stage × List String :=
  let turn := state.2.1.turn ledger state.1
  (turn.files, turn.stage, turn.callback.toList ++ state.2.2)

/-- What `_append_mutation` does under its lease after it has read the events. -/
def mutationRest (ledger : DurableCostLedger) (call : LedgerCall) (events : List StoredEvent) :
    LedgerM Bool := do
  check (validateHeader ledger events)
  match events.find? (fun item => item.eventId = (call.event ledger).eventId) with
  | some prior =>
    if sameFacts prior (call.event ledger) then return false
    else throw (.ledgerConflict
      s!"conflicting immutable ledger event {(call.event ledger).eventId}")
  | none =>
    check (call.validate ledger events)
    appendEvent ledger (call.event ledger) events
    return true

theorem appendMutation_eq (ledger : DurableCostLedger) (call : LedgerCall) :
    appendMutation ledger (call.event ledger) (call.validate ledger) =
      writerLease (readEventsHeld ledger >>= mutationRest ledger call) := rfl

/-- Where a mutation leaves its process: the lease is given back, and the
callback is invoked if the event was written for one. -/
def mutationOutcome (ledger : DurableCostLedger) (call : LedgerCall) (dispatches : Bool)
    (dispatched : List String) (result : EStateM.Result LedgerError LedgerFiles Bool) :
    LedgerFiles × Stage × List String :=
  (finalState result, .idle,
    (if dispatches && returned? result = some true then [(call.event ledger).eventId] else []) ++
      dispatched)

section Solo

variable {ledger : DurableCostLedger} {call : LedgerCall} {dispatches : Bool}
  {dispatched : List String}

theorem solo_idle (files : LedgerFiles) (dispatched : List String) (steps : Nat) :
    (soloStep ledger)^[steps] (files, .idle, dispatched) = (files, .idle, dispatched) := by
  induction steps with
  | zero => rfl
  | succ steps ih =>
    rw [Function.iterate_succ_apply]
    exact ih

theorem solo_releasing (files : LedgerFiles) (owed : Option String) (dispatched : List String)
    (steps : Nat) :
    (soloStep ledger)^[steps + 2] (files, .releasing owed, dispatched) =
      ({ files with lease := false }, .idle, owed.toList ++ dispatched) := by
  cases owed with
  | none => exact solo_idle _ _ steps
  | some reservationId => exact solo_idle _ _ steps

theorem solo_proceed (files : LedgerFiles) {events : List StoredEvent}
    (haccepted : Accepted ledger events) :
    (soloStep ledger)^[4] (files, (Purpose.mutate call dispatches).proceed ledger events,
        dispatched) =
      mutationOutcome ledger call dispatches dispatched
        ((withCleanup (fun files => { files with lease := false })
          (mutationRest ledger call events)).run files) := by
  rw [mutationOutcome, run_withCleanup]
  simp only [Purpose.proceed, mutationRest, haccepted.validateHeader, EStateM.run_bind, run_check_ok]
  cases hprior : events.find? (fun item => item.eventId = (call.event ledger).eventId) with
  | some prior =>
    simp only []
    rw [solo_releasing]
    split <;> simp [returned?]
  | none =>
    simp only []
    cases hvalidate : call.validate ledger events with
    | error e =>
      simp only []
      rw [solo_releasing]
      simp [returned?]
    | ok _ =>
      simp only []
      rw [Function.iterate_succ_apply, Function.iterate_succ_apply]
      simp only [soloStep, Stage.turn]
      rw [solo_releasing]
      cases dispatches <;> simp [returned?, appendEvent, writeHead, Purpose.owed]

theorem run_withCleanup_bind {α β : Type} (cleanup : LedgerFiles → LedgerFiles)
    (first : LedgerM α) (next : α → LedgerM β) (files : LedgerFiles) :
    (withCleanup cleanup (first >>= next)).run files =
      match first.run files with
      | .ok a middle => (withCleanup cleanup (next a)).run middle
      | .error e middle => .error e (cleanup middle) := by
  rw [run_withCleanup, EStateM.run_bind]
  cases first.run files <;> rfl

theorem solo_loading (held : LedgerFiles) :
    (soloStep ledger)^[7] (held, .loading (.mutate call dispatches), dispatched) =
      mutationOutcome ledger call dispatches dispatched
        ((withCleanup (fun files => { files with lease := false })
          (readEventsHeld ledger >>= mutationRest ledger call)).run held) := by
  rw [run_withCleanup_bind, Function.iterate_succ_apply]
  simp only [soloStep, Stage.turn]
  cases hload : loadEvents ledger held with
  | error e =>
    have hread : (readEventsHeld ledger).run held = .error e held := by
      simp [readEventsHeld, hload]
    rw [hread]
    simp only []
    rw [solo_releasing]
    simp [mutationOutcome, returned?]
  | ok events =>
    obtain ⟨-, haccepted⟩ := loadEvents_ok_iff.mp hload
    obtain ⟨last, hlast⟩ : ∃ last, events.getLast? = some last :=
      ⟨_, List.getLast?_eq_some_getLast haccepted.nonempty⟩
    simp only []
    rw [Function.iterate_succ_apply]
    simp only [soloStep, Stage.turn]
    cases hstatus : inspectHead ledger held.head events with
    | error e =>
      have hread : (readEventsHeld ledger).run held = .error e held := by
        simp [readEventsHeld, validateHeadHeld, hload, hstatus]
      rw [hread]
      simp only []
      rw [solo_releasing]
      simp [mutationOutcome, returned?]
    | ok status =>
      cases status with
      | current =>
        have hread := run_readEventsHeld_ok_iff.mpr ⟨hload, Or.inl ⟨hstatus, rfl⟩⟩
        rw [hread]
        simp only [Option.toList_none, List.nil_append]
        rw [Function.iterate_add_apply (soloStep ledger) 1 4, solo_proceed held haccepted]
        exact solo_idle _ _ 1
      | oneEventBehind =>
        have hread := run_readEventsHeld_ok_iff.mpr ⟨hload, Or.inr ⟨hstatus, rfl⟩⟩
        rw [hread]
        simp only [Option.toList_none, List.nil_append]
        rw [Function.iterate_succ_apply]
        simp only [soloStep, Stage.turn, hlast, withHead_last held haccepted.chained hlast,
          Option.toList_none, List.nil_append]
        exact solo_proceed _ haccepted
      | mismatch =>
        have hread : (readEventsHeld ledger).run held =
            .error (.ledgerIntegrity "durable cost ledger head mismatch") held := by
          simp [readEventsHeld, validateHeadHeld, hload, hstatus]
        rw [hread]
        simp only []
        rw [solo_releasing]
        simp [mutationOutcome, returned?]

/-- Uninterrupted, a process that is about to take the lease does exactly what
`_append_mutation` does, and invokes its callback after an append. -/
theorem solo_mutate (files : LedgerFiles) :
    (soloStep ledger)^[8] (files, .acquiring (.mutate call dispatches), dispatched) =
      mutationOutcome ledger call dispatches dispatched
        ((appendMutation ledger (call.event ledger) (call.validate ledger)).run files) := by
  rw [appendMutation_eq, writerLease, Function.iterate_succ_apply]
  simp only [soloStep, Stage.turn, EStateM.run_bind, EStateM.run_get]
  cases hlease : files.lease with
  | true =>
    simp only [if_true]
    rw [solo_idle]
    simp [mutationOutcome, returned?]
  | false =>
    simp only [Bool.false_eq_true, if_false]
    exact solo_loading _

end Solo

theorem run_advance (ledgers : Nat → DurableCostLedger) (system : System)
    {process steps : Nat} {after : System}
    (h : run (System.step ledgers) system (List.replicate steps (.act process .advance)) = after) :
    (after.files, after.stage process, after.dispatched) =
      (soloStep (ledgers process))^[steps]
        (system.files, system.stage process, system.dispatched) := by
  induction steps generalizing system with
  | zero => rw [← h]; rfl
  | succ steps ih =>
    rw [List.replicate_succ, run_cons] at h
    rw [ih _ h, Function.iterate_succ_apply]
    simp only [System.step, take_stage_self]
    rfl

/-- `dispatch_once` of a process that nobody interrupts: `reserve`, and the
callback exactly when `reserve` has written. -/
theorem run_dispatchOnce_alone (ledgers : Nat → DurableCostLedger) {system after : System}
    {process : Nat} (hidle : system.stage process = .idle) (reservationId : String) (cost : ℚ)
    (calls : Int) {result : EStateM.Result LedgerError LedgerFiles Bool}
    (hresult : (reserve (ledgers process) reservationId cost calls).run system.files = result)
    (hafter : run (System.step ledgers) system
      (.act process (.begin (.dispatchOnce reservationId cost calls)) ::
        List.replicate 8 (.act process .advance)) = after) :
    after.files = finalState result ∧ after.stage process = .idle ∧
      after.dispatched =
        (if returned? result = some true then [reservationId] else []) ++ system.dispatched := by
  have hargs := LedgerCall.argumentsHold_iff (ledgers process) (.reserve reservationId cost calls)
  rw [run_cons] at hafter
  have hsolo := run_advance ledgers _ hafter
  simp only [System.step, Action.turn, hidle, Work.firstStage, LedgerCall.firstStage, System.take,
    Option.toList_none, List.nil_append] at hsolo
  rcases run_apply_cases (ledgers process) (.reserve reservationId cost calls) system.files with
    ⟨hadmissible, hrun⟩ | ⟨hno, e, -, hrun⟩
  · have hresult : (LedgerCall.apply (ledgers process)
        (.reserve reservationId cost calls)).run system.files = result := hresult
    rw [if_pos (hargs.mpr hadmissible), Function.update_self, solo_mutate, ← hrun, hresult] at hsolo
    simpa only [mutationOutcome, LedgerCall.event, Bool.true_and, decide_eq_true_eq,
      Prod.mk.injEq] using hsolo
  · have hresult : result = .error e system.files := hresult.symm.trans hrun
    rw [if_neg (fun hholds => hno (hargs.mp hholds)), Function.update_self, solo_idle] at hsolo
    rw [hresult]
    simpa only [finalState_error, returned?, Prod.mk.injEq, reduceCtorEq, if_false,
      List.nil_append] using hsolo

/-- A dispatch before there is a ledger. -/
theorem absent_dispatchOnce_alone :
    (run (System.step fun _ => tenUnitLedger) (System.start .absent)
      (.act 0 (.begin (.dispatchOnce "first" 5 1)) :: List.replicate 8 (.act 0 .advance))).dispatched =
        (if returned? ((reserve tenUnitLedger "first" 5 1).run .absent) = some true then ["first"]
          else []) ++ [] := by
  have hidle : (System.start .absent).stage 0 = .idle := rfl
  exact (run_dispatchOnce_alone (fun _ => tenUnitLedger) hidle "first" 5 1 rfl rfl).2.2

end JlensEvolve.Kernel
