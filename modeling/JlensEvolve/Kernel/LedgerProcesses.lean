import Mathlib.Logic.Function.Basic
import JlensEvolve.Kernel.CostLedgerReading

/-!
Processes that share one ledger. A process takes one file step at a time: it
creates or removes the lease file, reads the log or the head, writes a line or
replaces the head. Between any two of its steps the others may take theirs, and
it may raise, write only part of a line, or be killed; a lease file that a
killed process has left behind is removed by hand.
-/

namespace JlensEvolve.Kernel

open Library Contracts

/-- What a process takes the lease for: to repair the head after a read, to
create the ledger, or to append the event of a call. -/
inductive Purpose where
  | recover
  | create
  | mutate (call : LedgerCall) (dispatches : Bool)

/-- The file step a process is about to take. -/
inductive Stage where
  | idle
  /-- `_initialize`: does the log exist, does the head exist. -/
  | probing
  | probingHead
  /-- A reader without the lease: the log, then the head. -/
  | scanning
  | comparing (events : List StoredEvent)
  | acquiring (purpose : Purpose)
  /-- Under the lease. -/
  | probingHeld
  | loading (purpose : Purpose)
  | inspecting (purpose : Purpose) (events : List StoredEvent)
  | repairing (purpose : Purpose) (events : List StoredEvent)
  | appending (purpose : Purpose) (event : Event) (events : List StoredEvent)
  | anchoring (purpose : Purpose) (event : Event) (events : List StoredEvent)
  | releasing (owed : Option String)
  /-- The reservation is written and the callback is due. -/
  | dispatching (reservationId : String)

def Stage.holdsLease : Stage → Bool
  | .probingHeld => true
  | .loading _ => true
  | .inspecting _ _ => true
  | .repairing _ _ => true
  | .appending _ _ _ => true
  | .anchoring _ _ _ => true
  | .releasing _ => true
  | _ => false

/-- The outcome of a step: the files, what the process does next, and the
reservation whose callback the step has invoked. -/
structure Turn where
  files : LedgerFiles
  stage : Stage
  callback : Option String

/-- The reservation to dispatch once its event is written. -/
def Purpose.owed (event : Event) : Purpose → Option String
  | .mutate _ true => some event.eventId
  | _ => none

/-- What follows the head check: the checks of `_append_mutation` need no file
step of their own. -/
def Purpose.proceed (ledger : DurableCostLedger) (events : List StoredEvent) : Purpose → Stage
  | .mutate call dispatches =>
    match validateHeader ledger events with
    | .error _ => .releasing none
    | .ok () =>
      match events.find? (fun item => item.eventId = (call.event ledger).eventId) with
      | some _ => .releasing none
      | none =>
        match call.validate ledger events with
        | .error _ => .releasing none
        | .ok () => .appending (.mutate call dispatches) (call.event ledger) events
  | _ => .releasing none

/-- The next file step of a process. -/
def Stage.turn (ledger : DurableCostLedger) (files : LedgerFiles) : Stage → Turn
  | .idle => ⟨files, .idle, none⟩
  | .probing => ⟨files, if files.log.isSome then .scanning else .probingHead, none⟩
  | .probingHead => ⟨files, if files.head.isSome then .idle else .acquiring .create, none⟩
  | .scanning =>
    match loadEvents ledger files with
    | .error _ => ⟨files, .idle, none⟩
    | .ok events => ⟨files, .comparing events, none⟩
  | .comparing events =>
    match inspectHead ledger files.head events with
    | .ok .oneEventBehind => ⟨files, .acquiring .recover, none⟩
    | _ => ⟨files, .idle, none⟩
  | .acquiring purpose =>
    if files.lease then ⟨files, .idle, none⟩
    else
      match purpose with
      | .create => ⟨{ files with lease := true }, .probingHeld, none⟩
      | _ => ⟨{ files with lease := true }, .loading purpose, none⟩
  | .probingHeld =>
    ⟨files, if files.log.isSome then .loading .create
      else .appending .create (openEvent ledger) [], none⟩
  | .loading purpose =>
    match loadEvents ledger files with
    | .error _ => ⟨files, .releasing none, none⟩
    | .ok events => ⟨files, .inspecting purpose events, none⟩
  | .inspecting purpose events =>
    match inspectHead ledger files.head events with
    | .ok .current => ⟨files, purpose.proceed ledger events, none⟩
    | .ok .oneEventBehind => ⟨files, .repairing purpose events, none⟩
    | _ => ⟨files, .releasing none, none⟩
  | .repairing purpose events =>
    match events.getLast? with
    | some last =>
      ⟨files.withHead ledger last.sequence last.eventSha256, purpose.proceed ledger events, none⟩
    | none => ⟨files, .releasing none, none⟩
  | .appending purpose event events =>
    ⟨files.withLine event events, .anchoring purpose event events, none⟩
  | .anchoring purpose event events =>
    ⟨files.withHead ledger events.length (Json.contentSha256 (.obj (event.chained events))),
      .releasing (purpose.owed event), none⟩
  | .releasing none => ⟨{ files with lease := false }, .idle, none⟩
  | .releasing (some reservationId) =>
    ⟨{ files with lease := false }, .dispatching reservationId, none⟩
  | .dispatching reservationId => ⟨files, .idle, some reservationId⟩

/-- What a process is asked to do. -/
inductive Work where
  | openLedger
  /-- `events()` or `snapshot()`. -/
  | read
  | mutate (call : LedgerCall)
  | dispatchOnce (reservationId : String) (cost : ℚ) (calls : Int)

/-- The argument checks of `reserve` and `record`. -/
def LedgerCall.argumentsHold : LedgerCall → Bool
  | .reserve reservationId cost calls => isText reservationId && 0 ≤ cost && 0 ≤ calls
  | .record reservationId resultId cost calls =>
    isText reservationId && isText resultId && 0 ≤ cost && 0 ≤ calls

def LedgerCall.firstStage (call : LedgerCall) (dispatches : Bool) : Stage :=
  if call.argumentsHold then .acquiring (.mutate call dispatches) else .idle

def Work.firstStage : Work → Stage
  | .openLedger => .probing
  | .read => .scanning
  | .mutate call => call.firstStage false
  | .dispatchOnce reservationId cost calls =>
    (LedgerCall.reserve reservationId cost calls).firstStage true

/-- Everything that can happen to a process. -/
inductive Action where
  | begin (work : Work)
  | advance
  /-- The step raises: a process that holds the lease goes on to remove it. -/
  | fail
  /-- Only part of the line gets written before the write raises. -/
  | tear (fragments : List (Option Json))
  | crash

/-- A log whose last write stopped early. -/
def tornLog (log : Option LogFile) (fragments : List (Option Json)) : LogFile :=
  ⟨((log.map LogFile.lines).getD []) ++ fragments,
    fragments.isEmpty && ((log.map LogFile.terminated).getD false)⟩

def Action.turn (ledger : DurableCostLedger) (files : LedgerFiles) (stage : Stage) :
    Action → Turn
  | .begin work =>
    match stage with
    | .idle => ⟨files, work.firstStage, none⟩
    | stage => ⟨files, stage, none⟩
  | .advance => stage.turn ledger files
  | .fail => ⟨files, if stage.holdsLease then .releasing none else .idle, none⟩
  | .tear fragments =>
    match stage with
    | .appending _ _ _ =>
      ⟨{ files with log := some (tornLog files.log fragments) }, .releasing none, none⟩
    | stage => ⟨files, stage, none⟩
  | .crash => ⟨files, .idle, none⟩

/-- The files, the process number in the lease file, the processes, and the
callbacks invoked so far, the latest first. -/
structure System where
  files : LedgerFiles
  leaseOwner : Option Nat
  stage : Nat → Stage
  dispatched : List String

def System.start (files : LedgerFiles) : System :=
  ⟨files, none, fun _ => .idle, []⟩

def System.take (system : System) (process : Nat) (turn : Turn) : System :=
  { files := turn.files
    leaseOwner := if !system.files.lease && turn.files.lease then some process
      else system.leaseOwner
    stage := Function.update system.stage process turn.stage
    dispatched := turn.callback.toList ++ system.dispatched }

inductive SystemEvent where
  | act (process : Nat) (action : Action)
  /-- The lease file of a process that no longer runs under it is removed. -/
  | clearLease

/-- `ledgers` are the arguments each process constructs its ledger with. -/
def System.step (ledgers : Nat → DurableCostLedger) (system : System) : SystemEvent → System
  | .act process action =>
    system.take process (action.turn (ledgers process) system.files (system.stage process))
  | .clearLease =>
    match system.leaseOwner with
    | some process =>
      if (system.stage process).holdsLease then system
      else { system with files := { system.files with lease := false } }
    | none => system

def Purpose.Valid (ledger : DurableCostLedger) : Purpose → Prop
  | .mutate call _ => (call.event ledger).Admissible ledger
  | _ => True

/-- The event a process is about to write for its purpose, under a lease that
it holds: an admitted call's, or the opening event of a log that does not exist. -/
def Purpose.MayAppend (ledger : DurableCostLedger) (files : LedgerFiles) (event : Event)
    (events : List StoredEvent) : Purpose → Prop
  | .mutate call _ => event = call.event ledger ∧ loadEvents ledger files = .ok events ∧
      call.Admitted ledger events ∧ inspectHead ledger files.head events = .ok .current
  | .create => event = openEvent ledger ∧ events = [] ∧ files.log = none
  | .recover => False

/-- What a process at this stage may rely on. Only a process that holds the
lease relies on the files. -/
def Stage.Fits (ledger : DurableCostLedger) (files : LedgerFiles) : Stage → Prop
  | .acquiring purpose => purpose.Valid ledger
  | .loading purpose => purpose.Valid ledger
  | .inspecting purpose events => purpose.Valid ledger ∧ loadEvents ledger files = .ok events
  | .repairing purpose events => purpose.Valid ledger ∧ loadEvents ledger files = .ok events
  | .appending purpose event events => purpose.MayAppend ledger files event events
  | .anchoring _ _ _ => files.log.isSome = true
  | _ => True

theorem LedgerCall.argumentsHold_iff (ledger : DurableCostLedger) (call : LedgerCall) :
    call.argumentsHold = true ↔ (call.event ledger).Admissible ledger := by
  cases call with
  | reserve reservationId cost calls =>
    simp only [LedgerCall.argumentsHold, Bool.and_eq_true, decide_eq_true_eq]
    constructor
    · rintro ⟨⟨hid, hcost⟩, hcalls⟩
      exact ⟨hid, rfl, hcost, hcalls⟩
    · intro h
      exact ⟨⟨h.eventId, h.body.1⟩, h.body.2⟩
  | record reservationId resultId cost calls =>
    simp only [LedgerCall.argumentsHold, Bool.and_eq_true, decide_eq_true_eq]
    constructor
    · rintro ⟨⟨⟨hid, hresult⟩, hcost⟩, hcalls⟩
      exact ⟨hresult, rfl, hid, hcost, hcalls⟩
    · intro h
      exact ⟨⟨⟨h.body.1, h.eventId⟩, h.body.2.1⟩, h.body.2.2⟩

section Turn

variable {ledger : DurableCostLedger} {files : LedgerFiles}

theorem fits_of_not_holdsLease {stage : Stage} (h : stage.holdsLease = false)
    (other : LedgerFiles) : stage.Fits ledger files ↔ stage.Fits ledger other := by
  cases stage <;> first | rfl | cases h

/-- The checks after the head leave an admitted call about to append, or the
lease about to be given back. -/
theorem proceed_cases (ledger : DurableCostLedger) (purpose : Purpose)
    (events : List StoredEvent) :
    purpose.proceed ledger events = .releasing none ∨
      ∃ call dispatches, purpose = .mutate call dispatches ∧
        purpose.proceed ledger events = .appending purpose (call.event ledger) events ∧
        (call.event ledger).eventId ∉ events.map StoredEvent.eventId ∧
        call.validate ledger events = .ok () := by
  cases purpose with
  | recover => exact Or.inl rfl
  | create => exact Or.inl rfl
  | mutate call dispatches =>
    simp only [Purpose.proceed]
    split
    · exact Or.inl rfl
    · split
      · exact Or.inl rfl
      · rename_i habsent
        split
        · exact Or.inl rfl
        · rename_i hvalid
          refine Or.inr ⟨call, dispatches, rfl, rfl, ?_, hvalid⟩
          intro hmem
          obtain ⟨item, hitem, hid⟩ := List.mem_map.mp hmem
          exact List.find?_eq_none.mp habsent item hitem (by simpa using hid)

theorem fits_proceed {purpose : Purpose} {events : List StoredEvent} (hvalid : purpose.Valid ledger)
    (hload : loadEvents ledger files = .ok events)
    (hhead : inspectHead ledger files.head events = .ok .current) :
    (purpose.proceed ledger events).Fits ledger files := by
  rcases proceed_cases ledger purpose events with
    hnone | ⟨call, dispatches, rfl, hproceed, hnew, hvalidate⟩
  · rw [hnone]
    trivial
  · rw [hproceed]
    exact ⟨rfl, hload, ⟨hvalid, hnew, hvalidate⟩, hhead⟩

theorem fits_turn {stage : Stage} (h : stage.Fits ledger files) :
    (stage.turn ledger files).stage.Fits ledger (stage.turn ledger files).files := by
  cases stage with
  | idle => trivial
  | probing =>
    simp only [Stage.turn]
    split <;> trivial
  | probingHead =>
    simp only [Stage.turn]
    split <;> trivial
  | scanning =>
    simp only [Stage.turn]
    split <;> trivial
  | comparing events =>
    simp only [Stage.turn]
    split <;> trivial
  | acquiring purpose =>
    simp only [Stage.turn]
    split
    · trivial
    · split
      · trivial
      · exact h
  | probingHeld =>
    simp only [Stage.turn]
    split
    · trivial
    · rename_i habsent
      exact ⟨rfl, rfl, by simpa using habsent⟩
  | loading purpose =>
    simp only [Stage.turn]
    split
    · trivial
    · rename_i hload
      exact ⟨h, hload⟩
  | inspecting purpose events =>
    simp only [Stage.turn]
    split
    · rename_i hcurrent
      exact fits_proceed h.1 h.2 hcurrent
    · exact h
    · trivial
  | repairing purpose events =>
    simp only [Stage.turn]
    obtain ⟨hlog, haccepted⟩ := loadEvents_ok_iff.mp h.2
    split
    · rename_i last hlast
      have hload : loadEvents ledger (files.anchored ledger events) = .ok events :=
        loadEvents_ok_iff.mpr ⟨hlog, haccepted⟩
      rw [withHead_last files haccepted.chained hlast]
      exact fits_proceed h.1 hload (inspectHead_current haccepted.nonempty)
    · trivial
  | appending purpose event events => rfl
  | anchoring purpose event events => trivial
  | releasing owed => cases owed <;> trivial
  | dispatching reservationId => trivial

theorem fits_firstStage (work : Work) : work.firstStage.Fits ledger files := by
  have hcall : ∀ (call : LedgerCall) (dispatches : Bool),
      (call.firstStage dispatches).Fits ledger files := by
    intro call dispatches
    unfold LedgerCall.firstStage
    split
    · rename_i hargs
      exact (call.argumentsHold_iff ledger).mp hargs
    · trivial
  cases work with
  | openLedger => trivial
  | read => trivial
  | mutate call => exact hcall call false
  | dispatchOnce reservationId cost calls => exact hcall _ true

theorem fits_action {stage : Stage} (h : stage.Fits ledger files) (action : Action) :
    (action.turn ledger files stage).stage.Fits ledger (action.turn ledger files stage).files := by
  cases action with
  | begin work =>
    simp only [Action.turn]
    split
    · exact fits_firstStage work
    · exact h
  | advance => exact fits_turn h
  | fail =>
    simp only [Action.turn]
    split <;> trivial
  | tear fragments =>
    simp only [Action.turn]
    split
    · trivial
    · exact h
  | crash => trivial

/-- A process that does not hold the lease leaves the files as they are, or
takes the lease where there is none. -/
theorem files_action {stage : Stage} (h : stage.holdsLease = false) (action : Action) :
    (action.turn ledger files stage).files = files ∨
      files.lease = false ∧
        (action.turn ledger files stage).files = { files with lease := true } := by
  cases action with
  | begin work =>
    simp only [Action.turn]
    split <;> exact Or.inl rfl
  | fail => exact Or.inl rfl
  | tear fragments =>
    simp only [Action.turn]
    split
    · cases h
    · exact Or.inl rfl
  | crash => exact Or.inl rfl
  | advance =>
    cases stage with
    | acquiring purpose =>
      simp only [Action.turn, Stage.turn]
      split
      · exact Or.inl rfl
      · rename_i hfree
        refine Or.inr ⟨by simpa using hfree, ?_⟩
        split <;> rfl
    | idle => exact Or.inl rfl
    | probing => exact Or.inl rfl
    | probingHead => exact Or.inl rfl
    | scanning =>
      simp only [Action.turn, Stage.turn]
      split <;> exact Or.inl rfl
    | comparing events =>
      simp only [Action.turn, Stage.turn]
      split <;> exact Or.inl rfl
    | dispatching reservationId => exact Or.inl rfl
    | probingHeld => cases h
    | loading purpose => cases h
    | inspecting purpose events => cases h
    | repairing purpose events => cases h
    | appending purpose event events => cases h
    | anchoring purpose event events => cases h
    | releasing owed => cases h

/-- A process that holds the lease after its step held it before, and the lease
file is still there, or it has just created it. -/
theorem holdsLease_action {stage : Stage} (action : Action)
    (h : (action.turn ledger files stage).stage.holdsLease = true) :
    stage.holdsLease = true ∧ (action.turn ledger files stage).files.lease = files.lease ∨
      files.lease = false ∧ (action.turn ledger files stage).files.lease = true := by
  cases action with
  | begin work =>
    simp only [Action.turn] at h ⊢
    split at h
    · cases work with
      | openLedger => cases h
      | read => cases h
      | mutate call =>
        simp only [Work.firstStage, LedgerCall.firstStage] at h
        split at h <;> cases h
      | dispatchOnce reservationId cost calls =>
        simp only [Work.firstStage, LedgerCall.firstStage] at h
        split at h <;> cases h
    · exact Or.inl ⟨h, rfl⟩
  | fail =>
    simp only [Action.turn] at h
    split at h
    · rename_i hholds
      exact Or.inl ⟨hholds, rfl⟩
    · cases h
  | tear fragments =>
    simp only [Action.turn] at h ⊢
    split at h
    · exact Or.inl ⟨rfl, rfl⟩
    · exact Or.inl ⟨h, rfl⟩
  | crash => cases h
  | advance =>
    cases stage with
    | acquiring purpose =>
      simp only [Action.turn, Stage.turn] at h ⊢
      split at h
      · cases h
      · rename_i hfree
        refine Or.inr ⟨by simpa using hfree, ?_⟩
        rw [if_neg hfree]
        split <;> rfl
    | idle => cases h
    | probing =>
      simp only [Action.turn, Stage.turn] at h
      split at h <;> cases h
    | probingHead =>
      simp only [Action.turn, Stage.turn] at h
      split at h <;> cases h
    | scanning =>
      simp only [Action.turn, Stage.turn] at h
      split at h <;> cases h
    | comparing events =>
      simp only [Action.turn, Stage.turn] at h
      split at h <;> cases h
    | dispatching reservationId => cases h
    | probingHeld => exact Or.inl ⟨rfl, rfl⟩
    | loading purpose =>
      refine Or.inl ⟨rfl, ?_⟩
      simp only [Action.turn, Stage.turn]
      split <;> rfl
    | inspecting purpose events =>
      refine Or.inl ⟨rfl, ?_⟩
      simp only [Action.turn, Stage.turn]
      split <;> rfl
    | repairing purpose events =>
      refine Or.inl ⟨rfl, ?_⟩
      simp only [Action.turn, Stage.turn]
      split <;> rfl
    | appending purpose event events => exact Or.inl ⟨rfl, rfl⟩
    | anchoring purpose event events => exact Or.inl ⟨rfl, rfl⟩
    | releasing owed => cases owed <;> cases h

end Turn

section Run

variable {ledgers : Nat → DurableCostLedger} {system : System}

/-- Every process can rely on what its stage says, and only the process named
in the lease file holds the lease. -/
structure System.Sound (ledgers : Nat → DurableCostLedger) (system : System) : Prop where
  fits : ∀ process, (system.stage process).Fits (ledgers process) system.files
  leased : ∀ process, (system.stage process).holdsLease = true →
    system.files.lease = true ∧ system.leaseOwner = some process

theorem sound_start (ledgers : Nat → DurableCostLedger) (files : LedgerFiles) : (System.start files).Sound ledgers := by
  constructor
  · intro process
    trivial
  · intro process hholds
    cases hholds

@[simp] theorem take_stage_self (system : System) (process : Nat) (turn : Turn) :
    (system.take process turn).stage process = turn.stage := by
  simp [System.take]

theorem take_stage_of_ne (system : System) {process other : Nat} (turn : Turn)
    (h : other ≠ process) : (system.take process turn).stage other = system.stage other := by
  simp [System.take, h]

theorem files_of_other_holds (h : system.Sound ledgers) {process other : Nat}
    (hne : other ≠ process) (hholds : (system.stage other).holdsLease = true) (action : Action) :
    (action.turn (ledgers process) system.files (system.stage process)).files =
      system.files := by
  obtain ⟨hlease, howner⟩ := h.leased other hholds
  have hfree : (system.stage process).holdsLease = false := by
    cases hprocess : (system.stage process).holdsLease with
    | false => rfl
    | true =>
      have hsame := (h.leased process hprocess).2
      rw [howner] at hsame
      exact absurd (Option.some.inj hsame) hne
  rcases files_action hfree action with hsame | ⟨hnone, -⟩
  · exact hsame
  · rw [hlease] at hnone
    cases hnone

theorem sound_act (h : system.Sound ledgers) (process : Nat) (action : Action) :
    (system.step ledgers (.act process action)).Sound ledgers := by
  constructor
  · intro other
    by_cases hsame : other = process
    · subst hsame
      simp only [System.step, take_stage_self]
      exact fits_action (h.fits other) action
    · simp only [System.step, take_stage_of_ne _ _ hsame]
      cases hholds : (system.stage other).holdsLease with
      | false => exact (fits_of_not_holdsLease hholds _).mp (h.fits other)
      | true =>
        have hfiles := files_of_other_holds h hsame hholds action
        simp only [System.take, hfiles]
        exact h.fits other
  · intro other hholds
    by_cases hsame : other = process
    · subst hsame
      simp only [System.step, take_stage_self] at hholds
      simp only [System.step, System.take]
      rcases holdsLease_action action hholds with ⟨hbefore, hlease⟩ | ⟨hfree, hlease⟩
      · obtain ⟨hheld, howner⟩ := h.leased other hbefore
        simp [hlease, hheld, howner]
      · simp [hlease, hfree]
    · simp only [System.step, take_stage_of_ne _ _ hsame] at hholds
      have hfiles := files_of_other_holds h hsame hholds action
      obtain ⟨hheld, howner⟩ := h.leased other hholds
      simp [System.step, System.take, hfiles, hheld, howner]

theorem sound_clearLease (h : system.Sound ledgers) :
    (system.step ledgers .clearLease).Sound ledgers := by
  simp only [System.step]
  split
  · rename_i owner howner
    split
    · exact h
    · rename_i hfree
      have hnone : ∀ process, (system.stage process).holdsLease = false := by
        intro process
        cases hholds : (system.stage process).holdsLease with
        | false => rfl
        | true =>
          have hsame := (h.leased process hholds).2
          rw [howner] at hsame
          rw [Option.some.inj hsame, hholds] at hfree
          exact absurd rfl hfree
      constructor
      · intro process
        exact (fits_of_not_holdsLease (hnone process) _).mp (h.fits process)
      · intro process hholds
        exact absurd hholds (by simp [hnone process])
  · exact h

theorem sound_step (system : System) (event : SystemEvent) (h : system.Sound ledgers) :
    (system.step ledgers event).Sound ledgers := by
  cases event with
  | act process action => exact sound_act h process action
  | clearLease => exact sound_clearLease h

end Run

end JlensEvolve.Kernel
