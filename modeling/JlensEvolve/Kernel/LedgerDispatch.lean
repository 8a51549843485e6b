import JlensEvolve.Kernel.LedgerProcesses

/-!
`dispatch_once` among any number of processes. A reservation is owed from the
moment its line is written until its callback has been invoked. Whoever reads
the log later meets that line or cannot read the log at all, so nobody writes
the same reservation again, and what is owed or dispatched stays distinct.
-/

namespace JlensEvolve.Kernel

open Library Contracts

/-- The reservation whose callback a process still has to invoke. -/
def Stage.owed : Stage → Option String
  | .anchoring purpose event _ => purpose.owed event
  | .releasing owed => owed
  | .dispatching reservationId => some reservationId
  | _ => none

def LedgerFiles.lines (files : LedgerFiles) : List (Option Json) :=
  (files.log.map LogFile.lines).getD []

/-- Every reader that gets through the log finds the reservation in it. -/
def Reserved (files : LedgerFiles) (reservationId : String) : Prop :=
  ∀ ledger events, readLines ledger 1 [] files.lines = .ok events →
    reservationId ∈ events.map StoredEvent.eventId

def Grows (before after : LedgerFiles) : Prop := before.lines <+: after.lines

theorem Grows.of_log_eq {before after : LedgerFiles} (h : after.log = before.log) :
    Grows before after := by
  rw [Grows, LedgerFiles.lines, LedgerFiles.lines, h]

theorem grows_withLine (files : LedgerFiles) (event : Event) (events : List StoredEvent) :
    Grows files (files.withLine event events) :=
  List.prefix_append _ _

theorem Reserved.grows {before after : LedgerFiles} {reservationId : String}
    (h : Reserved before reservationId) (hgrows : Grows before after) :
    Reserved after reservationId := by
  intro ledger events hread
  obtain ⟨more, hmore⟩ := hgrows
  rw [← hmore, readLines_append] at hread
  cases hbefore : readLines ledger 1 [] before.lines with
  | error e =>
    rw [hbefore] at hread
    cases hread
  | ok middle =>
    rw [hbefore] at hread
    have hinitial : middle <+: events := readLines_prefix hread
    exact (hinitial.map StoredEvent.eventId).subset (h ledger middle hbefore)

theorem reserved_withLine (files : LedgerFiles) (event : Event) (events : List StoredEvent) :
    Reserved (files.withLine event events) event.eventId := by
  intro ledger read hread
  have hlines : (files.withLine event events).lines =
      files.lines ++ AppendLog.written (.obj (event.stored events)) := rfl
  rw [hlines, readLines_append] at hread
  cases hbefore : readLines ledger 1 [] files.lines with
  | error e =>
    rw [hbefore] at hread
    cases hread
  | ok middle =>
    rw [hbefore, AppendLog.written] at hread
    split at hread
    · cases hread
    · simp only [Except.bind, readLines] at hread
      cases hline : readLine ledger (1 + files.lines.length) middle
          (some (.obj (event.stored events))) with
      | error e =>
        rw [hline] at hread
        cases hread
      | ok last =>
        rw [hline] at hread
        cases hread
        obtain ⟨hraw, hfollows⟩ := readLine_eq_ok hline
        have hid := hfollows.eventId
        simp only [Option.some.injEq, Json.obj.injEq] at hraw
        rw [← hraw] at hid
        have hname : last.eventId = event.eventId := by
          simp only [readText, Event.stored, Event.chained, Event.fields, List.cons_append,
            Json.field?_cons, if_true] at hid
          split at hid
          · exact (Option.some.inj hid).symm
          · cases hid
        rw [List.map_append, List.map_singleton, hname]
        exact List.mem_append_right _ (List.mem_singleton_self _)

section Action

variable {ledger : DurableCostLedger} {files : LedgerFiles}

theorem owed_proceed (purpose : Purpose) (events : List StoredEvent) :
    (purpose.proceed ledger events).owed = none := by
  rcases proceed_cases ledger purpose events with hnone | ⟨_, _, _, hproceed, _⟩
  · rw [hnone]
    rfl
  · rw [hproceed]
    rfl

theorem owed_firstStage (work : Work) : work.firstStage.owed = none := by
  have hcall : ∀ (call : LedgerCall) (dispatches : Bool),
      (call.firstStage dispatches).owed = none := by
    intro call dispatches
    unfold LedgerCall.firstStage
    split <;> rfl
  cases work with
  | openLedger => rfl
  | read => rfl
  | mutate call => exact hcall call false
  | dispatchOnce reservationId cost calls => exact hcall _ true

/-- What a step does to the debt of its process: it is kept or dropped, or it
is paid by the callback, or it arises with the line of a new reservation. -/
inductive Settles (ledger : DurableCostLedger) (files : LedgerFiles) (stage : Stage) (turn : Turn) :
    Prop where
  | kept (callback : turn.callback = none)
      (owed : turn.stage.owed = none ∨ turn.stage.owed = stage.owed)
      (grows : Grows files turn.files)
  | paid (reservationId : String) (owed : stage.owed = some reservationId)
      (callback : turn.callback = some reservationId) (cleared : turn.stage.owed = none)
      (grows : Grows files turn.files)
  | incurred (purpose : Purpose) (event : Event) (events : List StoredEvent)
      (stage : stage = .appending purpose event events) (callback : turn.callback = none)
      (owed : turn.stage.owed = purpose.owed event)
      (files : turn.files = files.withLine event events)

theorem settles_turn (stage : Stage) :
    Settles ledger files stage (stage.turn ledger files) := by
  cases stage with
  | idle => exact .kept rfl (Or.inl rfl) (.of_log_eq rfl)
  | probing =>
    refine .kept rfl (Or.inl ?_) (.of_log_eq rfl)
    simp only [Stage.turn]
    split <;> rfl
  | probingHead =>
    refine .kept rfl (Or.inl ?_) (.of_log_eq rfl)
    simp only [Stage.turn]
    split <;> rfl
  | scanning =>
    simp only [Stage.turn]
    split <;> exact .kept rfl (Or.inl rfl) (.of_log_eq rfl)
  | comparing events =>
    simp only [Stage.turn]
    split <;> exact .kept rfl (Or.inl rfl) (.of_log_eq rfl)
  | acquiring purpose =>
    simp only [Stage.turn]
    split
    · exact .kept rfl (Or.inl rfl) (.of_log_eq rfl)
    · split <;> exact .kept rfl (Or.inl rfl) (.of_log_eq rfl)
  | probingHeld =>
    refine .kept rfl (Or.inl ?_) (.of_log_eq rfl)
    simp only [Stage.turn]
    split <;> rfl
  | loading purpose =>
    simp only [Stage.turn]
    split <;> exact .kept rfl (Or.inl rfl) (.of_log_eq rfl)
  | inspecting purpose events =>
    simp only [Stage.turn]
    split
    · exact .kept rfl (Or.inl (owed_proceed purpose events)) (.of_log_eq rfl)
    · exact .kept rfl (Or.inl rfl) (.of_log_eq rfl)
    · exact .kept rfl (Or.inl rfl) (.of_log_eq rfl)
  | repairing purpose events =>
    simp only [Stage.turn]
    split
    · exact .kept rfl (Or.inl (owed_proceed purpose events)) (.of_log_eq rfl)
    · exact .kept rfl (Or.inl rfl) (.of_log_eq rfl)
  | appending purpose event events => exact .incurred purpose event events rfl rfl rfl rfl
  | anchoring purpose event events => exact .kept rfl (Or.inr rfl) (.of_log_eq rfl)
  | releasing owed =>
    cases owed with
    | none => exact .kept rfl (Or.inl rfl) (.of_log_eq rfl)
    | some reservationId => exact .kept rfl (Or.inr rfl) (.of_log_eq rfl)
  | dispatching reservationId => exact .paid reservationId rfl rfl rfl (.of_log_eq rfl)

theorem grows_tornLog (files : LedgerFiles) (fragments : List (Option Json)) :
    Grows files { files with log := some (tornLog files.log fragments) } :=
  List.prefix_append _ _

theorem settles_action (ledger : DurableCostLedger) (files : LedgerFiles) (stage : Stage)
    (action : Action) :
    Settles ledger files stage (action.turn ledger files stage) := by
  cases action with
  | begin work =>
    simp only [Action.turn]
    split
    · exact .kept rfl (Or.inl (owed_firstStage work)) (.of_log_eq rfl)
    · exact .kept rfl (Or.inr rfl) (.of_log_eq rfl)
  | advance => exact settles_turn stage
  | fail =>
    refine .kept rfl (Or.inl ?_) (.of_log_eq rfl)
    simp only [Action.turn]
    split <;> rfl
  | tear fragments =>
    simp only [Action.turn]
    split
    · exact .kept rfl (Or.inl rfl) (grows_tornLog files fragments)
    · exact .kept rfl (Or.inr rfl) (.of_log_eq rfl)
  | crash => exact .kept rfl (Or.inl rfl) (.of_log_eq rfl)

end Action

/-- No reservation has been dispatched twice, is owed twice, or is owed after
it has been dispatched; and all of them are in the log for good. -/
structure System.AtMostOnce (system : System) : Prop where
  dispatched : system.dispatched.Nodup
  dispatchedReserved : ∀ reservationId ∈ system.dispatched,
    Reserved system.files reservationId
  owedReserved : ∀ process reservationId, (system.stage process).owed = some reservationId →
    Reserved system.files reservationId
  owedNotDispatched : ∀ process reservationId,
    (system.stage process).owed = some reservationId → reservationId ∉ system.dispatched
  owedOnce : ∀ process other reservationId, (system.stage process).owed = some reservationId →
    (system.stage other).owed = some reservationId → process = other

theorem atMostOnce_start (files : LedgerFiles) : (System.start files).AtMostOnce := by
  constructor
  · exact List.nodup_nil
  · intro reservationId hmem
    cases hmem
  · intro process reservationId howed
    cases howed
  · intro process reservationId howed
    cases howed
  · intro process other reservationId howed
    cases howed

section Run

variable {ledgers : Nat → DurableCostLedger} {system : System}

theorem not_reserved_of_appending {ledger : DurableCostLedger} {files : LedgerFiles}
    {purpose : Purpose} {event : Event} {events : List StoredEvent}
    (hfits : (Stage.appending purpose event events).Fits ledger files) {reservationId : String}
    (howed : purpose.owed event = some reservationId) : ¬ Reserved files reservationId := by
  cases purpose with
  | recover => cases howed
  | create => cases howed
  | mutate call dispatches =>
    obtain ⟨rfl, hload, hadmitted, -⟩ := hfits
    have hid : (call.event ledger).eventId = reservationId := by
      cases dispatches with
      | false => cases howed
      | true => exact Option.some.inj howed
    obtain ⟨hlog, haccepted⟩ := loadEvents_ok_iff.mp hload
    intro hreserved
    apply hadmitted.new
    rw [hid]
    apply hreserved ledger events
    rw [LedgerFiles.lines, hlog]
    exact haccepted.read

theorem owed_take {process other : Nat} {turn : Turn} {reservationId : String}
    (h : ((system.take process turn).stage other).owed = some reservationId) :
    other = process ∧ turn.stage.owed = some reservationId ∨
      other ≠ process ∧ (system.stage other).owed = some reservationId := by
  by_cases hsame : other = process
  · subst hsame
    rw [take_stage_self] at h
    exact Or.inl ⟨rfl, h⟩
  · rw [take_stage_of_ne _ _ hsame] at h
    exact Or.inr ⟨hsame, h⟩

theorem System.AtMostOnce.kept (h : system.AtMostOnce) {after : System}
    (hdispatched : after.dispatched = system.dispatched)
    (howed : ∀ process reservationId, (after.stage process).owed = some reservationId →
      (system.stage process).owed = some reservationId)
    (hgrows : Grows system.files after.files) : after.AtMostOnce := by
  constructor
  · rw [hdispatched]
    exact h.dispatched
  · rw [hdispatched]
    intro reservationId hmem
    exact (h.dispatchedReserved reservationId hmem).grows hgrows
  · intro process reservationId hafter
    exact (h.owedReserved process reservationId (howed _ _ hafter)).grows hgrows
  · rw [hdispatched]
    intro process reservationId hafter
    exact h.owedNotDispatched process reservationId (howed _ _ hafter)
  · intro process other reservationId hafter hother
    exact h.owedOnce process other reservationId (howed _ _ hafter) (howed _ _ hother)

theorem System.AtMostOnce.paid (h : system.AtMostOnce) {process : Nat} {turn : Turn}
    {reservationId : String} (howed : (system.stage process).owed = some reservationId)
    (hcallback : turn.callback = some reservationId) (hcleared : turn.stage.owed = none)
    (hgrows : Grows system.files turn.files) : (system.take process turn).AtMostOnce := by
  have hdispatched : (system.take process turn).dispatched =
      reservationId :: system.dispatched := by
    simp [System.take, hcallback]
  have hother : ∀ other id, ((system.take process turn).stage other).owed = some id →
      other ≠ process ∧ (system.stage other).owed = some id := by
    intro other id hafter
    rcases owed_take hafter with ⟨-, hturn⟩ | hbefore
    · rw [hcleared] at hturn
      cases hturn
    · exact hbefore
  constructor
  · rw [hdispatched]
    exact List.nodup_cons.mpr ⟨h.owedNotDispatched process _ howed, h.dispatched⟩
  · rw [hdispatched]
    intro id hmem
    rcases List.mem_cons.mp hmem with rfl | hmem
    · exact (h.owedReserved process id howed).grows hgrows
    · exact (h.dispatchedReserved id hmem).grows hgrows
  · intro other id hafter
    exact (h.owedReserved other id (hother other id hafter).2).grows hgrows
  · rw [hdispatched]
    intro other id hafter hmem
    obtain ⟨hne, hbefore⟩ := hother other id hafter
    rcases List.mem_cons.mp hmem with rfl | hmem
    · exact hne (h.owedOnce other process id hbefore howed)
    · exact h.owedNotDispatched other id hbefore hmem
  · intro first second id hfirst hsecond
    exact h.owedOnce first second id (hother first id hfirst).2 (hother second id hsecond).2

theorem System.AtMostOnce.incurred (h : system.AtMostOnce) {process : Nat} {turn : Turn}
    {reservationId : String} (hnew : ¬ Reserved system.files reservationId)
    (hcallback : turn.callback = none) (howed : turn.stage.owed = some reservationId)
    (hgrows : Grows system.files turn.files) (hreserved : Reserved turn.files reservationId) :
    (system.take process turn).AtMostOnce := by
  have hdispatched : (system.take process turn).dispatched = system.dispatched := by
    simp [System.take, hcallback]
  have hafter : ∀ other id, ((system.take process turn).stage other).owed = some id →
      other = process ∧ id = reservationId ∨
        other ≠ process ∧ (system.stage other).owed = some id := by
    intro other id hafter
    rcases owed_take hafter with ⟨hsame, hturn⟩ | hbefore
    · rw [howed] at hturn
      exact Or.inl ⟨hsame, (Option.some.inj hturn).symm⟩
    · exact Or.inr hbefore
  have hfresh : ∀ other, (system.stage other).owed ≠ some reservationId := by
    intro other hother
    exact hnew (h.owedReserved other reservationId hother)
  constructor
  · rw [hdispatched]
    exact h.dispatched
  · rw [hdispatched]
    intro id hmem
    exact (h.dispatchedReserved id hmem).grows hgrows
  · intro other id hother
    rcases hafter other id hother with ⟨-, rfl⟩ | ⟨-, hbefore⟩
    · exact hreserved
    · exact (h.owedReserved other id hbefore).grows hgrows
  · rw [hdispatched]
    intro other id hother hmem
    rcases hafter other id hother with ⟨-, rfl⟩ | ⟨-, hbefore⟩
    · exact hnew (h.dispatchedReserved id hmem)
    · exact h.owedNotDispatched other id hbefore hmem
  · intro first second id hfirst hsecond
    rcases hafter first id hfirst with ⟨hp, rfl⟩ | ⟨-, hbefore⟩
    · rcases hafter second id hsecond with ⟨hq, -⟩ | ⟨-, hsecond⟩
      · exact hp.trans hq.symm
      · exact absurd hsecond (hfresh second)
    · rcases hafter second id hsecond with ⟨-, rfl⟩ | ⟨-, hsecond⟩
      · exact absurd hbefore (hfresh first)
      · exact h.owedOnce first second id hbefore hsecond

theorem atMostOnce_act (hsound : system.Sound ledgers) (h : system.AtMostOnce) (process : Nat)
    (action : Action) : (system.step ledgers (.act process action)).AtMostOnce := by
  have hfits := hsound.fits process
  have hsettles := settles_action (ledgers process) system.files (system.stage process) action
  simp only [System.step]
  cases hsettles with
  | kept hcallback howed hgrows =>
    apply h.kept
    · simp [System.take, hcallback]
    · intro other id hafter
      rcases owed_take hafter with ⟨rfl, hturn⟩ | ⟨-, hbefore⟩
      · rcases howed with hnone | hsame
        · rw [hnone] at hturn
          cases hturn
        · exact hsame.symm.trans hturn
      · exact hbefore
    · exact hgrows
  | paid reservationId howed hcallback hcleared hgrows =>
    exact h.paid howed hcallback hcleared hgrows
  | incurred purpose event events hstage hcallback howed hfiles =>
    rw [hstage] at hfits
    have hgrows : Grows system.files
        (action.turn (ledgers process) system.files (system.stage process)).files := by
      rw [hfiles]
      exact grows_withLine system.files event events
    cases hid : purpose.owed event with
    | none =>
      apply h.kept
      · simp [System.take, hcallback]
      · intro other id hafter
        rcases owed_take hafter with ⟨-, hturn⟩ | ⟨-, hbefore⟩
        · rw [howed, hid] at hturn
          cases hturn
        · exact hbefore
      · exact hgrows
    | some reservationId =>
      have hname : event.eventId = reservationId := by
        cases purpose with
        | recover => cases hid
        | create => cases hid
        | mutate call dispatches =>
          cases dispatches with
          | false => cases hid
          | true => exact Option.some.inj hid
      apply h.incurred (not_reserved_of_appending hfits hid) hcallback (howed.trans hid) hgrows
      rw [hfiles, ← hname]
      exact reserved_withLine system.files event events

theorem atMostOnce_step (system : System) (event : SystemEvent)
    (h : system.Sound ledgers ∧ system.AtMostOnce) :
    (system.step ledgers event).Sound ledgers ∧ (system.step ledgers event).AtMostOnce := by
  refine ⟨sound_step system event h.1, ?_⟩
  cases event with
  | act process action => exact atMostOnce_act h.1 h.2 process action
  | clearLease =>
    simp only [System.step]
    split
    · split
      · exact h.2
      · exact h.2.kept rfl (fun _ _ => id) (.of_log_eq rfl)
    · exact h.2

/-- Whatever files there are at first, however the steps of the processes
interleave and wherever they raise, are killed and start again: no reservation
is dispatched twice. -/
theorem dispatch_at_most_once (ledgers : Nat → DurableCostLedger) (files : LedgerFiles)
    (events : List SystemEvent) (reservationId : String) :
    (run (System.step ledgers) (System.start files) events).dispatched.count reservationId ≤ 1 := by
  have hinvariant := run_invariant atMostOnce_step (System.start files) events
    ⟨sound_start ledgers files, atMostOnce_start files⟩
  exact List.nodup_iff_count_le_one.mp hinvariant.2.dispatched reservationId

end Run

end JlensEvolve.Kernel
