import JlensEvolve.Kernel.CostLedgerReading

/-!
Runs of a ledger from its creation. `Recorded` is what the ledger's own writes
establish whether or not the log is still readable; `Readable` adds that the
replay accepts it. Every call keeps the first, and keeps the second exactly
when it is not an overcommitting charge.
-/

namespace JlensEvolve.Kernel

open Library Contracts

/-- The files hold exactly this history, with a current head and no writer. -/
structure Recorded (ledger : DurableCostLedger) (history : List Event) (files : LedgerFiles) :
    Prop where
  campaignId : lineFree ledger.campaignId = true
  admissible : ∀ event ∈ history, event.Admissible ledger
  distinct : (history.map Event.eventId).Nodup
  header : history.head? = some (openEvent ledger)
  log : files.log = some ⟨logLines history, true⟩
  head : files.head =
    some ⟨some (headStored ledger history.length (previousSha256 (chain history))), true⟩
  lease : files.lease = false

def StoredEvent.facts (event : StoredEvent) : Event :=
  ⟨event.eventId, event.campaignId, event.body⟩

theorem chain_facts (history : List Event) : (chain history).map StoredEvent.facts = history := by
  induction history using List.reverseRecOn with
  | nil => rfl
  | append_singleton history event ih =>
    simp [ih, Event.toStored, StoredEvent.facts]

theorem reservationsOf_chain (history : List Event) :
    reservationsOf (chain history) = history.filterMap (fun event =>
      match event.body with
      | .reservation cost calls => some (event.eventId, cost, calls)
      | _ => none) := by
  conv_rhs => rw [← chain_facts history, List.filterMap_map]
  rfl

theorem chargesOf_chain (history : List Event) :
    chargesOf (chain history) = history.filterMap (fun event =>
      match event.body with
      | .charge reservationId cost calls => some (reservationId, cost, calls)
      | _ => none) := by
  conv_rhs => rw [← chain_facts history, List.filterMap_map]
  rfl

section Reading

variable {ledger : DurableCostLedger} {history : List Event} {files : LedgerFiles}

theorem Recorded.chain_nonempty (h : Recorded ledger history files) : chain history ≠ [] := by
  intro hempty
  have hlength := chain_length history
  have hheader := h.header
  rw [hempty] at hlength
  rw [List.length_eq_zero_iff.mp hlength.symm] at hheader
  cases hheader

theorem Recorded.chain_distinct (h : Recorded ledger history files) :
    ((chain history).map StoredEvent.eventId).Nodup := by
  rw [chain_eventIds]
  exact h.distinct

theorem Recorded.validateHeader (h : Recorded ledger history files) :
    Kernel.validateHeader ledger (chain history) = .ok () := by
  have hfacts : ((chain history).head?).map StoredEvent.facts = some (openEvent ledger) := by
    rw [← List.head?_map, chain_facts, h.header]
  unfold Kernel.validateHeader
  cases hhead : (chain history).head? with
  | none => simp [hhead] at hfacts
  | some header =>
    simp only [hhead, Option.map_some, Option.some.injEq] at hfacts
    obtain ⟨raw, eventId, campaignId, body, sequence, previous, sha256⟩ := header
    simp only [StoredEvent.facts, openEvent, Event.mk.injEq] at hfacts
    simp [hfacts]

theorem Recorded.loadEvents (h : Recorded ledger history files) :
    Kernel.loadEvents ledger files =
      (validateReplay ledger (chain history)).map (fun _ => chain history) := by
  have hlines := readLines_chain history h.admissible
  have hdistinct := h.chain_distinct
  have hempty : (chain history).isEmpty = false := by
    simpa using h.chain_nonempty
  unfold Kernel.loadEvents
  simp only [h.log, hlines, hempty]
  simp only [hdistinct, not_true_eq_false, if_false, Bool.not_true, Bool.false_and,
    Bool.false_eq_true]
  cases validateReplay ledger (chain history) <;> rfl

theorem Recorded.inspectHead (h : Recorded ledger history files) :
    Kernel.inspectHead ledger files.head (chain history) = .ok .current := by
  obtain ⟨last, hlast⟩ : ∃ last, (chain history).getLast? = some last :=
    ⟨_, List.getLast?_eq_some_getLast h.chain_nonempty⟩
  have hsha : previousSha256 (chain history) = last.eventSha256 := by
    simp [previousSha256, hlast]
  simp [Kernel.inspectHead, h.head, headStored, headPayload, isSha256, Json.pyEq,
    headStatus, hlast, hsha]

theorem run_readEvents (h : Recorded ledger history files) {replay : Replay}
    (hreplay : validateReplay ledger (chain history) = .ok replay) :
    (readEvents ledger).run files = .ok (chain history) files := by
  have hload := h.loadEvents
  rw [hreplay] at hload
  simp [readEvents, validateHead, hload, Except.map, h.inspectHead]

theorem run_readEventsHeld (h : Recorded ledger history files) {replay : Replay}
    (hreplay : validateReplay ledger (chain history) = .ok replay) :
    (readEventsHeld ledger).run { files with lease := true } =
      .ok (chain history) { files with lease := true } := by
  have hload : Kernel.loadEvents ledger { files with lease := true } = .ok (chain history) := by
    have hload := h.loadEvents
    rw [hreplay] at hload
    exact hload
  simp [readEventsHeld, validateHeadHeld, hload, h.inspectHead]

theorem run_appendMutation (h : Recorded ledger history files) {replay : Replay}
    (hreplay : validateReplay ledger (chain history) = .ok replay) (event : Event)
    (validate : List StoredEvent → Except LedgerError Unit) :
    (appendMutation ledger event validate).run files =
      match (chain history).find? (fun item => item.eventId = event.eventId) with
      | some prior =>
        if sameFacts prior event then .ok false files
        else .error
          (.ledgerConflict s!"conflicting immutable ledger event {event.eventId}") files
      | none =>
        match validate (chain history) with
        | .error e => .error e files
        | .ok () => .ok true (appended ledger files event (chain history)) := by
  have hread := run_readEventsHeld h hreplay
  have hlease : { files with lease := false } = files := by
    rw [← h.lease]
  unfold appendMutation writerLease
  simp only [h.lease, EStateM.run_bind, EStateM.run_get, Bool.false_eq_true, if_false,
    EStateM.run_modify, run_withCleanup, hread, h.validateHeader,
    run_check_ok]
  cases hprior : (chain history).find? (fun item => item.eventId = event.eventId) with
  | some prior =>
    by_cases hsame : sameFacts prior event = true
    · simp [hsame, hlease]
    · simp [hsame, hlease]
  | none =>
    cases validate (chain history) with
    | error e => simp [hlease]
    | ok _ =>
      simp [appendEvent, writeHead, appended, LedgerFiles.withLine, LedgerFiles.withHead, h.lease]

theorem Recorded.appended (h : Recorded ledger history files) {event : Event}
    (hevent : event.Admissible ledger) (hnew : event.eventId ∉ history.map Event.eventId)
    (hfree : event.lineFree = true) :
    Recorded ledger (history ++ [event]) (Kernel.appended ledger files event (chain history)) where
  campaignId := h.campaignId
  admissible := by
    intro other hother
    rcases List.mem_append.mp hother with hmem | hmem
    · exact h.admissible other hmem
    · rw [List.mem_singleton.mp hmem]
      exact hevent
  distinct := by
    rw [List.map_append, List.nodup_append]
    refine ⟨h.distinct, by simp, ?_⟩
    rintro a ha b hb rfl
    rw [List.map_singleton, List.mem_singleton] at hb
    exact hnew (hb ▸ ha)
  header := by
    cases history with
    | nil => cases h.header
    | cons first rest => exact h.header
  log := by
    have hwritten := written_stored event (previousSha256_chain_isSha256 history)
    rw [if_pos hfree] at hwritten
    simp [Kernel.appended, LedgerFiles.withLine, appendLine, h.log, hwritten,
      logLines_append_singleton]
  head := by
    simp [Kernel.appended, LedgerFiles.withHead, previousSha256, Event.toStored]
  lease := h.lease

end Reading

/-- The files after a call, whether it returned or raised. -/
def ledgerStep (ledger : DurableCostLedger) (files : LedgerFiles) (call : LedgerCall) :
    LedgerFiles :=
  finalState ((call.apply ledger).run files)

/-- The files right after the ledger has been created. -/
def openedFiles (ledger : DurableCostLedger) : LedgerFiles :=
  finalState ((initializeFiles ledger).run LedgerFiles.absent)

/-- The layout together with a replay that accepts it. -/
structure Readable (ledger : DurableCostLedger) (history : List Event) (files : LedgerFiles) :
    Prop extends Recorded ledger history files where
  replayed : ∃ replay, validateReplay ledger (chain history) = .ok replay

def RaisesIntegrity {α : Type} (program : LedgerM α) (files : LedgerFiles) : Prop :=
  ∃ message after, program.run files = .error (.ledgerIntegrity message) after

/-- The log is accepted by its reader, and nothing a caller does next meets an
integrity error. -/
structure Accepts (ledger : DurableCostLedger) (files : LedgerFiles) : Prop where
  read : ∃ events, loadEvents ledger files = .ok events
  snapshot : ¬ RaisesIntegrity (snapshot ledger) files
  events : ¬ RaisesIntegrity (events ledger) files
  reopen : ¬ RaisesIntegrity (initializeFiles ledger) files
  call : ∀ next : LedgerCall, ¬ RaisesIntegrity (next.apply ledger) files

section Runs

variable {ledger : DurableCostLedger} {history : List Event} {files : LedgerFiles}

theorem Readable.loadEvents (h : Readable ledger history files) :
    Kernel.loadEvents ledger files = .ok (chain history) := by
  obtain ⟨replay, hreplay⟩ := h.replayed
  rw [h.toRecorded.loadEvents, hreplay]
  rfl

theorem Recorded.readable (h : Recorded ledger history files) {events : List StoredEvent}
    (hload : Kernel.loadEvents ledger files = .ok events) : Readable ledger history files := by
  refine ⟨h, ?_⟩
  rw [h.loadEvents] at hload
  cases hreplay : validateReplay ledger (chain history) with
  | error e => simp [hreplay, Except.map] at hload
  | ok replay => exact ⟨replay, rfl⟩

theorem Readable.run_cases (h : Readable ledger history files) (call : LedgerCall) :
    (call.Admitted ledger (chain history) ∧ (call.apply ledger).run files =
        .ok true (Kernel.appended ledger files (call.event ledger) (chain history))) ∨
      (¬ call.Admitted ledger (chain history) ∧ (call.apply ledger).run files = .ok false files) ∨
      (¬ call.Admitted ledger (chain history) ∧
        ∃ e, e.isIntegrity = false ∧ (call.apply ledger).run files = .error e files) := by
  obtain ⟨replay, hreplay⟩ := h.replayed
  rcases run_apply_cases ledger call files with ⟨hadmissible, hrun⟩ | ⟨hno, e, he, hrun⟩
  · rw [run_appendMutation h.toRecorded hreplay] at hrun
    cases hprior : (chain history).find?
        (fun item => item.eventId = (call.event ledger).eventId) with
    | some prior =>
      have hmem : (call.event ledger).eventId ∈ (chain history).map StoredEvent.eventId := by
        have hid := List.find?_some hprior
        exact List.mem_map.mpr ⟨prior, List.mem_of_find?_eq_some hprior, by simpa using hid⟩
      simp only [hprior] at hrun
      by_cases hsame : sameFacts prior (call.event ledger) = true
      · rw [if_pos hsame] at hrun
        exact Or.inr (Or.inl ⟨fun hadmitted => hadmitted.new hmem, hrun⟩)
      · rw [if_neg hsame] at hrun
        exact Or.inr (Or.inr ⟨fun hadmitted => hadmitted.new hmem, _, rfl, hrun⟩)
    | none =>
      have hnew : (call.event ledger).eventId ∉ (chain history).map StoredEvent.eventId := by
        intro hmem
        obtain ⟨item, hitem, hid⟩ := List.mem_map.mp hmem
        exact List.find?_eq_none.mp hprior item hitem (by simpa using hid)
      simp only [hprior] at hrun
      cases hvalidate : call.validate ledger (chain history) with
      | error e =>
        simp only [hvalidate] at hrun
        refine Or.inr (Or.inr ⟨fun hadmitted => ?_, e, ?_, hrun⟩)
        · rw [hadmitted.validate] at hvalidate
          cases hvalidate
        · exact validate_error_not_integrity h.validateHeader call hvalidate
      | ok _ =>
        simp only [hvalidate] at hrun
        exact Or.inl ⟨⟨hadmissible, hnew, hvalidate⟩, hrun⟩
  · exact Or.inr (Or.inr ⟨fun hadmitted => hno hadmitted.admissible, e, he, hrun⟩)

theorem Readable.not_raisesIntegrity_call (h : Readable ledger history files)
    (call : LedgerCall) : ¬ RaisesIntegrity (call.apply ledger) files := by
  rintro ⟨message, after, hrun⟩
  rcases h.run_cases call with ⟨-, hok⟩ | ⟨-, hok⟩ | ⟨-, e, he, herror⟩
  · rw [hok] at hrun
    cases hrun
  · rw [hok] at hrun
    cases hrun
  · rw [herror] at hrun
    cases hrun
    cases he

theorem Readable.accepts (h : Readable ledger history files) : Accepts ledger files := by
  obtain ⟨replay, hreplay⟩ := h.replayed
  have hread := run_readEvents h.toRecorded hreplay
  refine ⟨⟨_, h.loadEvents⟩, ?_, ?_, ?_, h.not_raisesIntegrity_call⟩
  · rintro ⟨message, after, hrun⟩
    simp [Kernel.snapshot, hread, checkedSnapshot, h.validateHeader, Except.map] at hrun
  · rintro ⟨message, after, hrun⟩
    simp [Kernel.events, hread] at hrun
  · rintro ⟨message, after, hrun⟩
    simp [initializeFiles, h.log, hread, h.validateHeader] at hrun

theorem openedFiles_eq (ledger : DurableCostLedger) :
    openedFiles ledger = Kernel.appended ledger LedgerFiles.absent (openEvent ledger) [] := by
  simp [openedFiles, initializeFiles, writerLease, LedgerFiles.absent, run_withCleanup,
    appendEvent, writeHead, Kernel.appended, LedgerFiles.withLine, LedgerFiles.withHead]

theorem openedFiles_readable (ledger : DurableCostLedger)
    (hfree : lineFree ledger.campaignId = true) :
    Readable ledger [openEvent ledger] (openedFiles ledger) := by
  have hfiles := openedFiles_eq ledger
  have hrecorded : Recorded ledger [openEvent ledger] (openedFiles ledger) := by
    rw [hfiles]
    constructor
    · exact hfree
    · intro event hevent
      rw [List.mem_singleton.mp hevent]
      have hid : isText "ledger-open" = true := by decide
      exact ⟨hid, rfl, ledger.maxCostCny_nonneg, ledger.maxModelCalls_nonneg⟩
    · simp
    · rfl
    · have hopening : (openEvent ledger).lineFree = true := by
        have hid : lineFree "ledger-open" = true := by decide
        simp [Event.lineFree, openEvent, hid, hfree]
      have hwritten := written_stored (openEvent ledger) (previousSha256_chain_isSha256 [])
      rw [if_pos hopening, chain_nil] at hwritten
      simp [Kernel.appended, LedgerFiles.withLine, appendLine, LedgerFiles.absent, logLines, chain,
        hwritten, Event.toStored]
    · simp [Kernel.appended, LedgerFiles.withHead, chain, previousSha256, Event.toStored]
    · rfl
  refine ⟨hrecorded, Replay.start, ?_⟩
  have hheader := hrecorded.validateHeader
  unfold validateReplay
  rw [hheader]
  rfl

theorem Readable.grown_iff (h : Readable ledger history files) {call : LedgerCall}
    (hadmitted : call.Admitted ledger (chain history)) :
    (∃ replay, validateReplay ledger (chain (history ++ [call.event ledger])) = .ok replay) ↔
      ¬ Overcommits ledger files call := by
  rw [chain_append_singleton]
  exact Kernel.grown_iff h.loadEvents hadmitted

theorem Readable.admitted_of_overcommits (h : Readable ledger history files)
    {call : LedgerCall} (hover : Overcommits ledger files call) :
    call.Admitted ledger (chain history) := by
  cases call with
  | reserve reservationId cost calls => exact hover.elim
  | record reservationId resultId cost calls =>
    obtain ⟨events, amounts, hload, hrid, hresult, hnonneg, hcallsNonneg, hnew, hmem, hcost,
      hcalls, -⟩ := hover
    rw [h.loadEvents] at hload
    cases hload
    exact ⟨⟨hresult, rfl, hrid, hnonneg, hcallsNonneg⟩, hnew,
      (validateCharge_ok_iff h.validateHeader reservationId cost calls).mpr
        ⟨⟨amounts, hmem⟩, hcost, hcalls⟩⟩

theorem Recorded.event_lineFree (h : Recorded ledger history files) {call : LedgerCall}
    (hfree : call.lineFree = true) : (call.event ledger).lineFree = true := by
  rw [call.event_lineFree, h.campaignId, hfree]
  rfl

theorem Readable.recorded_step (h : Readable ledger history files) {call : LedgerCall}
    (hadmitted : call.Admitted ledger (chain history)) (hfree : call.lineFree = true) :
    Recorded ledger (history ++ [call.event ledger])
      (Kernel.appended ledger files (call.event ledger) (chain history)) := by
  refine h.toRecorded.appended hadmitted.admissible ?_ (h.toRecorded.event_lineFree hfree)
  rw [← chain_eventIds]
  exact hadmitted.new

theorem Readable.step_admitted (h : Readable ledger history files) (call : LedgerCall)
    (hadmitted : call.Admitted ledger (chain history)) (hfree : call.lineFree = true)
    (hcall : ¬ Overcommits ledger files call) :
    Readable ledger (history ++ [call.event ledger]) (ledgerStep ledger files call) := by
  rcases h.run_cases call with ⟨-, hrun⟩ | ⟨hno, -⟩ | ⟨hno, -⟩
  · rw [ledgerStep, hrun]
    exact ⟨h.recorded_step hadmitted hfree, (h.grown_iff hadmitted).mpr hcall⟩
  · exact absurd hadmitted hno
  · exact absurd hadmitted hno

theorem Readable.step (h : Readable ledger history files) (call : LedgerCall)
    (hfree : call.lineFree = true) (hcall : ¬ Overcommits ledger files call) :
    ∃ grown, Readable ledger grown (ledgerStep ledger files call) := by
  rcases h.run_cases call with ⟨hadmitted, -⟩ | ⟨-, hrun⟩ | ⟨-, e, -, hrun⟩
  · exact ⟨_, h.step_admitted call hadmitted hfree hcall⟩
  · rw [ledgerStep, hrun]
    exact ⟨history, h⟩
  · rw [ledgerStep, hrun]
    exact ⟨history, h⟩

theorem Readable.unreadable_of_overcommits (h : Readable ledger history files)
    {call : LedgerCall} (hfree : call.lineFree = true) (hover : Overcommits ledger files call) :
    ¬ ∃ events, Kernel.loadEvents ledger (ledgerStep ledger files call) = .ok events := by
  rintro ⟨events, hload⟩
  have hadmitted := h.admitted_of_overcommits hover
  have hrun : (call.apply ledger).run files =
      .ok true (Kernel.appended ledger files (call.event ledger) (chain history)) := by
    rcases h.run_cases call with ⟨-, hrun⟩ | ⟨hno, -⟩ | ⟨hno, -⟩
    · exact hrun
    · exact absurd hadmitted hno
    · exact absurd hadmitted hno
  rw [ledgerStep, hrun, finalState_ok] at hload
  exact (h.grown_iff hadmitted).mp ((h.recorded_step hadmitted hfree).readable hload).replayed hover

end Runs

/-- The ledger created for any limits, its ids free of line boundaries, stays
acceptable to its own reader along a run of arbitrary calls exactly when no call
of the run is an overcommitting charge in the state it meets. -/
theorem ledger_accepts_iff_no_overcommit (ledger : DurableCostLedger)
    (hcampaign : lineFree ledger.campaignId = true) (calls : List LedgerCall)
    (hcalls : ∀ call ∈ calls, call.lineFree = true) :
    Along (Accepts ledger) (ledgerStep ledger) (openedFiles ledger) calls ↔
      Guarded (fun files call => ¬ Overcommits ledger files call) (ledgerStep ledger)
        (openedFiles ledger) calls := by
  refine along_iff_guarded_of_allowed (I := fun files => ∃ history, Readable ledger history files)
    ?_ ?_ ?_ _ _ hcalls ⟨_, openedFiles_readable ledger hcampaign⟩
  · rintro files ⟨history, h⟩
    exact h.accepts
  · rintro files call hfree ⟨history, h⟩ hcall
    exact h.step call hfree hcall
  · rintro files call hfree ⟨history, h⟩ haccepts hover
    exact h.unreadable_of_overcommits hfree hover haccepts.read

def tenUnitLedger : DurableCostLedger :=
  ⟨"campaign", 10, 10, by decide, by decide, by decide⟩

/-- Two reservations of five, and a charge of eight against the first: eight
fits the ten units, but not beside the five still reserved. -/
def overcommittingCalls : List LedgerCall :=
  [.reserve "first" 5 1, .reserve "second" 5 1, .record "first" "result" 8 1]

/-- Reservations alone never make the log unreadable. -/
theorem ledger_accepts_reservations :
    Along (Accepts tenUnitLedger) (ledgerStep tenUnitLedger) (openedFiles tenUnitLedger)
      [.reserve "first" 5 1, .reserve "second" 5 1] :=
  (ledger_accepts_iff_no_overcommit tenUnitLedger (by decide) _ (by decide)).mpr
    ⟨id, id, trivial⟩

theorem ledger_rejects_its_own_log :
    ¬ Along (Accepts tenUnitLedger) (ledgerStep tenUnitLedger) (openedFiles tenUnitLedger)
      overcommittingCalls := by
  rintro ⟨-, -, -, haccepts⟩
  have hopened := openedFiles_readable tenUnitLedger (by decide)
  have hfirst := hopened.step_admitted (.reserve "first" 5 1)
    ⟨⟨show isText "first" = true by decide, rfl, ⟨by norm_num, by norm_num⟩⟩,
      by rw [chain_eventIds]; decide,
      (validateReservation_ok_iff hopened.validateHeader 5 1).mpr (by
        simp only [snapshotOf, outstandingOf, reservationsOf_chain, chargesOf_chain]
        decide +kernel)⟩ (by decide) id
  have hsecond := hfirst.step_admitted (.reserve "second" 5 1)
    ⟨⟨show isText "second" = true by decide, rfl, ⟨by norm_num, by norm_num⟩⟩,
      by rw [chain_eventIds]; decide,
      (validateReservation_ok_iff hfirst.validateHeader 5 1).mpr (by
        simp only [snapshotOf, outstandingOf, reservationsOf_chain, chargesOf_chain]
        decide +kernel)⟩ (by decide) id
  have hover : Overcommits tenUnitLedger
      (ledgerStep tenUnitLedger (ledgerStep tenUnitLedger (openedFiles tenUnitLedger)
        (.reserve "first" 5 1)) (.reserve "second" 5 1)) (.record "first" "result" 8 1) := by
    refine ⟨_, (5, 1), hsecond.loadEvents, by decide, by decide, by decide, by decide, ?_⟩
    rw [chain_eventIds]
    simp only [snapshotOf, outstandingOf, reservationsOf_chain, chargesOf_chain]
    decide +kernel
  exact hsecond.unreadable_of_overcommits (by decide) hover haccepts.read

end JlensEvolve.Kernel
