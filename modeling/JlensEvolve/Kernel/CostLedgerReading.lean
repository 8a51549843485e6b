import JlensEvolve.Kernel.CostLedgerCalls

/-!
Logs that the reader accepts, wherever they come from: what acceptance says of
each line, how the head file stands to them, and what one more line written by
the ledger makes of an accepted log.
-/

namespace JlensEvolve.Kernel

open Library Contracts

/-- The object the event's own hash is taken over. -/
def StoredEvent.payload (event : StoredEvent) : List (String × Json) :=
  event.raw.filter (·.1 ≠ "event_sha256")

/-- What the reader has checked of an event it read after `events`. -/
structure StoredEvent.Follows (event : StoredEvent) (events : List StoredEvent) : Prop where
  eventId : readText event.raw "event_id" = some event.eventId
  sequence : event.sequence = events.length
  previous : event.previousEventSha256 = previousSha256 events
  previousField : Json.field? event.raw "previous_event_sha256" =
    some (.str event.previousEventSha256)
  eventSha256 : event.eventSha256 = Json.contentSha256 (.obj event.payload)

/-- The lines that decode to the events. -/
def rawLines (events : List StoredEvent) : List (Option Json) :=
  events.map (fun event => some (.obj event.raw))

theorem readSha256_eq_some {fields : List (String × Json)} {key value : String}
    (h : readSha256 fields key = some value) : Json.field? fields key = some (.str value) := by
  unfold readSha256 at h
  split at h
  · rename_i found hfield
    split at h
    · cases h
      exact hfield
    · cases h
  · cases h

theorem validateEvent_eq_some {ledger : DurableCostLedger} {raw : List (String × Json)}
    {sha256 : String} {event : StoredEvent}
    (h : validateEvent ledger raw sha256 = some event) :
    event.raw = raw ∧ event.eventSha256 = sha256 ∧
      readText raw "event_id" = some event.eventId ∧
      Json.field? raw "previous_event_sha256" = some (.str event.previousEventSha256) := by
  simp only [validateEvent, Option.bind_eq_some_iff] at h
  obtain ⟨eventId, hid, sequence, -, previous, hprevious, h⟩ := h
  split at h
  · simp only [Option.map_eq_some_iff] at h
    obtain ⟨body, -, rfl⟩ := h
    exact ⟨rfl, rfl, hid, readSha256_eq_some hprevious⟩
  · cases h

theorem readLine_eq_ok {ledger : DurableCostLedger} {lineNumber : Nat} {events : List StoredEvent}
    {line : Option Json} {event : StoredEvent}
    (h : readLine ledger lineNumber events line = .ok event) :
    line = some (.obj event.raw) ∧ event.Follows events := by
  unfold readLine at h
  split at h
  · split at h
    · split at h
      · cases h
      · rename_i raw _ expected hexpected hhash
        split at h
        · cases h
        · rename_i read hread
          split at h
          · cases h
          · rename_i hsequence
            split at h
            · cases h
            · rename_i hprevious
              cases h
              obtain ⟨hraw, hsha256, hid, hfield⟩ := validateEvent_eq_some hread
              simp only [Bool.or_eq_true, not_or, decide_eq_true_eq, not_not] at hhash
              refine ⟨by rw [hraw], ?_, not_not.mp hsequence, not_not.mp hprevious, ?_, ?_⟩
              · rw [hraw]
                exact hid
              · rw [hraw]
                exact hfield
              · rw [StoredEvent.payload, hraw, hsha256]
                exact hhash.2.symm
    · cases h
  · cases h

theorem StoredEvent.Follows.isSha256 {event : StoredEvent} {events : List StoredEvent}
    (h : event.Follows events) : Contracts.isSha256 event.eventSha256 = true := by
  rw [h.eventSha256]
  exact Json.contentSha256_isSha256 _

/-- Each event follows the ones before it. -/
def Chained (events : List StoredEvent) : Prop :=
  ∀ before event after, events = before ++ event :: after → event.Follows before

theorem chained_append_singleton {events : List StoredEvent} {event : StoredEvent} :
    Chained (events ++ [event]) ↔ Chained events ∧ event.Follows events := by
  constructor
  · intro h
    refine ⟨?_, h events event [] rfl⟩
    intro before other after heq
    apply h before other (after ++ [event])
    rw [heq]
    simp
  · rintro ⟨hevents, hevent⟩ before other after heq
    cases after using List.reverseRecOn with
    | nil =>
      obtain ⟨rfl, hlast⟩ := List.append_inj' heq rfl
      cases hlast
      exact hevent
    | append_singleton rest last =>
      rw [← List.cons_append, ← List.append_assoc] at heq
      obtain ⟨hinit, -⟩ := List.append_inj' heq rfl
      exact hevents before other rest hinit

theorem readLines_eq_ok {ledger : DurableCostLedger} {lineNumber : Nat}
    {first events : List StoredEvent} {lines : List (Option Json)} (hfirst : Chained first)
    (h : readLines ledger lineNumber first lines = .ok events) :
    Chained events ∧ rawLines events = rawLines first ++ lines := by
  induction lines generalizing lineNumber first with
  | nil =>
    cases h
    exact ⟨hfirst, (List.append_nil _).symm⟩
  | cons line rest ih =>
    simp only [readLines] at h
    cases hline : readLine ledger lineNumber first line with
    | error e =>
      rw [hline] at h
      cases h
    | ok event =>
      rw [hline] at h
      obtain ⟨rfl, hfollows⟩ := readLine_eq_ok hline
      obtain ⟨hchained, hlines⟩ := ih (chained_append_singleton.mpr ⟨hfirst, hfollows⟩) h
      refine ⟨hchained, ?_⟩
      rw [hlines]
      simp [rawLines]

theorem readLines_prefix {ledger : DurableCostLedger} {lineNumber : Nat}
    {first events : List StoredEvent} {lines : List (Option Json)}
    (h : readLines ledger lineNumber first lines = .ok events) : first <+: events := by
  induction lines generalizing lineNumber first with
  | nil =>
    cases h
    exact List.prefix_rfl
  | cons line rest ih =>
    simp only [readLines] at h
    cases hline : readLine ledger lineNumber first line with
    | error e =>
      rw [hline] at h
      cases h
    | ok event =>
      rw [hline] at h
      exact (List.prefix_append first [event]).trans (ih h)

theorem chained_nil : Chained [] := by
  intro before event after h
  simp at h

/-- Acceptance of a log, as the facts the reader has established. -/
structure Accepted (ledger : DurableCostLedger) (events : List StoredEvent) : Prop where
  read : readLines ledger 1 [] (rawLines events) = .ok events
  nonempty : events ≠ []
  distinct : (events.map StoredEvent.eventId).Nodup
  replayed : ∃ replay, validateReplay ledger events = .ok replay

theorem loadEvents_ok_iff {ledger : DurableCostLedger} {files : LedgerFiles}
    {events : List StoredEvent} :
    loadEvents ledger files = .ok events ↔
      files.log = some ⟨rawLines events, true⟩ ∧ Accepted ledger events := by
  constructor
  · intro h
    unfold loadEvents at h
    split at h
    · cases h
    · rename_i log hlog
      split at h
      · cases h
      · rename_i hterminated
        cases hread : readLines ledger 1 [] log.lines with
        | error e => simp [hread] at h
        | ok read =>
          simp only [hread] at h
          split at h
          · cases h
          · rename_i hnonempty
            split at h
            · cases h
            · rename_i hdistinct
              cases hreplay : validateReplay ledger read with
              | error e => simp [hreplay] at h
              | ok replay =>
                rw [hreplay] at h
                cases h
                obtain ⟨-, hlines⟩ := readLines_eq_ok chained_nil hread
                have hne : events ≠ [] := by simpa using hnonempty
                have hlines : log.lines = rawLines events := by
                  rw [hlines]
                  rfl
                have hend : log.terminated = true := by
                  simpa [hlines, rawLines, hne] using hterminated
                refine ⟨?_, hlines ▸ hread, hne, not_not.mp hdistinct, replay, hreplay⟩
                rw [hlog, ← hlines, ← hend]
  · rintro ⟨hlog, hread, hne, hdistinct, replay, hreplay⟩
    have hempty : events.isEmpty = false := by simpa using hne
    simp [loadEvents, hlog, hread, hempty, hdistinct, hreplay]

section Accepted

variable {ledger : DurableCostLedger} {events : List StoredEvent}

theorem Accepted.chained (h : Accepted ledger events) : Chained events :=
  (readLines_eq_ok chained_nil h.read).1

theorem Accepted.validateHeader (h : Accepted ledger events) :
    Kernel.validateHeader ledger events = .ok () := by
  obtain ⟨replay, hreplay⟩ := h.replayed
  exact validateReplay_header hreplay

theorem Chained.previousSha256_isSha256 (h : Chained events) :
    isSha256 (previousSha256 events) = true := by
  cases events using List.reverseRecOn with
  | nil => decide
  | append_singleton before last =>
    have hlast := (chained_append_singleton.mp h).2
    simpa [previousSha256] using hlast.isSha256

theorem readLines_written (h : Accepted ledger events) {event : Event}
    (hevent : event.Admissible ledger) :
    readLines ledger 1 [] (rawLines events ++ AppendLog.written (.obj (event.stored events))) =
      if event.lineFree then .ok (events ++ [event.toStored events])
      else .error (.ledgerIntegrity s!"invalid cost ledger event at line {events.length + 1}") := by
  have hprevious := h.chained.previousSha256_isSha256
  have hlength : 1 + (rawLines events).length = events.length + 1 := by
    simp [rawLines, Nat.add_comm]
  rw [readLines_append, h.read, written_stored event hprevious, hlength]
  cases event.lineFree with
  | true =>
    have hline := readLine_stored hevent (events.length + 1) hprevious
    simp [Except.bind, readLines, hline]
  | false =>
    simp [Except.bind, readLines, readLine]

theorem accepted_append_iff (h : Accepted ledger events) {event : Event}
    (hevent : event.Admissible ledger) (hnew : event.eventId ∉ events.map StoredEvent.eventId)
    (hfree : event.lineFree = true) :
    Accepted ledger (events ++ [event.toStored events]) ↔
      ∃ replay, validateReplay ledger (events ++ [event.toStored events]) = .ok replay := by
  constructor
  · exact Accepted.replayed
  · intro hreplayed
    have hread := readLines_written h hevent
    rw [if_pos hfree, written_stored event h.chained.previousSha256_isSha256, if_pos hfree] at hread
    refine ⟨?_, by simp, ?_, hreplayed⟩
    · simpa [rawLines, Event.toStored] using hread
    · rw [List.map_append, List.nodup_append]
      refine ⟨h.distinct, by simp, ?_⟩
      intro a ha b hb
      rw [List.map_singleton, List.mem_singleton] at hb
      rintro rfl
      exact hnew (by rw [hb] at ha; exact ha)

/-- The log that has grown by a line of the ledger is read as the old events
and the new one, or it is refused: because the line does not stay whole, or
because the replay refuses the new event. -/
theorem loadEvents_withLine_iff {files : LedgerFiles}
    (hload : loadEvents ledger files = .ok events) {event : Event}
    (hevent : event.Admissible ledger) (hnew : event.eventId ∉ events.map StoredEvent.eventId)
    (all : List StoredEvent) :
    loadEvents ledger (files.withLine event events) = .ok all ↔
      all = events ++ [event.toStored events] ∧ event.lineFree = true ∧
        ∃ replay, validateReplay ledger (events ++ [event.toStored events]) = .ok replay := by
  obtain ⟨hlog, haccepted⟩ := loadEvents_ok_iff.mp hload
  have hread := readLines_written haccepted hevent
  have hgrown : (files.withLine event events).log =
      some ⟨rawLines events ++ AppendLog.written (.obj (event.stored events)), true⟩ := by
    simp [LedgerFiles.withLine, appendLine, hlog]
  rw [loadEvents_ok_iff, hgrown]
  constructor
  · rintro ⟨hlines, hall⟩
    simp only [Option.some.injEq, LogFile.mk.injEq, and_true] at hlines
    rw [hlines, hall.read] at hread
    cases hfree : event.lineFree with
    | false =>
      rw [hfree] at hread
      cases hread
    | true =>
      rw [hfree, if_pos rfl] at hread
      cases hread
      exact ⟨rfl, rfl, hall.replayed⟩
  · rintro ⟨rfl, hfree, hreplayed⟩
    refine ⟨?_, (accepted_append_iff haccepted hevent hnew hfree).mpr hreplayed⟩
    rw [written_stored event haccepted.chained.previousSha256_isSha256, if_pos hfree]
    simp [rawLines, Event.toStored]

theorem grown_iff {files : LedgerFiles} (hload : loadEvents ledger files = .ok events)
    {call : LedgerCall} (hadmitted : call.Admitted ledger events) :
    (∃ replay, validateReplay ledger (events ++ [(call.event ledger).toStored events]) =
        .ok replay) ↔
      ¬ Overcommits ledger files call := by
  have haccepted := (loadEvents_ok_iff.mp hload).2
  have hdistinct := haccepted.distinct
  obtain ⟨replay, hreplay⟩ := haccepted.replayed
  cases call with
  | reserve reservationId cost calls =>
    have haccepted := reservation_accepted
      (((LedgerCall.reserve reservationId cost calls).event ledger).toStored events)
      hdistinct hreplay hadmitted.new rfl hadmitted.validate
    exact ⟨fun _ => id, fun _ => haccepted⟩
  | record reservationId resultId cost calls =>
    obtain ⟨⟨amounts, hmem⟩, hcost, hcalls⟩ :=
      (validateCharge_ok_iff haccepted.validateHeader reservationId cost calls).mp hadmitted.validate
    have hiff := fun (amounts : ℚ × Int)
        (hmem : (reservationId, amounts) ∈ outstandingOf events) =>
      charge_accepted_iff
        (((LedgerCall.record reservationId resultId cost calls).event ledger).toStored
          events)
        hdistinct hreplay hadmitted.new rfl hmem
    constructor
    · intro haccepted hover
      obtain ⟨read, amounts, hread, -, -, -, -, -, hmem, -, -, hexceeds⟩ := hover
      rw [hload] at hread
      cases hread
      obtain ⟨hc, hn⟩ := (hiff amounts hmem).mp haccepted
      rcases hexceeds with hexceeds | hexceeds
      · exact absurd hexceeds (not_lt.mpr hc)
      · exact absurd hexceeds (not_lt.mpr hn)
    · intro hover
      refine (hiff amounts hmem).mpr ⟨?_, ?_⟩
      · by_contra hexceeds
        exact hover ⟨_, amounts, hload, hadmitted.admissible.body.1,
          hadmitted.admissible.eventId, hadmitted.admissible.body.2.1,
          hadmitted.admissible.body.2.2, hadmitted.new, hmem, hcost, hcalls,
          Or.inl (not_le.mp hexceeds)⟩
      · by_contra hexceeds
        exact hover ⟨_, amounts, hload, hadmitted.admissible.body.1,
          hadmitted.admissible.eventId, hadmitted.admissible.body.2.1,
          hadmitted.admissible.body.2.2, hadmitted.new, hmem, hcost, hcalls,
          Or.inr (not_le.mp hexceeds)⟩

/-- The files after one event has been appended and the head replaced. -/
def appended (ledger : DurableCostLedger) (files : LedgerFiles) (event : Event)
    (events : List StoredEvent) : LedgerFiles :=
  (files.withLine event events).withHead ledger events.length
    (Json.contentSha256 (.obj (event.chained events)))

/-- The head file the ledger writes for these events. -/
def headFile (ledger : DurableCostLedger) (events : List StoredEvent) : HeadFile :=
  ⟨some (headStored ledger events.length (previousSha256 events)), true⟩

theorem previousSha256_of_getLast? {last : StoredEvent} (h : events.getLast? = some last) :
    previousSha256 events = last.eventSha256 := by
  simp [previousSha256, h]

theorem inspectHead_current (hne : events ≠ []) :
    inspectHead ledger (some (headFile ledger events)) events = .ok .current := by
  have hlast := List.getLast?_eq_some_getLast hne
  simp [inspectHead, headFile, headStored, headPayload, isSha256, Json.pyEq, headStatus, hlast,
    previousSha256]

theorem inspectHead_behind (hne : events ≠ []) (event : StoredEvent) :
    inspectHead ledger (some (headFile ledger events)) (events ++ [event]) =
      .ok .oneEventBehind := by
  have hlast := List.getLast?_eq_some_getLast hne
  have hlength : 1 ≤ events.length := List.length_pos_of_ne_nil hne
  have hindex : (events ++ [event])[events.length - 1]? = some (events.getLast hne) := by
    rw [List.getElem?_append_left (by omega), ← List.getLast?_eq_getElem?, hlast]
  have hstatus : headStatus (.obj (headPayload ledger events.length (previousSha256 events)))
      (events ++ [event]) = .oneEventBehind := by
    have hcount : (Json.obj (headPayload ledger events.length (previousSha256 events))).get?
        "event_count" = some (.int events.length) := by simp [headPayload]
    have hsha256 : (Json.obj (headPayload ledger events.length (previousSha256 events))).get?
        "head_event_sha256" = some (.str (events.getLast hne).eventSha256) := by
      simp [headPayload, previousSha256, hlast]
    unfold headStatus
    rw [hcount, hsha256]
    simp only
    rw [if_neg, if_pos]
    · refine ⟨by omega, by simp, ?_⟩
      rw [Int.toNat_natCast, hindex]
      rfl
    · rintro ⟨hsame, -⟩
      simp [Json.pyEq, Json.comparable] at hsame
  simpa [inspectHead, headFile, headStored, headPayload, isSha256] using hstatus

/-- The files after the head has been brought up to the events. -/
def LedgerFiles.anchored (files : LedgerFiles) (ledger : DurableCostLedger)
    (events : List StoredEvent) : LedgerFiles :=
  { files with head := some (headFile ledger events) }

theorem withHead_last (files : LedgerFiles) (hchained : Chained events) {last : StoredEvent}
    (hlast : events.getLast? = some last) :
    files.withHead ledger last.sequence last.eventSha256 = files.anchored ledger events := by
  cases events using List.reverseRecOn with
  | nil => cases hlast
  | append_singleton before event =>
    rw [List.getLast?_concat, Option.some.injEq] at hlast
    subst hlast
    have hfollows := (chained_append_singleton.mp hchained).2
    simp [LedgerFiles.withHead, LedgerFiles.anchored, headFile, hfollows.sequence,
      previousSha256_of_getLast?]

theorem run_validateHeadHeld_ok_iff (haccepted : Accepted ledger events)
    {files after : LedgerFiles} :
    (validateHeadHeld ledger events).run files = .ok () after ↔
      inspectHead ledger files.head events = .ok .current ∧ after = files ∨
        inspectHead ledger files.head events = .ok .oneEventBehind ∧
          after = files.anchored ledger events := by
  obtain ⟨last, hlast⟩ : ∃ last, events.getLast? = some last :=
    ⟨_, List.getLast?_eq_some_getLast haccepted.nonempty⟩
  have hwrite : (writeHead ledger last.sequence last.eventSha256).run files =
      .ok () (files.anchored ledger events) := by
    rw [← withHead_last files haccepted.chained hlast]
    rfl
  simp only [validateHeadHeld, EStateM.run_bind, EStateM.run_get]
  cases hstatus : inspectHead ledger files.head events with
  | error e => simp
  | ok status =>
    cases status with
    | current => simp [eq_comm]
    | oneEventBehind => simp [hlast, hwrite, eq_comm]
    | mismatch => simp

theorem run_readEventsHeld_ok_iff {files after : LedgerFiles} :
    (readEventsHeld ledger).run files = .ok events after ↔
      loadEvents ledger files = .ok events ∧
        (inspectHead ledger files.head events = .ok .current ∧ after = files ∨
          inspectHead ledger files.head events = .ok .oneEventBehind ∧
            after = files.anchored ledger events) := by
  simp only [readEventsHeld, run_bind_ok_iff, EStateM.run_get, EStateM.Result.ok.injEq,
    run_check_ok_iff]
  constructor
  · rintro ⟨_, _, ⟨rfl, rfl⟩, read, _, ⟨hload, rfl⟩, _, middle, hhead, hreturn⟩
    cases hreturn
    exact ⟨hload, (run_validateHeadHeld_ok_iff (loadEvents_ok_iff.mp hload).2).mp hhead⟩
  · rintro ⟨hload, hhead⟩
    exact ⟨_, _, ⟨rfl, rfl⟩, _, _, ⟨hload, rfl⟩, _, _,
      (run_validateHeadHeld_ok_iff (loadEvents_ok_iff.mp hload).2).mpr hhead, rfl⟩

theorem run_writerLease_ok_iff {α : Type} (body : LedgerM α) (files after : LedgerFiles) (a : α) :
    (writerLease body).run files = .ok a after ↔
      files.lease = false ∧ ∃ middle, body.run { files with lease := true } = .ok a middle ∧
        after = { middle with lease := false } := by
  obtain ⟨log, head, lease⟩ := files
  cases lease with
  | true => simp [writerLease, EStateM.run_bind]
  | false =>
    simp only [writerLease, EStateM.run_bind, EStateM.run_get, Bool.false_eq_true, if_false,
      EStateM.run_modify, run_withCleanup, true_and]
    cases body.run ⟨log, head, true⟩ with
    | ok b middle => simp [eq_comm]
    | error e middle => simp

theorem run_readEvents_ok_iff {files after : LedgerFiles} :
    (readEvents ledger).run files = .ok events after ↔
      loadEvents ledger files = .ok events ∧
        (inspectHead ledger files.head events = .ok .current ∧ after = files ∨
          inspectHead ledger files.head events = .ok .oneEventBehind ∧ files.lease = false ∧
            after = files.anchored ledger events) := by
  have hhead : ∀ read, loadEvents ledger files = .ok read →
      ((validateHead ledger read).run files = .ok () after ↔
        inspectHead ledger files.head read = .ok .current ∧ after = files ∨
          inspectHead ledger files.head read = .ok .oneEventBehind ∧ files.lease = false ∧
            after = files.anchored ledger read) := by
    intro read hload
    obtain ⟨hlog, haccepted⟩ := loadEvents_ok_iff.mp hload
    simp only [validateHead, EStateM.run_bind, EStateM.run_get]
    cases hstatus : inspectHead ledger files.head read with
    | error e => simp
    | ok status =>
      cases status with
      | current =>
        constructor
        · intro hrun
          cases hrun
          exact Or.inl ⟨rfl, rfl⟩
        · rintro (⟨-, rfl⟩ | ⟨hstatus, -⟩)
          · rfl
          · cases hstatus
      | mismatch => simp
      | oneEventBehind =>
        have hreload : loadEvents ledger { files with lease := true } = .ok read :=
          loadEvents_ok_iff.mpr ⟨hlog, haccepted⟩
        have hrepair : (validateHeadHeld ledger read).run { files with lease := true } =
            .ok () ({ files with lease := true }.anchored ledger read) :=
          (run_validateHeadHeld_ok_iff haccepted).mpr (Or.inr ⟨hstatus, rfl⟩)
        rw [run_check_ok]
        simp only [run_writerLease_ok_iff, EStateM.run_bind, EStateM.run_get, hreload,
          run_check_ok, hrepair]
        constructor
        · rintro ⟨hlease, middle, hmiddle, rfl⟩
          cases hmiddle
          refine Or.inr ⟨trivial, hlease, ?_⟩
          simp [LedgerFiles.anchored, hlease]
        · rintro (⟨hstatus, -⟩ | ⟨-, hlease, rfl⟩)
          · cases hstatus
          · refine ⟨hlease, _, rfl, ?_⟩
            simp [LedgerFiles.anchored, hlease]
  simp only [readEvents, run_bind_ok_iff, EStateM.run_get, EStateM.Result.ok.injEq,
    run_check_ok_iff]
  constructor
  · rintro ⟨_, _, ⟨rfl, rfl⟩, read, _, ⟨hload, rfl⟩, _, middle, hrun, hreturn⟩
    cases hreturn
    exact ⟨hload, (hhead _ hload).mp hrun⟩
  · rintro ⟨hload, hstatus⟩
    exact ⟨_, _, ⟨rfl, rfl⟩, _, _, ⟨hload, rfl⟩, _, _, (hhead _ hload).mpr hstatus, rfl⟩

theorem appended_head (files : LedgerFiles) (event : Event) :
    (appended ledger files event events).head =
      some (headFile ledger (events ++ [event.toStored events])) := by
  simp [appended, LedgerFiles.withHead, headFile, previousSha256, Event.toStored]

end Accepted

end JlensEvolve.Kernel
