import JlensEvolve.Kernel.CostLedger

/-!
What the ledger's own writes look like to its reader. A history of admissible
events is laid out as a hash chain by `chain`; the reader decodes that layout
back to exactly the chain, whatever the history. Only the budget replay can
still refuse it, which is the subject of the closure module.
-/

namespace JlensEvolve.Kernel

open Library Contracts

/-- An event the argument checks of `reserve`, `record` or the constructor let
through. -/
structure Event.Admissible (ledger : DurableCostLedger) (event : Event) : Prop where
  eventId : isText event.eventId = true
  campaignId : event.campaignId = ledger.campaignId
  body : match event.body with
    | .opened cost calls | .reservation cost calls => 0 ≤ cost ∧ 0 ≤ calls
    | .charge reservationId cost calls => isText reservationId = true ∧ 0 ≤ cost ∧ 0 ≤ calls

/-- None of the texts of the event breaks the line it is written on. -/
def Event.lineFree (event : Event) : Bool :=
  Library.lineFree event.eventId && Library.lineFree event.campaignId &&
    match event.body with
    | .charge reservationId _ _ => Library.lineFree reservationId
    | _ => true

/-- The event as the reader returns it when it was appended after `events`. -/
def Event.toStored (event : Event) (events : List StoredEvent) : StoredEvent :=
  ⟨event.stored events, event.eventId, event.campaignId, event.body, events.length,
    previousSha256 events, Json.contentSha256 (.obj (event.chained events))⟩

/-- The stored form of a whole history. -/
def chain (history : List Event) : List StoredEvent :=
  history.foldl (fun events event => events ++ [event.toStored events]) []

def logLines (history : List Event) : List (Option Json) :=
  (chain history).map (fun event => some (.obj event.raw))

@[simp] theorem chain_nil : chain [] = [] := rfl

@[simp] theorem chain_append_singleton (history : List Event) (event : Event) :
    chain (history ++ [event]) = chain history ++ [event.toStored (chain history)] := by
  simp [chain]

theorem logLines_append_singleton (history : List Event) (event : Event) :
    logLines (history ++ [event]) =
      logLines history ++ [some (.obj (event.stored (chain history)))] := by
  simp [logLines, Event.toStored]

@[simp] theorem chain_length (history : List Event) :
    (chain history).length = history.length := by
  induction history using List.reverseRecOn with
  | nil => rfl
  | append_singleton history event ih => simp [ih]

theorem chain_eventIds (history : List Event) :
    (chain history).map StoredEvent.eventId = history.map Event.eventId := by
  induction history using List.reverseRecOn with
  | nil => rfl
  | append_singleton history event ih => simp [ih, Event.toStored]

theorem previousSha256_chain_isSha256 (history : List Event) :
    isSha256 (previousSha256 (chain history)) = true := by
  induction history using List.reverseRecOn with
  | nil => decide
  | append_singleton history event _ =>
    simp [previousSha256, Event.toStored, isSha256]

theorem written_stored (event : Event) {events : List StoredEvent}
    (hprevious : isSha256 (previousSha256 events) = true) :
    AppendLog.written (.obj (event.stored events)) =
      if event.lineFree then [some (.obj (event.stored events))] else [none] := by
  have hleaves : (Json.obj (event.stored events)).leavesOnOneLine = event.lineFree := by
    have hkeys : ∀ key ∈ ["event_id", "kind", "opened", "reservation", "charge", "campaign_id",
        "max_cost_cny", "max_model_calls", "cost_cny", "model_calls", "reservation_id",
        "actual_cost_cny", "actual_model_calls", "sequence", "previous_event_sha256",
        "event_sha256"], Library.lineFree key = true := by
      decide
    simp only [List.forall_mem_cons] at hkeys
    have hlink := Json.lineFree_sha256 hprevious
    have hsha256 : ∀ value : Json, Library.lineFree value.contentSha256 = true := fun value =>
      Json.lineFree_sha256 value.contentSha256_isSha256
    obtain ⟨eventId, campaignId, body⟩ := event
    cases body <;>
      simp [Event.stored, Event.chained, Event.fields, EventBody.fields, EventBody.kind,
        Json.leavesOnOneLine, Json.fieldsOnOneLine, Json.onOneLine_quote_eq_lineFree,
        onOneLine_intRepr, Json.onOneLine_floatRepr, Event.lineFree, hkeys, hlink, hsha256,
        Bool.and_assoc]
  rw [AppendLog.written_eq, hleaves]

theorem readBody_stored {ledger : DurableCostLedger} {event : Event}
    (h : event.Admissible ledger) (events : List StoredEvent) :
    readBody (event.stored events) = some event.body := by
  obtain ⟨eventId, campaignId, body⟩ := event
  have hbody := h.body
  cases body with
  | opened cost calls =>
    simp [readBody, Event.stored, Event.chained, Event.fields, EventBody.fields,
      EventBody.kind, readAmount, readCalls, jsonAmount?, not_lt.mpr hbody.1,
      not_lt.mpr hbody.2]
  | reservation cost calls =>
    simp [readBody, Event.stored, Event.chained, Event.fields, EventBody.fields,
      EventBody.kind, readAmount, readCalls, jsonAmount?, not_lt.mpr hbody.1,
      not_lt.mpr hbody.2]
  | charge reservationId cost calls =>
    simp [readBody, Event.stored, Event.chained, Event.fields, EventBody.fields,
      EventBody.kind, readText, readAmount, readCalls, jsonAmount?, hbody.1,
      not_lt.mpr hbody.2.1, not_lt.mpr hbody.2.2]

theorem payload_stored (event : Event) (events : List StoredEvent) :
    (event.stored events).filter (·.1 ≠ "event_sha256") = event.chained events := by
  obtain ⟨eventId, campaignId, body⟩ := event
  cases body <;>
    simp [Event.stored, Event.chained, Event.fields, EventBody.fields]

theorem validateEvent_stored {ledger : DurableCostLedger} {event : Event}
    (h : event.Admissible ledger) {events : List StoredEvent}
    (hprevious : isSha256 (previousSha256 events) = true) :
    validateEvent ledger (event.stored events)
      (Json.contentSha256 (.obj (event.chained events))) = some (event.toStored events) := by
  have hbody := readBody_stored h events
  have hid : readText (event.stored events) "event_id" = some event.eventId := by
    simp [readText, Event.stored, Event.chained, Event.fields, h.eventId]
  have hsequence : readCalls (event.stored events) "sequence" = some (events.length : Int) := by
    cases hcase : event.body <;>
      simp [readCalls, Event.stored, Event.chained, Event.fields, EventBody.fields, hcase]
  have hprev : readSha256 (event.stored events) "previous_event_sha256" =
      some (previousSha256 events) := by
    cases hcase : event.body <;>
      simp [readSha256, Event.stored, Event.chained, Event.fields, EventBody.fields, hcase,
        hprevious]
  have hcampaign : Json.field? (event.stored events) "campaign_id" =
      some (.str ledger.campaignId) := by
    simp [Event.stored, Event.chained, Event.fields, h.campaignId]
  simp [validateEvent, hid, hsequence, hprev, hcampaign, hbody, Event.toStored, h.campaignId]

theorem readLine_stored {ledger : DurableCostLedger} {event : Event}
    (h : event.Admissible ledger) (lineNumber : Nat) {events : List StoredEvent}
    (hprevious : isSha256 (previousSha256 events) = true) :
    readLine ledger lineNumber events (some (.obj (event.stored events))) =
      .ok (event.toStored events) := by
  have hfield : Json.field? (event.stored events) "event_sha256" =
      some (.str (Json.contentSha256 (.obj (event.chained events)))) := by
    cases hcase : event.body <;>
      simp [Event.stored, Event.chained, Event.fields, EventBody.fields, hcase]
  have hvalid := validateEvent_stored h hprevious
  unfold readLine
  simp only [hfield, payload_stored, hvalid]
  simp [isSha256, Event.toStored]

theorem readLines_append (ledger : DurableCostLedger) (lineNumber : Nat)
    (events : List StoredEvent) (first second : List (Option Json)) :
    readLines ledger lineNumber events (first ++ second) =
      (readLines ledger lineNumber events first).bind
        (fun middle => readLines ledger (lineNumber + first.length) middle second) := by
  induction first generalizing lineNumber events with
  | nil => rfl
  | cons line rest ih =>
    simp only [List.cons_append, readLines]
    cases readLine ledger lineNumber events line with
    | error e => rfl
    | ok event =>
      simp only [ih, List.length_cons]
      rw [Nat.add_right_comm, Nat.add_assoc]

theorem readLines_chain {ledger : DurableCostLedger} (history : List Event)
    (h : ∀ event ∈ history, event.Admissible ledger) :
    readLines ledger 1 [] (logLines history) = .ok (chain history) := by
  induction history using List.reverseRecOn with
  | nil => rfl
  | append_singleton history event ih =>
    have hfirst := ih (fun e he => h e (List.mem_append_left _ he))
    have hline := readLine_stored (h event (by simp)) (1 + (logLines history).length)
      (previousSha256_chain_isSha256 history)
    rw [logLines_append_singleton, readLines_append, hfirst]
    simp only [Except.bind, readLines, hline, chain_append_singleton]

end JlensEvolve.Kernel
