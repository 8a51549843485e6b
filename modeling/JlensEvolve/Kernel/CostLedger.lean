import Mathlib.Algebra.Order.Ring.Rat
import JlensEvolve.Contracts
import JlensEvolve.Library.AppendLog

/-!
`DurableCostLedger` of `kernel/budget_manager.py`. The two files and the lease
of the ledger are the state of the programs below. A log line is the value its
text decodes to, or `none` when it does not decode; an event whose text does
not stay on one line is written as lines that do not. Amounts are exact
rationals.
-/

namespace JlensEvolve.Kernel

open Library Contracts

/-- The exceptions the ledger raises, with their messages. -/
inductive LedgerError where
  | contractViolation (message : String)
  | budgetExceeded (message : String)
  | ledgerIntegrity (message : String)
  | ledgerConflict (message : String)
  | ledgerBusy (message : String)
deriving DecidableEq, Repr

structure BudgetSnapshot where
  maxCostCny : ℚ
  maxModelCalls : Int
  reservedCostCny : ℚ
  reservedModelCalls : Int
  spentCostCny : ℚ
  spentModelCalls : Int
deriving DecidableEq

/-- The arguments `DurableCostLedger.__init__` accepts. The fields are its
checks, so every ledger value has passed them. -/
structure DurableCostLedger where
  campaignId : String
  maxCostCny : ℚ
  maxModelCalls : Int
  campaignId_text : isText campaignId = true
  maxCostCny_nonneg : 0 ≤ maxCostCny
  maxModelCalls_nonneg : 0 ≤ maxModelCalls

inductive EventBody where
  | opened (maxCostCny : ℚ) (maxModelCalls : Int)
  | reservation (costCny : ℚ) (modelCalls : Int)
  | charge (reservationId : String) (actualCostCny : ℚ) (actualModelCalls : Int)
deriving DecidableEq

/-- The business facts of an event, before the storage chain is added. -/
structure Event where
  eventId : String
  campaignId : String
  body : EventBody
deriving DecidableEq

/-- A log line that passed the checks of `_read_events`: the decoded object
and the fields later code reads from it. -/
structure StoredEvent where
  raw : List (String × Json)
  eventId : String
  campaignId : String
  body : EventBody
  sequence : Int
  previousEventSha256 : String
  eventSha256 : String
deriving DecidableEq

structure LogFile where
  lines : List (Option Json)
  /-- The last line ends with a newline. -/
  terminated : Bool

structure HeadFile where
  decoded : Option Json
  terminated : Bool

structure LedgerFiles where
  log : Option LogFile
  head : Option HeadFile
  lease : Bool

def LedgerFiles.absent : LedgerFiles := ⟨none, none, false⟩

abbrev LedgerM := EStateM LedgerError LedgerFiles

def genesisPreviousSha256 : String :=
  "0000000000000000000000000000000000000000000000000000000000000000"

def validateEventId (value field : String) : Except LedgerError Unit :=
  if isText value then .ok () else .error (.contractViolation (field ++ " must be non-empty"))

def validateAmount (value : ℚ) (field : String) : Except LedgerError Unit :=
  if value < 0 then .error (.contractViolation (field ++ " must be finite and non-negative"))
  else .ok ()

def validateCalls (value : Int) (field : String) : Except LedgerError Unit :=
  if value < 0 then .error (.contractViolation (field ++ " must be a non-negative integer"))
  else .ok ()

def EventBody.kind : EventBody → String
  | .opened _ _ => "opened"
  | .reservation _ _ => "reservation"
  | .charge _ _ _ => "charge"

def EventBody.fields : EventBody → List (String × Json)
  | .opened cost calls => [("max_cost_cny", .float cost), ("max_model_calls", .int calls)]
  | .reservation cost calls => [("cost_cny", .float cost), ("model_calls", .int calls)]
  | .charge reservationId cost calls =>
    [("reservation_id", .str reservationId), ("actual_cost_cny", .float cost),
     ("actual_model_calls", .int calls)]

def Event.fields (event : Event) : List (String × Json) :=
  [("event_id", .str event.eventId), ("kind", .str event.body.kind),
   ("campaign_id", .str event.campaignId)] ++ event.body.fields

/-- The hash every stored event but the first refers back to. -/
def previousSha256 (events : List StoredEvent) : String :=
  (events.getLast?.map StoredEvent.eventSha256).getD genesisPreviousSha256

def Event.chained (event : Event) (events : List StoredEvent) : List (String × Json) :=
  event.fields ++ [("sequence", .int events.length),
    ("previous_event_sha256", .str (previousSha256 events))]

def Event.stored (event : Event) (events : List StoredEvent) : List (String × Json) :=
  event.chained events ++
    [("event_sha256", .str (Json.contentSha256 (.obj (event.chained events))))]

def headPayload (ledger : DurableCostLedger) (count : Int) (sha256 : String) :
    List (String × Json) :=
  [("schema_version", .int 1), ("campaign_id", .str ledger.campaignId),
   ("event_count", .int count), ("head_event_sha256", .str sha256)]

def headStored (ledger : DurableCostLedger) (count : Int) (sha256 : String) : Json :=
  .obj (headPayload ledger count sha256 ++
    [("anchor_sha256", .str (Json.contentSha256 (.obj (headPayload ledger count sha256))))])

def LedgerFiles.withHead (files : LedgerFiles) (ledger : DurableCostLedger) (sequence : Int)
    (eventSha256 : String) : LedgerFiles :=
  { files with head := some ⟨some (headStored ledger (sequence + 1) eventSha256), true⟩ }

@[simp] theorem LedgerFiles.withHead_log (files : LedgerFiles) (ledger : DurableCostLedger)
    (sequence : Int) (eventSha256 : String) :
    (files.withHead ledger sequence eventSha256).log = files.log := rfl

@[simp] theorem LedgerFiles.withHead_lease (files : LedgerFiles) (ledger : DurableCostLedger)
    (sequence : Int) (eventSha256 : String) :
    (files.withHead ledger sequence eventSha256).lease = files.lease := rfl

def writeHead (ledger : DurableCostLedger) (sequence : Int) (eventSha256 : String) :
    LedgerM Unit :=
  modify fun files => files.withHead ledger sequence eventSha256

/-- The log with one more event. Every caller has just read the log, so the
previous line, if there is one, is terminated. -/
def appendLine (log : Option LogFile) (line : Json) : LogFile :=
  ⟨((log.map LogFile.lines).getD []) ++ AppendLog.written line, true⟩

/-- `_append_event` as far as its line is on disk. -/
def LedgerFiles.withLine (files : LedgerFiles) (event : Event) (events : List StoredEvent) :
    LedgerFiles :=
  { files with log := some (appendLine files.log (.obj (event.stored events))) }

@[simp] theorem LedgerFiles.withLine_head (files : LedgerFiles) (event : Event)
    (events : List StoredEvent) : (files.withLine event events).head = files.head := rfl

@[simp] theorem LedgerFiles.withLine_lease (files : LedgerFiles) (event : Event)
    (events : List StoredEvent) : (files.withLine event events).lease = files.lease := rfl

def appendEvent (ledger : DurableCostLedger) (event : Event) (events : List StoredEvent) :
    LedgerM Unit := do
  modify fun files => files.withLine event events
  writeHead ledger events.length (Json.contentSha256 (.obj (event.chained events)))

def jsonAmount? : Json → Option ℚ
  | .int value => some value
  | .float value => some value
  | _ => none

def readText (fields : List (String × Json)) (key : String) : Option String :=
  match Json.field? fields key with
  | some (.str value) => if isText value then some value else none
  | _ => none

def readAmount (fields : List (String × Json)) (key : String) : Option ℚ :=
  match (Json.field? fields key).bind jsonAmount? with
  | some value => if value < 0 then none else some value
  | none => none

def readCalls (fields : List (String × Json)) (key : String) : Option Int :=
  match Json.field? fields key with
  | some (.int value) => if value < 0 then none else some value
  | _ => none

def readSha256 (fields : List (String × Json)) (key : String) : Option String :=
  match Json.field? fields key with
  | some (.str value) => if isSha256 value then some value else none
  | _ => none

def readBody (fields : List (String × Json)) : Option EventBody :=
  match Json.field? fields "kind" with
  | some (.str kind) =>
    if kind = "opened" then
      (readAmount fields "max_cost_cny").bind fun cost =>
        (readCalls fields "max_model_calls").map fun calls => .opened cost calls
    else if kind = "reservation" then
      (readAmount fields "cost_cny").bind fun cost =>
        (readCalls fields "model_calls").map fun calls => .reservation cost calls
    else if kind = "charge" then
      (readText fields "reservation_id").bind fun reservationId =>
        (readAmount fields "actual_cost_cny").bind fun cost =>
          (readCalls fields "actual_model_calls").map fun calls =>
            .charge reservationId cost calls
    else none
  | _ => none

/-- `_validate_event`. Each failure inside it is re-raised as the same
integrity error, so the reader only tells success from failure. -/
def validateEvent (ledger : DurableCostLedger) (raw : List (String × Json))
    (eventSha256 : String) : Option StoredEvent :=
  (readText raw "event_id").bind fun eventId =>
    (readCalls raw "sequence").bind fun sequence =>
      (readSha256 raw "previous_event_sha256").bind fun previous =>
        if Json.field? raw "campaign_id" = some (.str ledger.campaignId) then
          (readBody raw).map fun body =>
            ⟨raw, eventId, ledger.campaignId, body, sequence, previous, eventSha256⟩
        else none

/-- One turn of the loop of `_read_events`, after the events read so far. -/
def readLine (ledger : DurableCostLedger) (lineNumber : Nat) (events : List StoredEvent)
    (line : Option Json) : Except LedgerError StoredEvent :=
  match line with
  | some (.obj raw) =>
    match Json.field? raw "event_sha256" with
    | some (.str expected) =>
      if !isSha256 expected ||
          Json.contentSha256 (.obj (raw.filter (·.1 ≠ "event_sha256"))) ≠ expected then
        .error (.ledgerIntegrity s!"cost ledger hash mismatch at line {lineNumber}")
      else
        match validateEvent ledger raw expected with
        | none => .error (.ledgerIntegrity s!"invalid cost ledger event at line {lineNumber}")
        | some event =>
          if event.sequence ≠ events.length then
            .error (.ledgerIntegrity
              s!"cost ledger sequence mismatch at line {lineNumber}")
          else if event.previousEventSha256 ≠ previousSha256 events then
            .error (.ledgerIntegrity s!"cost ledger chain mismatch at line {lineNumber}")
          else .ok event
    | _ => .error (.ledgerIntegrity s!"cost ledger hash mismatch at line {lineNumber}")
  | _ => .error (.ledgerIntegrity s!"invalid cost ledger event at line {lineNumber}")

def readLines (ledger : DurableCostLedger) :
    Nat → List StoredEvent → List (Option Json) → Except LedgerError (List StoredEvent)
  | _, events, [] => .ok events
  | lineNumber, events, line :: rest =>
    match readLine ledger lineNumber events line with
    | .error e => .error e
    | .ok event => readLines ledger (lineNumber + 1) (events ++ [event]) rest

def validateHeader (ledger : DurableCostLedger) (events : List StoredEvent) :
    Except LedgerError Unit :=
  match events.head? with
  | some header =>
    if header.body = .opened ledger.maxCostCny ledger.maxModelCalls ∧
        header.eventId = "ledger-open" ∧ header.campaignId = ledger.campaignId then .ok ()
    else .error (.ledgerIntegrity "cost ledger authorization identity mismatch")
  | none => .error (.ledgerIntegrity "cost ledger authorization identity mismatch")

/-- The locals of the loop of `_validate_replay`. -/
structure Replay where
  reservations : Dict String (ℚ × Int)
  chargedReservations : List String
  spentCost : ℚ
  spentCalls : Int

def Replay.start : Replay := ⟨Dict.empty, [], 0, 0⟩

/-- The reservations that no charge has closed. -/
def Replay.outstanding (replay : Replay) : List (String × ℚ × Int) :=
  replay.reservations.entries.filter (fun entry => entry.1 ∉ replay.chargedReservations)

def Replay.reservedCost (replay : Replay) : ℚ := (replay.outstanding.map (·.2.1)).sum

def Replay.reservedCalls (replay : Replay) : Int := (replay.outstanding.map (·.2.2)).sum

/-- The bookkeeping of one event, before the authorization is compared. -/
def Replay.account (replay : Replay) (lineNumber : Nat) (event : StoredEvent) :
    Except LedgerError Replay :=
  match event.body with
  | .opened _ _ =>
    .error (.ledgerIntegrity s!"duplicate cost ledger genesis at line {lineNumber}")
  | .reservation cost calls =>
    .ok { replay with reservations := replay.reservations.set event.eventId (cost, calls) }
  | .charge reservationId cost calls =>
    if (replay.reservations.get? reservationId).isNone then
      .error (.ledgerIntegrity s!"charge references unknown reservation at line {lineNumber}")
    else if reservationId ∈ replay.chargedReservations then
      .error (.ledgerIntegrity s!"reservation has duplicate charge at line {lineNumber}")
    else
      .ok { replay with
        chargedReservations := reservationId :: replay.chargedReservations
        spentCost := replay.spentCost + cost
        spentCalls := replay.spentCalls + calls }

/-- What the replay compares after each line: everything spent together with
everything still reserved. -/
def Replay.withinAuthorization (replay : Replay) (ledger : DurableCostLedger)
    (lineNumber : Nat) : Except LedgerError Replay :=
  if replay.spentCost + replay.reservedCost > ledger.maxCostCny then
    .error (.ledgerIntegrity s!"cost ledger exceeds authorization at line {lineNumber}")
  else if replay.spentCalls + replay.reservedCalls > ledger.maxModelCalls then
    .error (.ledgerIntegrity
      s!"cost ledger model calls exceed authorization at line {lineNumber}")
  else .ok replay

def replayLines (ledger : DurableCostLedger) :
    Nat → Replay → List StoredEvent → Except LedgerError Replay
  | _, replay, [] => .ok replay
  | lineNumber, replay, event :: rest =>
    match (replay.account lineNumber event).bind
        (fun next => next.withinAuthorization ledger lineNumber) with
    | .error e => .error e
    | .ok next => replayLines ledger (lineNumber + 1) next rest

def validateReplay (ledger : DurableCostLedger) (events : List StoredEvent) :
    Except LedgerError Replay :=
  match validateHeader ledger events with
  | .error e => .error e
  | .ok () => replayLines ledger 2 Replay.start events.tail

/-- `_read_events` without the head check. -/
def loadEvents (ledger : DurableCostLedger) (files : LedgerFiles) :
    Except LedgerError (List StoredEvent) :=
  match files.log with
  | none => .error (.ledgerIntegrity "durable cost ledger is missing")
  | some log =>
    if !log.terminated && !log.lines.isEmpty then
      .error (.ledgerIntegrity "durable cost ledger has a partial final event")
    else
      match readLines ledger 1 [] log.lines with
      | .error e => .error e
      | .ok events =>
        if events.isEmpty then
          .error (.ledgerIntegrity "durable cost ledger is empty")
        else if ¬ (events.map StoredEvent.eventId).Nodup then
          .error (.ledgerIntegrity "durable cost ledger has duplicate event ids")
        else
          match validateReplay ledger events with
          | .error e => .error e
          | .ok _ => .ok events

/-- How a well-formed head relates to the events of the log. -/
inductive HeadStatus where
  | current
  | oneEventBehind
  | mismatch
deriving DecidableEq, Repr

def headStatus (payload : Json) (events : List StoredEvent) : HeadStatus :=
  let sha256 := payload.get? "head_event_sha256"
  if (payload.get? "event_count").any (Json.pyEq (.int events.length)) ∧
      sha256 = events.getLast?.map (fun event => .str event.eventSha256) then .current
  else
    match payload.get? "event_count" with
    | some (.int count) =>
      if 1 ≤ count ∧ count + 1 = events.length ∧
          sha256 = events[count.toNat - 1]?.map (fun event => .str event.eventSha256) then
        .oneEventBehind
      else .mismatch
    | _ => .mismatch

def inspectHead (ledger : DurableCostLedger) (head : Option HeadFile)
    (events : List StoredEvent) : Except LedgerError HeadStatus :=
  match head with
  | none => .error (.ledgerIntegrity "durable cost ledger head is missing")
  | some file =>
    if !file.terminated then
      .error (.ledgerIntegrity "durable cost ledger head is partial")
    else
      match file.decoded with
      | some (.obj stored) =>
        let payload := Json.obj (stored.filter (·.1 ≠ "anchor_sha256"))
        match Json.field? stored "anchor_sha256" with
        | some (.str anchor) =>
          if !isSha256 anchor || payload.contentSha256 ≠ anchor then
            .error (.ledgerIntegrity "durable cost ledger head hash mismatch")
          else if ¬ (payload.get? "schema_version").any (Json.pyEq (.int 1)) ∨
              payload.get? "campaign_id" ≠ some (.str ledger.campaignId) then
            .error (.ledgerIntegrity "durable cost ledger head mismatch")
          else .ok (headStatus payload events)
        | _ => .error (.ledgerIntegrity "durable cost ledger head hash mismatch")
      | _ => .error (.ledgerIntegrity "durable cost ledger head is invalid")

/-- `_writer_lease` around a body: the lease is given back on every exit. -/
def writerLease {α : Type} (body : LedgerM α) : LedgerM α := do
  if (← get).lease then throw (.ledgerBusy "durable cost ledger writer lease is held")
  modify fun files => { files with lease := true }
  withCleanup (fun files => { files with lease := false }) body

/-- `_validate_head` under a lease already held. -/
def validateHeadHeld (ledger : DurableCostLedger) (events : List StoredEvent) :
    LedgerM Unit := do
  match ← check (inspectHead ledger (← get).head events) with
  | .current => pure ()
  | .oneEventBehind =>
    match events.getLast? with
    | some last => writeHead ledger last.sequence last.eventSha256
    | none => throw (.ledgerIntegrity "durable cost ledger head mismatch")
  | .mismatch => throw (.ledgerIntegrity "durable cost ledger head mismatch")

/-- `_validate_head` of a reader, which takes the lease itself to repair a head
that is one event behind and reads the log again under it. -/
def validateHead (ledger : DurableCostLedger) (events : List StoredEvent) :
    LedgerM Unit := do
  match ← check (inspectHead ledger (← get).head events) with
  | .current => pure ()
  | .oneEventBehind =>
    writerLease do
      let refreshed ← check (loadEvents ledger (← get))
      validateHeadHeld ledger refreshed
  | .mismatch => throw (.ledgerIntegrity "durable cost ledger head mismatch")

/-- `_read_events(recover_head=True)`. -/
def readEvents (ledger : DurableCostLedger) : LedgerM (List StoredEvent) := do
  let events ← check (loadEvents ledger (← get))
  validateHead ledger events
  return events

/-- `_read_events(recover_head=True, writer_lease_held=True)`. -/
def readEventsHeld (ledger : DurableCostLedger) : LedgerM (List StoredEvent) := do
  let events ← check (loadEvents ledger (← get))
  validateHeadHeld ledger events
  return events

def reservationOf? (event : StoredEvent) : Option (String × ℚ × Int) :=
  match event.body with
  | .reservation cost calls => some (event.eventId, cost, calls)
  | _ => none

def chargeOf? (event : StoredEvent) : Option (String × ℚ × Int) :=
  match event.body with
  | .charge reservationId cost calls => some (reservationId, cost, calls)
  | _ => none

def reservationsOf (events : List StoredEvent) : List (String × ℚ × Int) :=
  events.filterMap reservationOf?

def chargesOf (events : List StoredEvent) : List (String × ℚ × Int) :=
  events.filterMap chargeOf?

def outstandingOf (events : List StoredEvent) : List (String × ℚ × Int) :=
  (reservationsOf events).filter (fun entry => entry.1 ∉ (chargesOf events).map Prod.fst)

/-- `_snapshot`, after its header check. -/
def snapshotOf (ledger : DurableCostLedger) (events : List StoredEvent) : BudgetSnapshot :=
  { maxCostCny := ledger.maxCostCny
    maxModelCalls := ledger.maxModelCalls
    reservedCostCny := ((outstandingOf events).map (·.2.1)).sum
    reservedModelCalls := ((outstandingOf events).map (·.2.2)).sum
    spentCostCny := ((chargesOf events).map (·.2.1)).sum
    spentModelCalls := ((chargesOf events).map (·.2.2)).sum }

def checkedSnapshot (ledger : DurableCostLedger) (events : List StoredEvent) :
    Except LedgerError BudgetSnapshot :=
  (validateHeader ledger events).map (fun _ => snapshotOf ledger events)

/-- `_event_facts(prior) == event`. -/
def sameFacts (prior : StoredEvent) (event : Event) : Bool :=
  Json.pyEq
    (.obj (prior.raw.filter
      (fun field => field.1 ∉ ["sequence", "previous_event_sha256", "event_sha256"])))
    (.obj event.fields)

def appendMutation (ledger : DurableCostLedger) (event : Event)
    (validate : List StoredEvent → Except LedgerError Unit) : LedgerM Bool :=
  writerLease do
    let events ← readEventsHeld ledger
    check (validateHeader ledger events)
    match events.find? (fun item => item.eventId = event.eventId) with
    | some prior =>
      if sameFacts prior event then return false
      else throw (.ledgerConflict s!"conflicting immutable ledger event {event.eventId}")
    | none =>
      check (validate events)
      appendEvent ledger event events
      return true

/-- The `validate` closure of `reserve`. -/
def validateReservation (ledger : DurableCostLedger) (cost : ℚ) (calls : Int)
    (events : List StoredEvent) : Except LedgerError Unit := do
  let snapshot ← checkedSnapshot ledger events
  if snapshot.spentCostCny + snapshot.reservedCostCny + cost > ledger.maxCostCny then
    throw (.budgetExceeded "campaign cost budget exhausted")
  if snapshot.spentModelCalls + snapshot.reservedModelCalls + calls > ledger.maxModelCalls then
    throw (.budgetExceeded "campaign model call budget exhausted")

def reserve (ledger : DurableCostLedger) (reservationId : String) (cost : ℚ) (calls : Int) :
    LedgerM Bool := do
  check (validateEventId reservationId "reservation_id")
  check (validateAmount cost "reservation cost")
  check (validateCalls calls "reservation model_calls")
  appendMutation ledger ⟨reservationId, ledger.campaignId, .reservation cost calls⟩
    (validateReservation ledger cost calls)

/-- The `validate` closure of `record`. Only what is already spent is added to
the actual amounts before they are compared. -/
def validateCharge (ledger : DurableCostLedger) (reservationId : String) (cost : ℚ)
    (calls : Int) (events : List StoredEvent) : Except LedgerError Unit := do
  if (reservationsOf events).all (fun entry => entry.1 ≠ reservationId) then
    throw (.contractViolation "charge references unknown reservation")
  if (chargesOf events).any (fun entry => entry.1 = reservationId) then
    throw (.ledgerConflict s!"reservation {reservationId} already has a result")
  let snapshot ← checkedSnapshot ledger events
  if snapshot.spentCostCny + cost > ledger.maxCostCny then
    throw (.budgetExceeded "actual campaign cost exceeds authorization")
  if snapshot.spentModelCalls + calls > ledger.maxModelCalls then
    throw (.budgetExceeded "actual campaign model calls exceed authorization")

def record (ledger : DurableCostLedger) (reservationId resultId : String) (cost : ℚ)
    (calls : Int) : LedgerM Bool := do
  check (validateEventId reservationId "reservation_id")
  check (validateEventId resultId "result_id")
  check (validateAmount cost "actual cost")
  check (validateCalls calls "actual model_calls")
  appendMutation ledger ⟨resultId, ledger.campaignId, .charge reservationId cost calls⟩
    (validateCharge ledger reservationId cost calls)

def snapshot (ledger : DurableCostLedger) : LedgerM BudgetSnapshot := do
  let events ← readEvents ledger
  check (checkedSnapshot ledger events)

/-- `events()`: the decoded objects of the log. -/
def events (ledger : DurableCostLedger) : LedgerM (List (List (String × Json))) := do
  return (← readEvents ledger).map StoredEvent.raw

def openEvent (ledger : DurableCostLedger) : Event :=
  ⟨"ledger-open", ledger.campaignId, .opened ledger.maxCostCny ledger.maxModelCalls⟩

/-- `_initialize`, which is also what reopening an existing ledger runs. One
process at a time opens the ledger, so the log cannot appear between the two
existence tests. -/
def initializeFiles (ledger : DurableCostLedger) : LedgerM Unit := do
  if (← get).log.isSome then
    let events ← readEvents ledger
    check (validateHeader ledger events)
  else
    if (← get).head.isSome then
      throw (.ledgerIntegrity "cost ledger head exists without event log")
    writerLease do
      if (← get).log.isSome then
        let events ← readEventsHeld ledger
        check (validateHeader ledger events)
      else appendEvent ledger (openEvent ledger) []

end JlensEvolve.Kernel
