import JlensEvolve.Library.AppendLog

/-!
`SearchParentLog` of `agent_program/search_parent.py`, up to what its processes
do one after another. A file that is not UTF-8 is a line that does not decode
here.
-/

namespace JlensEvolve.AgentProgram

open Library

/-- The fields that `SearchParentLog` reads of a tournament decision. -/
structure TournamentDecision where
  decisionSha256 : String
  tournamentId : String
  campaignId : String
  programId : String
  executionScope : String
  parentRevisionId : String
  participantRevisionIds : List String
  taskRevisionIds : List String
  planIds : List String
  receiptIds : List String
  programBundleSha256 : List (String × String)
  tournamentConfigSha256 : String
  matchedConfigSha256 : String
  scorePolicyId : String
  scores : List (String × ℚ)
  winnerRevisionId : String
  advanced : Bool

def texts (items : List String) : Json := .arr (items.map .str)

def TournamentDecision.identityPayload (decision : TournamentDecision) : Json :=
  .obj [("tournament_id", .str decision.tournamentId), ("campaign_id", .str decision.campaignId),
    ("program_id", .str decision.programId), ("execution_scope", .str decision.executionScope),
    ("parent_revision_id", .str decision.parentRevisionId),
    ("participant_revision_ids", texts decision.participantRevisionIds),
    ("task_revision_ids", texts decision.taskRevisionIds), ("plan_ids", texts decision.planIds),
    ("receipt_ids", texts decision.receiptIds),
    ("program_bundle_sha256",
      .arr (decision.programBundleSha256.map fun row => .arr [.str row.1, .str row.2])),
    ("tournament_config_sha256", .str decision.tournamentConfigSha256),
    ("matched_config_sha256", .str decision.matchedConfigSha256),
    ("score_policy_id", .str decision.scorePolicyId),
    ("scores", .arr (decision.scores.map fun row => .arr [.str row.1, .float row.2])),
    ("winner_revision_id", .str decision.winnerRevisionId), ("advanced", .bool decision.advanced)]

/-- No field has its type checked when a line is read. -/
structure SearchParentEvent where
  sequence : Json
  programId : Json
  tournamentId : Json
  executionScope : Json
  previousParentRevisionId : Json
  selectedRevisionId : Json
  decisionSha256 : Json
  previousEventSha256 : Json
  eventSha256 : Json
deriving DecidableEq

namespace SearchParentEvent

def identityFields (event : SearchParentEvent) : List (String × Json) :=
  [("sequence", event.sequence), ("program_id", event.programId),
    ("tournament_id", event.tournamentId), ("execution_scope", event.executionScope),
    ("previous_parent_revision_id", event.previousParentRevisionId),
    ("selected_revision_id", event.selectedRevisionId),
    ("decision_sha256", event.decisionSha256),
    ("previous_event_sha256", event.previousEventSha256)]

def identityPayload (event : SearchParentEvent) : Json := .obj event.identityFields

def payload (event : SearchParentEvent) : Json :=
  .obj (event.identityFields ++ [("event_sha256", event.eventSha256)])

def expectedFields : List String :=
  ["sequence", "program_id", "tournament_id", "execution_scope", "previous_parent_revision_id",
    "selected_revision_id", "decision_sha256", "previous_event_sha256", "event_sha256"]

/-- `SearchParentEvent(**payload)`, where the keys are the expected ones. -/
def decode : Option Json → Option SearchParentEvent
  | some (.obj fields) => do
      guard (fields.all fun field => field.1 ∈ expectedFields)
      let sequence ← Json.field? fields "sequence"
      let programId ← Json.field? fields "program_id"
      let tournamentId ← Json.field? fields "tournament_id"
      let executionScope ← Json.field? fields "execution_scope"
      let previousParentRevisionId ← Json.field? fields "previous_parent_revision_id"
      let selectedRevisionId ← Json.field? fields "selected_revision_id"
      let decisionSha256 ← Json.field? fields "decision_sha256"
      let previousEventSha256 ← Json.field? fields "previous_event_sha256"
      let eventSha256 ← Json.field? fields "event_sha256"
      pure { sequence, programId, tournamentId, executionScope, previousParentRevisionId,
             selectedRevisionId, decisionSha256, previousEventSha256, eventSha256 }
  | _ => none

/-- `==` of two events, field by field. -/
structure Same (first second : SearchParentEvent) : Prop where
  sequence : Json.pyEq first.sequence second.sequence = true
  programId : Json.pyEq first.programId second.programId = true
  tournamentId : Json.pyEq first.tournamentId second.tournamentId = true
  executionScope : Json.pyEq first.executionScope second.executionScope = true
  previousParentRevisionId :
    Json.pyEq first.previousParentRevisionId second.previousParentRevisionId = true
  selectedRevisionId : Json.pyEq first.selectedRevisionId second.selectedRevisionId = true
  decisionSha256 : Json.pyEq first.decisionSha256 second.decisionSha256 = true
  previousEventSha256 : Json.pyEq first.previousEventSha256 second.previousEventSha256 = true
  eventSha256 : Json.pyEq first.eventSha256 second.eventSha256 = true

instance (first second : SearchParentEvent) : Decidable (Same first second) :=
  decidable_of_iff
    (Json.pyEq first.sequence second.sequence = true ∧
      Json.pyEq first.programId second.programId = true ∧
      Json.pyEq first.tournamentId second.tournamentId = true ∧
      Json.pyEq first.executionScope second.executionScope = true ∧
      Json.pyEq first.previousParentRevisionId second.previousParentRevisionId = true ∧
      Json.pyEq first.selectedRevisionId second.selectedRevisionId = true ∧
      Json.pyEq first.decisionSha256 second.decisionSha256 = true ∧
      Json.pyEq first.previousEventSha256 second.previousEventSha256 = true ∧
      Json.pyEq first.eventSha256 second.eventSha256 = true)
    ⟨fun ⟨h1, h2, h3, h4, h5, h6, h7, h8, h9⟩ => ⟨h1, h2, h3, h4, h5, h6, h7, h8, h9⟩,
      fun ⟨h1, h2, h3, h4, h5, h6, h7, h8, h9⟩ => ⟨h1, h2, h3, h4, h5, h6, h7, h8, h9⟩⟩

/-- `==` of two lists of events. -/
def sameEvents : List SearchParentEvent → List SearchParentEvent → Bool
  | [], [] => true
  | first :: firsts, second :: seconds => decide (Same first second) && sameEvents firsts seconds
  | _, _ => false

theorem sameEvents_iff {firsts seconds : List SearchParentEvent} :
    sameEvents firsts seconds = true ↔ List.Forall₂ Same firsts seconds := by
  induction firsts generalizing seconds with
  | nil => cases seconds <;> simp [sameEvents]
  | cons first firsts ih => cases seconds <;> simp [sameEvents, ih]

end SearchParentEvent

open SearchParentEvent

/-- `events[-1].event_sha256 if events else None`. -/
def lastEventSha256 (events : List SearchParentEvent) : Json :=
  (events.getLast?.map eventSha256).getD .null

structure SearchParentLog where
  programId : String

namespace SearchParentLog

variable (log : SearchParentLog)

/-- The event names as its parent what the last of these selected. -/
def Descends (events : List SearchParentEvent) (event : SearchParentEvent) : Prop :=
  ∀ last ∈ events.getLast?,
    Json.pyEq event.previousParentRevisionId last.selectedRevisionId = true

instance (events : List SearchParentEvent) (event : SearchParentEvent) :
    Decidable (Descends events event) :=
  inferInstanceAs (Decidable (∀ _ ∈ _, _))

def readEvent (events : List SearchParentEvent) (line : Option Json) :
    Except String SearchParentEvent :=
  match decode line with
  | none => .error ("invalid search-parent event at line " ++ toString (events.length + 1))
  | some event => do
      require (Json.pyEq event.programId (.str log.programId) = true)
        "search-parent program identity drift"
      require (Json.pyEq event.executionScope (.str "fixture") = true) "search-parent scope drift"
      require (Json.pyEq event.sequence (.int (events.length + 1)) = true)
        "search-parent sequence drift"
      require (Json.pyEq event.previousEventSha256 (lastEventSha256 events) = true)
        "search-parent hash chain fork"
      require (Json.pyEq event.eventSha256 (.str event.identityPayload.contentSha256) = true)
        "search-parent event hash mismatch"
      require (Descends events event) "search-parent revision chain fork"
      pure event

/-- `_read`, of the lines of the file. -/
def read (lines : List (Option Json)) : Except String (List SearchParentEvent) :=
  lines.foldlM (fun events line => do
    let event ← log.readEvent events line
    pure (events ++ [event])) []

def checkDecision (decision : TournamentDecision) : Except String Unit := do
  require (decision.identityPayload.contentSha256 = decision.decisionSha256)
    "tournament decision hash mismatch"
  require (decision.programId = log.programId) "search-parent program identity drift"
  require (decision.executionScope = "fixture") "search-parent accepts fixture decisions only"

/-- The events of the tournament of the decision. -/
def matching (decision : TournamentDecision) (events : List SearchParentEvent) :
    List SearchParentEvent :=
  events.filter fun event => Json.pyEq event.tournamentId (.str decision.tournamentId)

/-- The parent of the decision is the current one. -/
def Current (events : List SearchParentEvent) (decision : TournamentDecision) : Prop :=
  ∀ last ∈ events.getLast?,
    Json.pyEq last.selectedRevisionId (.str decision.parentRevisionId) = true

instance (events : List SearchParentEvent) (decision : TournamentDecision) :
    Decidable (Current events decision) :=
  inferInstanceAs (Decidable (∀ _ ∈ _, _))

/-- Whether the decision is on record among these events; if not, its parent
has to be the current one. -/
def recorded (decision : TournamentDecision) (events : List SearchParentEvent) :
    Except String Bool :=
  match matching decision events with
  | [] => do
      require (Current events decision) "search-parent fork detected"
      pure false
  | [event] => do
      require (Json.pyEq event.decisionSha256 (.str decision.decisionSha256) = true)
        "conflicting tournament decision replay"
      pure true
  | _ => .error "conflicting tournament decision replay"

/-- The event without its digest. -/
def identity (events : List SearchParentEvent) (decision : TournamentDecision) :
    SearchParentEvent :=
  { sequence := .int (events.length + 1)
    programId := .str log.programId
    tournamentId := .str decision.tournamentId
    executionScope := .str "fixture"
    previousParentRevisionId := .str decision.parentRevisionId
    selectedRevisionId := .str decision.winnerRevisionId
    decisionSha256 := .str decision.decisionSha256
    previousEventSha256 := lastEventSha256 events
    eventSha256 := .null }

def nextEvent (events : List SearchParentEvent) (decision : TournamentDecision) :
    SearchParentEvent :=
  { log.identity events decision with
    eventSha256 := .str (log.identity events decision).identityPayload.contentSha256 }

/-- What becomes of the one `os.write` of a line; how much it wrote is not
looked at. -/
inductive WriteOutcome where
  | whole
  /-- All but the newline. -/
  | unterminated
  /-- A part of the line that is not yet the whole object. -/
  | torn
  | nothing
deriving DecidableEq, Repr

structure LogFile where
  lines : List (Option Json)
  /-- The file is empty or ends with a newline. -/
  terminated : Bool

def LogFile.missing : LogFile := ⟨[], true⟩

/-- The lines after a write that begins where the file ends. Two objects, or
parts of objects, on one line do not decode. -/
def LogFile.joined (file : LogFile) (written : List (Option Json)) : List (Option Json) :=
  if file.terminated then file.lines ++ written else file.lines.dropLast ++ [none]

def LogFile.write (file : LogFile) (payload : Json) : WriteOutcome → LogFile
  | .whole => ⟨file.joined (AppendLog.written payload), true⟩
  | .unterminated => ⟨file.joined (AppendLog.written payload), false⟩
  | .torn => ⟨file.joined [none], false⟩
  | .nothing => file

end SearchParentLog

end JlensEvolve.AgentProgram
