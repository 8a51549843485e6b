import JlensEvolve.ExecutionContracts
import JlensEvolve.Library.Hoare

/-!
The ports of `ExecutionRuntime` and its `_ReceiptAppender`, over the receipts
of one plan. What the ports answer is given for every tick of the run: the
adapters return a payload or raise, the receipt store takes a line or fails at
one of its points, the observer hub returns evidence or raises, and the process
may be stopped before any interaction. The receipts stay when a call ends. A
payload that the canonical encoder refuses is a raise of the adapter that
returned it.
-/

namespace JlensEvolve.Runtime

open Library Contracts

abbrev Payload := List (String × Json)

/-- `payload.update(fields)`. -/
def updated (payload fields : Payload) : Payload :=
  fields.foldl (fun payload field => Dict.setEntries field.1 field.2 payload) payload

/-- `for name in names: if name in source: payload[name] = source[name]`. -/
def copyFields (names : List String) (source payload : Payload) : Payload :=
  updated payload (names.filterMap fun name =>
    (Json.field? source name).map fun value => (name, value))

inductive Raised where
  /-- The process is gone. -/
  | stopped
  | contractViolation (message : String)
  | executionInterrupted (reason : String)
  | evaluatorInfrastructure (reason : String)
  /-- Any other exception. -/
  | failed
deriving DecidableEq, Repr

abbrev AdapterAnswer := Except Raised Payload

inductive SinkAnswer where
  | stored
  /-- Raises before anything of the line is in the log. -/
  | refused
  /-- Raises with a part of the line in the log. -/
  | torn
  /-- Raises with the whole line in the log. -/
  | storedThenFailed
deriving DecidableEq, Repr

/-- The hub and the store raise no `EvaluatorInfrastructureError`. -/
inductive HubAnswer where
  | returned (evidence : List EvidenceEnvelope)
  | interrupted (reason : String)
  | failed

structure TraceFile where
  /-- `str(Path(trace_path).resolve())`. -/
  path : String
  isFile : Bool
  /-- The bytes that are hashed; `none` when reading them raises. -/
  content : Option (List Nat)
  /-- What the text decodes to; `none` when it cannot be read or decoded. -/
  decoded : Option Json

structure Environment where
  remote : Bool
  evaluatorId : String
  /-- The clock in microseconds; `none` is a reading without a time zone. -/
  clock : Nat → Option Int
  materialize : Nat → ExecutionPlan → AdapterAnswer
  infer : Nat → ExecutionPlan → Payload → AdapterAnswer
  evaluate : Nat → ExecutionPlan → Payload → Payload → AdapterAnswer
  traceFile : Nat → String → TraceFile
  /-- The store can be listed. -/
  listed : Nat → Bool
  sink : Nat → SinkAnswer
  hub : Nat → Receipt → HubAnswer
  stopped : Nat → Bool
  /-- `int(text)`, and the doubles nearest to an integer and to a text. -/
  intOfText : String → Option Int
  floatOfInt : Int → Option ℚ
  floatOfText : String → Option ℚ

/-- `_ReceiptAppender`. -/
structure Appender where
  receipts : List Receipt
  evidence : List EvidenceEnvelope
  nextSequence : Int

/-- What happened so far, in order. -/
inductive Happening where
  | inferred
  | evaluated
  | appended (tick : Nat) (receipt : Receipt)
  | observed (receipt : Receipt)

structure World where
  /-- The receipts of the plan in the log. -/
  receipts : List Receipt
  /-- The log ends in a part of a line. -/
  torn : Bool
  tick : Nat
  history : List Happening
  appender : Appender

def World.empty : World := ⟨[], false, 0, [], ⟨[], [], 1⟩⟩

abbrev RunM := EStateM Raised World

def World.noting (world : World) (happening : Happening) : World :=
  { world with history := world.history ++ [happening] }

/-- The line of a receipt is in the log. -/
def World.storing (world : World) (tick : Nat) (receipt : Receipt) : World :=
  { world with receipts := world.receipts ++ [receipt] }.noting (.appended tick receipt)

def World.tearing (world : World) : World := { world with torn := true }

def World.ticked (world : World) : World := { world with tick := world.tick + 1 }

def World.appending (world : World) (appender : Appender) : World :=
  { world with appender := appender }

/-- One interaction with the outside, before which the process may stop. -/
def interact {α : Type} (environment : Environment) (answer : Nat → α) : RunM α := do
  let world ← get
  raiseIf (environment.stopped world.tick) .stopped
  modify World.ticked
  pure (answer world.tick)

def violates {α : Type} (message : String) : RunM α := throw (.contractViolation message)

/-- A check of the contract kind, which answers with its message. -/
def contract {α : Type} (checked : Except String α) : RunM α :=
  check (checked.mapError .contractViolation)

def materialize (environment : Environment) (plan : ExecutionPlan) : RunM Payload := do
  let answer ← interact environment fun tick => environment.materialize tick plan
  check answer

def infer (environment : Environment) (plan : ExecutionPlan) (workspace : Payload) :
    RunM Payload := do
  let answer ← interact environment fun tick => environment.infer tick plan workspace
  modify (World.noting · .inferred)
  check answer

def evaluate (environment : Environment) (plan : ExecutionPlan) (workspace output : Payload) :
    RunM Payload := do
  let answer ← interact environment fun tick =>
    environment.evaluate tick plan workspace output
  modify (World.noting · .evaluated)
  check answer

/-- `first == second` on receipts. -/
def sameReceipt (first second : Receipt) : Bool :=
  first.receiptId = second.receiptId ∧ first.campaignId = second.campaignId ∧
    first.planId = second.planId ∧ first.sequence = second.sequence ∧
    first.kind = second.kind ∧ first.createdAt = second.createdAt ∧
    Json.pyEq (.obj first.payload) (.obj second.payload) = true ∧
    first.artifactSha256 = second.artifactSha256 ∧
    first.supersedesReceiptId = second.supersedesReceiptId

/-- `receipts_for`: a torn log cannot be listed. -/
def receiptsFor (environment : Environment) : RunM (List Receipt) := do
  let listed ← interact environment environment.listed
  let world ← get
  raiseIf (!listed || world.torn) .failed
  pure world.receipts

/-- `ReceiptStore.append` as one plan sees it. -/
def storeAppend (answer : SinkAnswer) (tick : Nat) (receipt : Receipt) : RunM Receipt := do
  let world ← get
  raiseIf world.torn .failed
  match world.receipts.find? (fun item => item.receiptId = receipt.receiptId) with
  | some prior =>
    raiseIf (!sameReceipt prior receipt) .failed
    raiseIf (answer ≠ .stored) .failed
    pure prior
  | none =>
    match answer with
    | .stored =>
      modify (World.storing · tick receipt)
      pure receipt
    | .refused => throw .failed
    | .torn =>
      modify World.tearing
      throw .failed
    | .storedThenFailed =>
      modify (World.storing · tick receipt)
      throw .failed

def sinkAppend (environment : Environment) (receipt : Receipt) : RunM Receipt := do
  let before ← get
  let answer ← interact environment environment.sink
  storeAppend answer before.tick receipt

def hubObserve (environment : Environment) (receipt : Receipt) :
    RunM (List EvidenceEnvelope) := do
  let answer ← interact environment fun tick => environment.hub tick receipt
  match answer with
  | .returned evidence =>
    modify (World.noting · (.observed receipt))
    pure evidence
  | .interrupted reason => throw (.executionInterrupted reason)
  | .failed => throw .failed

/-- Digits of `value`, with zeros in front up to a width. -/
def padded (width value : Nat) : String :=
  let digits := toString value
  String.ofList (List.replicate (width - digits.length) '0') ++ digits

/-- The civil date of a day counted from 1970-01-01, in eras of 400 years that
begin on the first of March. -/
def civil (day : Int) : Nat × Nat × Nat :=
  let shifted := day + 719468
  let era := shifted / 146097
  let dayOfEra := (shifted - era * 146097).toNat
  let yearOfEra :=
    (dayOfEra - dayOfEra / 1460 + dayOfEra / 36524 - dayOfEra / 146096) / 365
  let dayOfYear := dayOfEra - (365 * yearOfEra + yearOfEra / 4 - yearOfEra / 100)
  let month := (5 * dayOfYear + 2) / 153
  let dayOfMonth := dayOfYear - (153 * month + 2) / 5 + 1
  let month := if month < 10 then month + 3 else month - 9
  let year := (yearOfEra + era * 400).toNat + if month ≤ 2 then 1 else 0
  (year, month, dayOfMonth)

/-- `_isoformat` of a reading with a time zone. -/
def isoformat (microseconds : Int) : String :=
  let seconds := microseconds / 1000000
  let fraction := (microseconds % 1000000).toNat
  let secondOfDay := (seconds % 86400).toNat
  let (year, month, day) := civil (seconds / 86400)
  padded 4 year ++ "-" ++ padded 2 month ++ "-" ++ padded 2 day ++ "T" ++
    padded 2 (secondOfDay / 3600) ++ ":" ++ padded 2 (secondOfDay / 60 % 60) ++ ":" ++
    padded 2 (secondOfDay % 60) ++ (if fraction = 0 then "" else "." ++ padded 6 fraction) ++ "Z"

example : isoformat 1709210096000001 = "2024-02-29T12:34:56.000001Z" := by decide

/-- `runtime_receipt_identity`: the digest of the artifact and the receipt id. -/
def runtimeReceiptIdentity (campaignId planId : String) (sequence : Int) (kind : String)
    (payload : Payload) : String × String :=
  let artifactSha256 := (Json.obj payload).contentSha256
  let identity := Json.obj [("campaign_id", .str campaignId), ("plan_id", .str planId),
    ("sequence", .int sequence), ("kind", .str kind), ("artifact_sha256", .str artifactSha256)]
  (artifactSha256, "receipt-" ++ identity.contentSha256)

def runtimeReceipt (plan : ExecutionPlan) (sequence : Int) (kind createdAt : String)
    (payload : Payload) : Receipt where
  receiptId := (runtimeReceiptIdentity plan.campaignId plan.planId sequence kind payload).2
  campaignId := plan.campaignId
  planId := plan.planId
  sequence := sequence
  kind := kind
  createdAt := createdAt
  payload := payload
  artifactSha256 :=
    (runtimeReceiptIdentity plan.campaignId plan.planId sequence kind payload).1
  supersedesReceiptId := none

def append (environment : Environment) (plan : ExecutionPlan) (kind : String)
    (payload : Payload) : RunM Receipt := do
  let before ← get
  let reading ← interact environment environment.clock
  match reading with
  | none => violates "runtime clock must return a timezone-aware value"
  | some now =>
    let stored ← sinkAppend environment
      (runtimeReceipt plan before.appender.nextSequence kind (isoformat now) payload)
    modify fun world => world.appending
      { world.appender with
        receipts := world.appender.receipts ++ [stored]
        nextSequence := world.appender.nextSequence + 1 }
    pure stored

def appendFact (environment : Environment) (plan : ExecutionPlan) (kind : String)
    (payload : Payload) : RunM Receipt := do
  let receipt ← append environment plan kind payload
  let evidence ← hubObserve environment receipt
  modify fun world => world.appending
    { world.appender with evidence := world.appender.evidence ++ evidence }
  pure receipt

def appendControl (environment : Environment) (plan : ExecutionPlan) (kind : String)
    (payload : Payload) : RunM Receipt :=
  append environment plan kind payload

structure ExecutionResult where
  status : String
  receipts : List Receipt
  evidence : List EvidenceEnvelope
  replayed : Bool

def appenderResult (status : String) : RunM ExecutionResult := do
  let world ← get
  pure ⟨status, world.appender.receipts, world.appender.evidence, false⟩

end JlensEvolve.Runtime
