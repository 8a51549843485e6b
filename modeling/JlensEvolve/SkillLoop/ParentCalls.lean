import JlensEvolve.SkillLoop.Driver

/-!
The ledger of `ledger.py` and `ParentModelAdapter.generate`, cut where a process
takes or releases the lock of the ledger. The file stands for the value that its
text parses to, and the transport for whatever it returns or raises.
-/

namespace JlensEvolve.SkillLoop

open Library Contracts

namespace LoopAuthorization

variable (fromisoformat : Fromisoformat)

def fieldNames : List String :=
  ["schema_version", "authorization_id", "approved_by", "maximum_parent_calls", "expires_at"]

/-- A ceiling that is no integer is refused. -/
def fromDict : Json → Except String LoopAuthorization
  | .obj fields => do
      require (hasKeys fields fieldNames) "invalid authorization fields"
      let text name := pyStr (payloadGet fields name)
      match payloadGet fields "maximum_parent_calls" with
      | .int maximumParentCalls => do
          let authorization : LoopAuthorization := {
            schemaVersion := payloadGet fields "schema_version"
            authorizationId := text "authorization_id"
            approvedBy := text "approved_by"
            maximumParentCalls
            expiresAt := text "expires_at" }
          require ((fromisoformat authorization.expiresAt).isSome = true)
            "invalid authorization expiry"
          authorization.validate fromisoformat
          pure authorization
      | _ => .error "maximum_parent_calls must be a positive integer"
  | _ => .error "invalid authorization fields"

def toDict (authorization : LoopAuthorization) : Json :=
  .obj [("schema_version", authorization.schemaVersion),
    ("authorization_id", .str authorization.authorizationId),
    ("approved_by", .str authorization.approvedBy),
    ("maximum_parent_calls", .int authorization.maximumParentCalls),
    ("expires_at", .str authorization.expiresAt)]

/-- `first == second`: an expiry compares as its instant. -/
def same (first second : LoopAuthorization) : Prop :=
  Json.pyEq first.schemaVersion second.schemaVersion = true ∧
    first.authorizationId = second.authorizationId ∧ first.approvedBy = second.approvedBy ∧
    first.maximumParentCalls = second.maximumParentCalls ∧
    first.expiry? fromisoformat = second.expiry? fromisoformat

instance (first second : LoopAuthorization) : Decidable (same fromisoformat first second) :=
  inferInstanceAs (Decidable (_ ∧ _))

end LoopAuthorization

inductive ParentCallStatus where
  | reserved
  | completed
  | aborted
deriving DecidableEq, Repr

namespace ParentCallStatus

def text : ParentCallStatus → String
  | .reserved => "reserved"
  | .completed => "completed"
  | .aborted => "aborted"

def ofText? (value : String) : Option ParentCallStatus :=
  [reserved, completed, aborted].find? fun status => status.text = value

@[simp] theorem ofText?_text (status : ParentCallStatus) : ofText? status.text = some status := by
  cases status <;> rfl

end ParentCallStatus

structure ParentCallRecord where
  callId : String
  requestSha256 : String
  status : ParentCallStatus
  responseSha256 : Json
  response : Json
  usage : List (String × Json)
  error : Json
deriving DecidableEq

def isObj : Json → Bool
  | .obj _ => true
  | _ => false

namespace ParentCallRecord

/-- A completed record has its response and the digest of it, any other record
has neither. -/
def Evidenced (record : ParentCallRecord) : Prop :=
  if record.status = .completed then
    isObj record.response = true ∧ record.responseSha256 = .str record.response.contentSha256
  else record.response = .null ∧ record.responseSha256 = .null

instance (record : ParentCallRecord) : Decidable record.Evidenced :=
  inferInstanceAs (Decidable (ite _ _ _))

def validate (record : ParentCallRecord) : Except String Unit := do
  requireIdentifier "call_id" record.callId
  require (isSha256 record.requestSha256 = true) "invalid request sha256"
  require record.Evidenced
    (if record.status = .completed then "invalid completed parent call evidence"
      else "non-completed parent call cannot have a response")
  require (record.status = .aborted → truthy record.error = true)
    "aborted parent call requires an error"

def fieldNames : List String :=
  ["call_id", "request_sha256", "status", "response_sha256", "response", "usage", "error"]

def fromDict : Json → Except String ParentCallRecord
  | .obj fields => do
      require (hasKeys fields fieldNames) "invalid parent call record fields"
      let text name := pyStr (payloadGet fields name)
      match pyDict (payloadGet fields "usage"), ParentCallStatus.ofText? (text "status") with
      | some usage, some status => do
          let record : ParentCallRecord := {
            callId := text "call_id"
            requestSha256 := text "request_sha256"
            status
            responseSha256 := payloadGet fields "response_sha256"
            response := payloadGet fields "response"
            usage
            error := payloadGet fields "error" }
          record.validate
          pure record
      | none, _ => .error "cannot convert usage to a dictionary"
      | some _, none => .error "invalid parent call status"
  | _ => .error "invalid parent call record fields"

def toDict (record : ParentCallRecord) : Json :=
  .obj [("call_id", .str record.callId), ("request_sha256", .str record.requestSha256),
    ("status", .str record.status.text), ("response_sha256", record.responseSha256),
    ("response", record.response), ("usage", .obj record.usage), ("error", record.error)]

/-- The record that `reserve` writes. -/
def reserving (callId requestSha256 : String) : ParentCallRecord where
  callId
  requestSha256
  status := .reserved
  responseSha256 := .null
  response := .null
  usage := []
  error := .null

/-- The record that `complete` makes of a reserved one. -/
def completing (record : ParentCallRecord) (responseSha256 : String) (response : Json)
    (usage : List (String × Json)) : ParentCallRecord where
  callId := record.callId
  requestSha256 := record.requestSha256
  status := .completed
  responseSha256 := .str responseSha256
  response
  usage
  error := .null

/-- The record that `abort` makes of a reserved one. -/
def aborting (record : ParentCallRecord) (reason : String) : ParentCallRecord where
  callId := record.callId
  requestSha256 := record.requestSha256
  status := .aborted
  responseSha256 := .null
  response := .null
  usage := []
  error := .str reason

end ParentCallRecord

/-- A ledger object; its constructor validates the authorization. -/
structure ParentCallLedger where
  authorization : LoopAuthorization
  fromisoformat : Fromisoformat
  valid : authorization.validate fromisoformat = .ok ()

namespace ParentCallLedger

variable (ledger : ParentCallLedger)

def content (records : List ParentCallRecord) : List (String × Json) :=
  [("schema_version", .int 1), ("authorization", ledger.authorization.toDict),
    ("records", .arr (records.map ParentCallRecord.toDict))]

/-- `_write_unlocked`; the old file is replaced whole. -/
def write (records : List ParentCallRecord) : Json :=
  .obj (ledger.content records ++
    [("state_sha256", .str (Json.obj (ledger.content records)).contentSha256)])

def stateFields : List String := ["schema_version", "authorization", "records", "state_sha256"]

/-- `_load_unlocked`. -/
def load : Json → Except String (LoopAuthorization × List ParentCallRecord)
  | .obj fields => do
      require (hasKeys fields stateFields) "invalid parent ledger fields"
      require (payloadGet fields "state_sha256" = .str (Json.obj
        (fields.filter fun field => field.1 ≠ "state_sha256")).contentSha256)
        "parent ledger state sha256 mismatch"
      require (Json.pyEq (payloadGet fields "schema_version") (.int 1) = true)
        "unsupported parent ledger schema"
      let authorization ← LoopAuthorization.fromDict ledger.fromisoformat
        (payloadGet fields "authorization")
      match payloadGet fields "records" with
      | .arr rows => do
          let records ← rows.mapM ParentCallRecord.fromDict
          require (records.map ParentCallRecord.callId).Nodup
            "duplicate call_id in parent ledger"
          pure (authorization, records)
      | _ => .error "invalid parent call record fields"
  | _ => .error "invalid parent ledger fields"

def find? (records : List ParentCallRecord) (callId : String) : Option ParentCallRecord :=
  records.find? fun record => record.callId = callId

def get (file : Json) (callId : String) : Except String (Option ParentCallRecord) :=
  (ledger.load file).map fun state => find? state.2 callId

/-- `reserve`, with the file it leaves. -/
def reserve (now : Int) (file : Json) (callId requestSha256 : String) :
    Except String (ParentCallRecord × Json) := do
  ledger.authorization.assertActive ledger.fromisoformat now
  let state ← ledger.load file
  match find? state.2 callId with
  | some existing => do
      require (existing.requestSha256 = requestSha256)
        "call_id already belongs to a different request"
      pure (existing, file)
  | none => do
      require ((state.2.length : Int) < ledger.authorization.maximumParentCalls)
        "parent call budget exceeded"
      (ParentCallRecord.reserving callId requestSha256).validate
      pure (.reserving callId requestSha256,
        ledger.write (state.2 ++ [.reserving callId requestSha256]))

def requiredRecord (records : List ParentCallRecord) (callId : String) :
    Except String (ParentCallRecord × Nat) :=
  match records.zipIdx.find? fun entry => entry.1.callId = callId with
  | some entry => .ok entry
  | none => .error ("unknown parent call: " ++ callId)

/-- `complete`, with the file it leaves. -/
def complete (file : Json) (callId responseSha256 : String) (response : Json)
    (usage : List (String × Json)) : Except String (ParentCallRecord × Json) := do
  let state ← ledger.load file
  let found ← requiredRecord state.2 callId
  require (found.1.status = .reserved) "parent call is already terminal"
  require (response.contentSha256 = responseSha256) "response sha256 mismatch"
  let completed := found.1.completing responseSha256 response usage
  completed.validate
  pure (completed, ledger.write (state.2.set found.2 completed))

/-- `abort`, with the file it leaves. -/
def abort (file : Json) (callId reason : String) : Except String (ParentCallRecord × Json) := do
  require (isText reason = true) "abort reason must be non-empty"
  let state ← ledger.load file
  let found ← requiredRecord state.2 callId
  if found.1.status = .aborted then pure (found.1, file)
  else do
    require (found.1.status = .reserved) "parent call is already terminal"
    let aborted := found.1.aborting reason
    aborted.validate
    pure (aborted, ledger.write (state.2.set found.2 aborted))

end ParentCallLedger

structure ParentCall where
  callId : String
  request : ParentModelRequest
  authorization : LoopAuthorization

/-- Where in `generate` a process is. -/
inductive CallStage where
  /-- No call is running; the answer of the last one, if it gave any. -/
  | idle (answer : Option (Except String ParentModelResponse))
  /-- `get` has found no record. -/
  | looked (call : ParentCall)
  | reserved (call : ParentCall)
  | answered (call : ParentCall) (response : ParentModelResponse)
  | failed (call : ParentCall) (reason : String)

/-- Everything that can happen to a process. -/
inductive CallInput where
  | begin (now : Int) (call : ParentCall)
  | reserve (now : Int)
  /-- The transport returns a value, or raises an error with this text. -/
  | send (outcome : Except String Json)
  /-- `complete` or `abort`. -/
  | settle
  | crash

/-- The file, the processes, the calls that went to the transport and the calls
that have returned. -/
structure ParentCalls where
  file : Json
  stage : Nat → CallStage
  sent : List String
  returned : List (ParentCall × ParentModelResponse)

structure CallEvent where
  process : Nat
  input : CallInput

/-- What `generate` makes of the transport's answer. -/
def CallStage.heard (call : ParentCall) : Except String Json → CallStage
  | .error text => .failed call text
  | .ok raw =>
    match ParentModelResponse.fromDict raw with
    | .ok response => .answered call response
    | .error text => .failed call ("ContractError: " ++ text)

namespace ParentCallLedger

variable (ledger : ParentCallLedger)

/-- `generate` up to the reservation; `none` where there is no record yet. -/
def lookup (now : Int) (file : Json) (call : ParentCall) :
    Except String (Option ParentModelResponse) := do
  call.request.validate
  call.authorization.validate ledger.fromisoformat
  call.authorization.assertActive ledger.fromisoformat now
  require (call.authorization.same ledger.fromisoformat ledger.authorization)
    "authorization does not match the parent call ledger"
  match ← ledger.get file call.callId with
  | none => pure none
  | some existing => do
      require (existing.requestSha256 = call.request.sha256)
        "call_id already belongs to a different request"
      require (existing.status = .completed ∧ existing.response ≠ .null)
        "parent call was already reserved and cannot be dispatched again"
      some <$> ParentModelResponse.fromDict existing.response

end ParentCallLedger

namespace ParentCalls

variable (ledger : ParentCallLedger) (calls : ParentCalls)

/-- The first object made for the path has written the file. -/
def start : ParentCalls := ⟨ledger.write [], fun _ => .idle none, [], []⟩

def moved (process : Nat) (stage : CallStage) : ParentCalls :=
  { calls with stage := Function.update calls.stage process stage }

def writing (file : Json) : ParentCalls := { calls with file }

def sending (callId : String) : ParentCalls := { calls with sent := calls.sent ++ [callId] }

def returning (call : ParentCall) (response : ParentModelResponse) : ParentCalls :=
  { calls with returned := calls.returned ++ [(call, response)] }

def begin (process : Nat) (now : Int) (call : ParentCall) : ParentCalls :=
  match ledger.lookup now calls.file call with
  | .error error => calls.moved process (.idle (some (.error error)))
  | .ok (some response) =>
    (calls.returning call response).moved process (.idle (some (.ok response)))
  | .ok none => calls.moved process (.looked call)

def reserve (process : Nat) (now : Int) (call : ParentCall) : ParentCalls :=
  match ledger.reserve now calls.file call.callId call.request.sha256 with
  | .error error => calls.moved process (.idle (some (.error error)))
  | .ok (_, file) => (calls.writing file).moved process (.reserved call)

def send (process : Nat) (call : ParentCall) (outcome : Except String Json) : ParentCalls :=
  (calls.sending call.callId).moved process (CallStage.heard call outcome)

def complete (process : Nat) (call : ParentCall) (response : ParentModelResponse) :
    ParentCalls :=
  match ledger.complete calls.file call.callId response.sha256 response.toDict response.usage with
  | .error error => calls.moved process (.idle (some (.error error)))
  | .ok (_, file) =>
    ((calls.writing file).returning call response).moved process (.idle (some (.ok response)))

def abort (process : Nat) (call : ParentCall) (reason : String) : ParentCalls :=
  match ledger.abort calls.file call.callId reason with
  | .error error => calls.moved process (.idle (some (.error error)))
  | .ok (_, file) => (calls.writing file).moved process (.idle (some (.error reason)))

/-- One step of one process; an input that its stage does not await changes
nothing. -/
def step (event : CallEvent) : ParentCalls :=
  match event.input, calls.stage event.process with
  | .begin now call, .idle _ => calls.begin ledger event.process now call
  | .reserve now, .looked call => calls.reserve ledger event.process now call
  | .send outcome, .reserved call => calls.send event.process call outcome
  | .settle, .answered call response => calls.complete ledger event.process call response
  | .settle, .failed call reason => calls.abort ledger event.process call reason
  | .crash, _ => calls.moved event.process (.idle none)
  | _, _ => calls

def after (events : List CallEvent) : ParentCalls :=
  Library.run (step ledger) (start ledger) events

end ParentCalls

end JlensEvolve.SkillLoop
