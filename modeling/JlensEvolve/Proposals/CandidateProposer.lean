import JlensEvolve.Kernel.CostLedger
import JlensEvolve.Proposals.TeacherResponse

/-!
`CandidateProposer.propose`. The state is the ledger's files with the three
files of one request; a file is its text with the value that the text decodes
to. Amounts are exact rationals, as in the ledger.
-/

namespace JlensEvolve.Proposals

open Library Contracts Kernel

/-- What `propose` raises. The ledger's errors are contract violations too;
`uncaught` is any other exception. -/
inductive ProposeError where
  | contractViolation (message : String)
  | ledger (error : LedgerError)
  | uncaught
deriving DecidableEq

def ProposeError.isContractViolation : ProposeError → Bool
  | .uncaught => false
  | _ => true

structure JsonFile where
  text : String
  decoded : Option Json

namespace JsonFile

/-- What `_atomic_write` leaves. -/
def of (value : Json) : JsonFile := ⟨value.canonicalJson ++ "\n", some value⟩

def sha256 (file : JsonFile) : String := Sha256.hexdigest (Json.utf8 file.text)

end JsonFile

structure ProposalFiles where
  ledger : LedgerFiles
  request : Option JsonFile
  rawResponse : Option JsonFile
  response : Option JsonFile

abbrev ProposalM := EStateM ProposeError ProposalFiles

structure PricingCnyPerMillionTokens where
  input : ℚ
  output : ℚ

/-- The fields hold whatever a stored candidate has there. -/
structure ProposalCandidate where
  candidateId : Json
  protocol : Json
  promptTemplate : Json
  skillText : Json
  evalNote : Json
  active : Json
  operator : Json
  router : Json
  memoryPolicy : Json
  preconditions : Json
  expectedExternalEffect : Json
  expectedInternalEffect : Json
  falsification : Json

structure ProposalUsage where
  provider : Json
  model : Json
  inputTokens : Json
  outputTokens : Json
  estimatedCostCny : Json

structure ProposalResult where
  candidate : ProposalCandidate
  usage : ProposalUsage

structure CandidateProposer where
  python : Interpreter
  provider : String
  model : String
  transport : Json → Except ProposeError Decoded
  pricing : PricingCnyPerMillionTokens
  costLedger : DurableCostLedger

def onLedger {α : Type} (call : LedgerM α) : ProposalM α := fun files =>
  match call.run files.ledger with
  | .ok answer ledger => .ok answer { files with ledger := ledger }
  | .error error ledger => .error (.ledger error) { files with ledger := ledger }

/-- A check that raises a `ContractViolation`. -/
def contract {α : Type} (checked : Except String α) : ProposalM α :=
  check (checked.mapError .contractViolation)

def protectedTerms : List String := ["gold", "reference_patch", "holdout"]

/-- The parts of a text between slashes of either kind. -/
def segments (text : String) : List (List Char) :=
  (text.toList.map fun c => if c = '\\' then '/' else c).splitOn '/'

mutual

/-- `_contains_prohibited_teacher_data`. -/
def containsProhibited (casefold : String → String) : Json → Bool
  | .obj fields => fieldsProhibited casefold fields
  | .arr items => itemsProhibited casefold items
  | .str text => protectedTerms.any fun term => term.toList ∈ segments (casefold text)
  | _ => false

def itemsProhibited (casefold : String → String) : List Json → Bool
  | [] => false
  | item :: rest => containsProhibited casefold item || itemsProhibited casefold rest

def fieldsProhibited (casefold : String → String) : List (String × Json) → Bool
  | [] => false
  | (key, value) :: rest =>
    protectedTerms.any (fun term => contains (casefold key) term) ||
      containsProhibited casefold value || fieldsProhibited casefold rest

end

/-- `value if isinstance(value, Mapping) else None`. -/
def objectOrNone : Json → Json
  | .obj fields => .obj fields
  | _ => .null

/-- The stored usage, under the names the two formats give the token counts. -/
def usageOf (payload : List (String × Json)) (usage : List (String × Json))
    (inputName outputName : String) (cost : Option Json) : Option ProposalUsage := do
  let provider ← Json.field? payload "provider"
  let model ← Json.field? payload "model"
  let input ← Json.field? usage inputName
  let output ← Json.field? usage outputName
  let cost ← cost
  return ⟨provider, model, input, output, cost⟩

/-- `payload["usage"]`, where it can be indexed by a text. -/
def storedUsage (payload : List (String × Json)) : Option (List (String × Json)) :=
  match Json.field? payload "usage" with
  | some (.obj usage) => some usage
  | _ => none

/-- The fields of `ProposalCandidate` without a default. -/
def requiredCandidateFields : List String := "candidate_id" :: v1CandidateFields

def proposalCandidateFields : List String :=
  requiredCandidateFields ++ ["active", "operator", "router", "memory_policy", "preconditions",
    "expected_external_effect", "expected_internal_effect", "falsification"]

/-- A candidate that was stored as a whole `ProposalCandidate`. -/
def frozenV1Result (payload fields : List (String × Json)) : Except String ProposalResult := do
  require ((∀ field ∈ fields, field.1 ∈ proposalCandidateFields) ∧
      ∀ name ∈ requiredCandidateFields, name ∈ fields.map Prod.fst)
    "frozen v1 candidate is invalid"
  match (storedUsage payload).bind fun usage =>
      usageOf payload usage "input_tokens" "output_tokens"
        (Json.field? usage "estimated_cost_cny") with
  | none => .error "frozen v1 candidate is invalid"
  | some usage =>
    .ok ⟨{ candidateId := payloadGet fields "candidate_id"
           protocol := payloadGet fields "protocol"
           promptTemplate := payloadGet fields "prompt_template"
           skillText := payloadGet fields "skill_text"
           evalNote := payloadGet fields "eval_note"
           active := payloadGet fields "active"
           operator := payloadGet fields "operator"
           router := payloadGet fields "router"
           memoryPolicy := payloadGet fields "memory_policy"
           preconditions := (Json.field? fields "preconditions").getD (.arr [])
           expectedExternalEffect := payloadGet fields "expected_external_effect"
           expectedInternalEffect := payloadGet fields "expected_internal_effect"
           falsification := payloadGet fields "falsification" }, usage⟩

/-- A candidate that was stored as the Teacher gave it. -/
def frozenTeacherResult (payload fields : List (String × Json)) :
    Except String ProposalResult := do
  let _ ← validateTeacherCandidate (.obj (Decoded.ofFields fields))
  let sha256 := Json.contentSha256 (.obj fields)
  require (payloadGet payload "candidate_sha256" = .null ∨
      payloadGet payload "candidate_sha256" = .str sha256)
    "frozen teacher candidate hash mismatch"
  match (storedUsage payload).bind fun usage =>
      usageOf payload usage "prompt_tokens" "completion_tokens"
        (Json.field? payload "estimated_cost_cny") with
  | none => .error "frozen teacher usage is invalid"
  | some usage =>
    .ok ⟨{ candidateId := .str ("candidate-" ++ String.ofList (sha256.toList.take 16))
           protocol := payloadGet fields "protocol"
           promptTemplate := payloadGet fields "prompt_template"
           skillText := payloadGet fields "skill_text"
           evalNote := payloadGet fields "eval_note"
           active := .bool false
           operator := objectOrNone (payloadGet fields "operator")
           router := objectOrNone (payloadGet fields "router")
           memoryPolicy := objectOrNone (payloadGet fields "memory_policy")
           preconditions := (Json.field? fields "preconditions").getD (.arr [])
           expectedExternalEffect := payloadGet fields "expected_external_effect"
           expectedInternalEffect := payloadGet fields "expected_internal_effect"
           falsification := payloadGet fields "falsification" }, usage⟩

def responseObject (response : JsonFile) : Except String (List (String × Json)) :=
  match response.decoded with
  | some (.obj payload) => .ok payload
  | some _ => .error "frozen teacher response must be an object"
  | none => .error "frozen teacher response is unreadable"

def loadResult (request response : JsonFile) (rawResponse : Option JsonFile) :
    Except String ProposalResult := do
  let payload ← responseObject response
  require (Json.field? payload "candidate_status" ∈ [none, some (.str "inactive")] ∧
      Json.field? payload "auto_activate" ∈ [none, some (.bool false)])
    "Teacher candidate must remain inactive"
  require (payloadGet payload "receipt_sha256" = .null ∨
      payloadGet payload "receipt_sha256" =
        .str (Json.contentSha256 (.obj (payload.filter (·.1 ≠ "receipt_sha256")))))
    "frozen teacher response hash mismatch"
  require (payloadGet payload "request_sha256" = .str request.sha256)
    "frozen teacher request hash mismatch"
  require (payloadGet payload "raw_response_sha256" = .null ∨
      rawResponse.any (fun file =>
        payloadGet payload "raw_response_sha256" = .str file.sha256) = true)
    "frozen raw teacher response hash mismatch"
  match (Json.field? payload "candidate").bind pyDict with
  | none => .error "frozen teacher candidate is invalid"
  | some fields =>
    let result ← if (Json.field? fields "candidate_id").isSome ∧
        (Json.field? fields "active").isSome then frozenV1Result payload fields
      else frozenTeacherResult payload fields
    require (truthy result.candidate.active = false) "Teacher candidate must remain inactive"
    .ok result

namespace CandidateProposer

variable (proposer : CandidateProposer)

def request (requestId : String) (failurePackage : List (String × Json))
    (maxOutputTokens : Int) : Json :=
  .obj [("request_id", .str requestId), ("provider", .str proposer.provider),
    ("model", .str proposer.model), ("max_output_tokens", .int maxOutputTokens),
    ("temperature", (Json.field? failurePackage "temperature").getD (.float 0)),
    ("failure_package", .obj failurePackage),
    ("constraints", .arr [.str "feedback-only", .str "candidate inactive",
      .str "do not modify evaluator or model weights",
      .str "router must cover every selected feedback task"])]

def estimatedInput (request : Json) : Int :=
  max 1 ((Json.utf8 request.canonicalJson).length + 4096)

/-- The amount that is reserved for a request. -/
def reservation (request : Json) (maxOutputTokens : Int) : ℚ :=
  (estimatedInput request * proposer.pricing.input +
    maxOutputTokens * proposer.pricing.output) / 1000000

def reservationId (requestId : String) : String := "teacher-reservation:" ++ requestId

def resultId (requestId : String) : String := "teacher-result:" ++ requestId

def freezeRequest (request : Json) : ProposalM Unit := do
  match (← get).request with
  | some frozen =>
    if frozen.text = (JsonFile.of request).text then pure ()
    else throw (.contractViolation "frozen teacher request identity mismatch")
  | none => modify fun files => { files with request := some (JsonFile.of request) }

def charge (requestId : String) (cost : ℚ) : ProposalM Unit := do
  let _ ← onLedger (record proposer.costLedger (reservationId requestId) (resultId requestId)
    cost 1)

/-- A request whose response is already stored. -/
def replay (requestId : String) (request : Json) (response : JsonFile) :
    ProposalM ProposalResult := do
  match (← get).request with
  | none => throw (.contractViolation "frozen teacher request is missing")
  | some frozen =>
    if frozen.text = (JsonFile.of request).text then
      let result ← contract (loadResult frozen response (← get).rawResponse)
      match jsonAmount? result.usage.estimatedCostCny with
      | some cost => proposer.charge requestId cost
      | none =>
        throw (.ledger (.contractViolation "actual cost must be finite and non-negative"))
      return result
    else throw (.contractViolation "replayed teacher request identity mismatch")

/-- A raw response that an earlier call has stored. -/
def frozenRaw (file : JsonFile) : Except String Json :=
  match file.decoded with
  | some (.obj fields) => .ok (.obj fields)
  | some _ => .error "frozen raw Teacher response must be an object"
  | none => .error "frozen raw Teacher response is unreadable"

/-- `_atomic_write` of the raw response; its encoding may raise. -/
def writeRaw : Option Json → ProposalM Json
  | none => throw .uncaught
  | some encoded => do
    modify fun files => { files with rawResponse := some (JsonFile.of encoded) }
    return encoded

/-- What follows the transport: its answer is stored as it is encoded. -/
def storeRaw (raw : Decoded) : ProposalM Json :=
  match raw with
  | .null => throw (.contractViolation "paid Teacher dispatch returned no response")
  | raw => writeRaw (proposer.python.encode raw)

/-- The only paid call, after its reservation. -/
def dispatch (requestId : String) (request : Json) (cost : ℚ) : ProposalM Json := do
  if ← onLedger (reserve proposer.costLedger (reservationId requestId) cost 1) then
    match proposer.transport request with
    | .error error => throw error
    | .ok raw => proposer.storeRaw raw
  else
    throw (.contractViolation
      "paid Teacher reservation has no response; manual reconcile required")

/-- The stored response before its receipt. -/
def responsePayload (request rawResponse : JsonFile) (raw : Json) (version : Int)
    (content : Decoded) (candidateSha256 : String) (inputTokens outputTokens : Int) (cost : ℚ) :
    List (PyText × Decoded) :=
  [(some "schema_version", .int version),
   (some "request_sha256", .str (some request.sha256)),
   (some "provider", .str (some proposer.provider)),
   (some "model", .str (some proposer.model)),
   (some "provider_response_model",
     .str (some (pyStr ((raw.get? "model").getD (.str proposer.model))))),
   (some "candidate", content),
   (some "candidate_status", .str (some "inactive")),
   (some "auto_activate", .bool false),
   (some "usage", .obj [(some "prompt_tokens", .int inputTokens),
     (some "completion_tokens", .int outputTokens),
     (some "total_tokens", .int (inputTokens + outputTokens))]),
   (some "network_calls", .int 1),
   (some "pricing_cny_per_million", .obj [(some "input", .float proposer.pricing.input),
     (some "output", .float proposer.pricing.output)]),
   (some "estimated_cost_cny", .float cost),
   (some "raw_response_sha256", .str (some rawResponse.sha256)),
   (some "candidate_sha256", .str (some candidateSha256))]

/-- The response as it is stored: `none` where an encoding raises. -/
def storedResponse (request rawResponse : JsonFile) (raw : Json) (version : Int)
    (content : Decoded) (inputTokens outputTokens : Int) (cost : ℚ) : Option Json :=
  (proposer.python.encode content).bind fun candidate =>
    (proposer.python.encode (.obj (proposer.responsePayload request rawResponse raw version
      content candidate.contentSha256 inputTokens outputTokens cost))).bind fun payload =>
        match payload with
        | .obj fields => some (.obj (fields ++ [("receipt_sha256", .str payload.contentSha256)]))
        | _ => none

/-- The stored response of a valid candidate, read back. -/
def keepCandidate (raw : Json) (version : Int) (content : Decoded)
    (inputTokens outputTokens : Int) (cost : ℚ) : ProposalM ProposalResult := do
  match (← get).request, (← get).rawResponse with
  | some request, some rawResponse =>
    match proposer.storedResponse request rawResponse raw version content inputTokens
        outputTokens cost with
    | none => throw .uncaught
    | some stored => do
      modify fun files => { files with response := some (JsonFile.of stored) }
      contract (loadResult request (JsonFile.of stored) (some rawResponse))
  | _, _ => throw .uncaught

/-- What follows the charge. -/
def accept (raw : Json) (contentText : String) (inputTokens outputTokens : Int) (cost : ℚ) :
    ProposalM ProposalResult :=
  match proposer.python.loads contentText with
  | .error .jsonDecodeError =>
    throw (.contractViolation "teacher response contract is invalid")
  | .error .other => throw .uncaught
  | .ok content => do
    let version ← contract (validateTeacherCandidate content)
    proposer.keepCandidate raw version content inputTokens outputTokens cost

/-- The price of the tokens: `none` where a count is beyond the floats. -/
def price (inputTokens outputTokens : Int) : Option ℚ :=
  (proposer.python.floatOfInt inputTokens).bind fun input =>
    (proposer.python.floatOfInt outputTokens).map fun output =>
      (input * proposer.pricing.input + output * proposer.pricing.output) / 1000000

/-- From the raw response to the result. -/
def conclude (requestId : String) (reserved : ℚ) (raw : Json) : ProposalM ProposalResult :=
  match proposer.python.readResponse raw with
  | none => do
    proposer.charge requestId reserved
    throw (.contractViolation "teacher response contract is invalid")
  | some (contentText, inputTokens, outputTokens) =>
    match proposer.price inputTokens outputTokens with
    | none => throw .uncaught
    | some amount =>
      match proposer.python.round8 amount with
      | none =>
        throw (.ledger (.contractViolation "actual cost must be finite and non-negative"))
      | some cost => do
        proposer.charge requestId cost
        proposer.accept raw contentText inputTokens outputTokens cost

/-- The raw response, of an earlier call or of the transport. -/
def obtainRaw (requestId : String) (request : Json) (cost : ℚ) : ProposalM Json := do
  match (← get).rawResponse with
  | some file => contract (frozenRaw file)
  | none => proposer.dispatch requestId request cost

def propose (requestId : String) (failurePackage : List (String × Json))
    (maxOutputTokens : Int) : ProposalM ProposalResult := do
  let request := proposer.request requestId failurePackage maxOutputTokens
  let cost := proposer.reservation request maxOutputTokens
  if containsProhibited proposer.python.casefold (.obj failurePackage) then
    throw (.contractViolation "teacher package contains prohibited leakage fields")
  else
    match (← get).response with
    | some response => proposer.replay requestId request response
    | none => do
      freezeRequest request
      let raw ← proposer.obtainRaw requestId request cost
      proposer.conclude requestId cost raw

end CandidateProposer

end JlensEvolve.Proposals
