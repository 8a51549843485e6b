import JlensEvolve.Library.AppendLog
import JlensEvolve.Registry.Records

/-!
`governance/decisions.py`: promotion decisions, their signing authority and the
append-only decision log. The signature is the real HMAC over the canonical
text of the signing payload. A log line whose fields have other types than the
constructor is annotated with is refused like one with a missing field.
-/

namespace JlensEvolve.Governance

open Library Contracts

inductive GovernanceError where
  | contractViolation (message : String)
  | decisionLogError (message : String)
  | decisionLogBusy (message : String)
  | registry (error : Registry.RegistryError)
deriving DecidableEq, Repr

inductive GateDecision where
  | approved
  | humanApprovalRequired
  | noChange
  | rejected
  | blocked
deriving DecidableEq, Repr

def GateDecision.text : GateDecision → String
  | .approved => "approved"
  | .humanApprovalRequired => "human_approval_required"
  | .noChange => "no_change"
  | .rejected => "rejected"
  | .blocked => "blocked"

/-- `GateDecision(value)`. -/
def GateDecision.ofText? : String → Option GateDecision
  | "approved" => some .approved
  | "human_approval_required" => some .humanApprovalRequired
  | "no_change" => some .noChange
  | "rejected" => some .rejected
  | "blocked" => some .blocked
  | _ => none

theorem GateDecision.ofText?_text (gate : GateDecision) : ofText? gate.text = some gate := by
  cases gate <;> rfl

theorem GateDecision.ofText?_eq_some {text : String} {gate : GateDecision}
    (h : ofText? text = some gate) : text = gate.text := by
  unfold ofText? at h
  split at h <;> cases h <;> rfl

/-- What the field `gate_decision` may hold: the constructor takes any object,
so a caller may put another value there, for instance a plain text. -/
inductive GateValue where
  | member (gate : GateDecision)
  | other (value : Json)
deriving DecidableEq

/-- `str(gate_decision)`. -/
def GateValue.text : GateValue → String
  | .member gate => gate.text
  | .other value => pyStr value

def GateValue.toJson : GateValue → Json
  | .member gate => .str gate.text
  | .other value => value

structure PromotionDecision where
  decisionId : String
  candidateId : String
  candidateRevisionId : String
  gateDecision : GateValue
  evidenceGrade : ClaimGrade
  claimIds : List String
  predictionEvidenceIds : List String
  humanApproval : Json
  decidedAt : String
  rationale : String
  evidenceStateSha256 : Option String
  authorityKeyId : Option String
  authoritySignatureHmacSha256 : Option String
deriving DecidableEq

def literalSha256OrNone (name : String) (value : Option String) : Except GovernanceError Unit :=
  require (value.all isSha256 = true) (.contractViolation s!"{name} must be a literal SHA-256")

def PromotionDecision.postInit (decision : PromotionDecision) : Except GovernanceError Unit := do
  require ([decision.decisionId, decision.candidateId, decision.candidateRevisionId,
      decision.decidedAt, decision.rationale].all isText = true)
    (.contractViolation "promotion decision identities must be non-empty")
  require (decision.claimIds ≠ [])
    (.contractViolation "promotion decision must reference claims")
  literalSha256OrNone "evidence_state_sha256" decision.evidenceStateSha256
  literalSha256OrNone "authority_signature_hmac_sha256" decision.authoritySignatureHmacSha256
  require (decision.authorityKeyId.all isText = true)
    (.contractViolation "authority_key_id must be non-empty")

/-- The fields up to the signature, in the order of the class, with the form
of the gate decision left to the caller. -/
def PromotionDecision.unsignedFields (decision : PromotionDecision) (gate : Json) :
    List (String × Json) :=
  [("decision_id", .str decision.decisionId), ("candidate_id", .str decision.candidateId),
    ("candidate_revision_id", .str decision.candidateRevisionId), ("gate_decision", gate),
    ("evidence_grade", .str decision.evidenceGrade.text),
    ("claim_ids", .arr (decision.claimIds.map .str)),
    ("prediction_evidence_ids", .arr (decision.predictionEvidenceIds.map .str)),
    ("human_approval", decision.humanApproval), ("decided_at", .str decision.decidedAt),
    ("rationale", .str decision.rationale),
    ("evidence_state_sha256", optionText decision.evidenceStateSha256),
    ("authority_key_id", optionText decision.authorityKeyId)]

def PromotionDecision.fields (decision : PromotionDecision) (gate : Json) :
    List (String × Json) :=
  decision.unsignedFields gate ++
    [("authority_signature_hmac_sha256", optionText decision.authoritySignatureHmacSha256)]

def PromotionDecision.contentSha256 (decision : PromotionDecision) : String :=
  (Json.obj (decision.fields decision.gateDecision.toJson)).contentSha256

/-- The generated `__eq__`, field by field; a member of `GateDecision` equals
its own text. -/
def PromotionDecision.same (first second : PromotionDecision) : Bool :=
  first.decisionId = second.decisionId ∧ first.candidateId = second.candidateId ∧
    first.candidateRevisionId = second.candidateRevisionId ∧
    Json.pyEq first.gateDecision.toJson second.gateDecision.toJson ∧
    first.evidenceGrade = second.evidenceGrade ∧ first.claimIds = second.claimIds ∧
    first.predictionEvidenceIds = second.predictionEvidenceIds ∧
    Json.pyEq first.humanApproval second.humanApproval ∧
    first.decidedAt = second.decidedAt ∧ first.rationale = second.rationale ∧
    first.evidenceStateSha256 = second.evidenceStateSha256 ∧
    first.authorityKeyId = second.authorityKeyId ∧
    first.authoritySignatureHmacSha256 = second.authoritySignatureHmacSha256

@[simp] theorem PromotionDecision.same_self (decision : PromotionDecision) :
    decision.same decision = true := by
  simp [same]

/-- The arguments the constructor accepts. -/
structure GovernanceDecisionAuthority where
  keyId : String
  secretKey : List Nat
  keyId_text : isText keyId = true
  secretKey_length : 32 ≤ secretKey.length

def decisionSigningPayload (decision : PromotionDecision) : Json :=
  .obj (decision.unsignedFields (.str decision.gateDecision.text))

def GovernanceDecisionAuthority.signature (authority : GovernanceDecisionAuthority)
    (decision : PromotionDecision) : String :=
  Sha256.hmacHexdigest authority.secretKey
    (Json.utf8 (decisionSigningPayload decision).canonicalJson)

theorem GovernanceDecisionAuthority.signature_isSha256 (authority : GovernanceDecisionAuthority)
    (decision : PromotionDecision) : isSha256 (authority.signature decision) = true :=
  Sha256.hexdigest_isSha256 _

/-- `sign`. The two replacements run the constructor checks again, which pass
for a key id that is a text and a signature that is a digest. -/
def GovernanceDecisionAuthority.sign (authority : GovernanceDecisionAuthority)
    (decision : PromotionDecision) : PromotionDecision :=
  let unsigned := { decision with
    authorityKeyId := some authority.keyId
    authoritySignatureHmacSha256 := none }
  { unsigned with authoritySignatureHmacSha256 := some (authority.signature unsigned) }

/-- `verify`. The signing payload leaves the signature out, so clearing it first
changes nothing. -/
def GovernanceDecisionAuthority.verify (authority : GovernanceDecisionAuthority)
    (decision : PromotionDecision) : Bool :=
  match decision.authoritySignatureHmacSha256 with
  | some signature =>
    decision.authorityKeyId = some authority.keyId ∧ signature = authority.signature decision
  | none => false

theorem GovernanceDecisionAuthority.verify_sign (authority : GovernanceDecisionAuthority)
    (decision : PromotionDecision) : authority.verify (authority.sign decision) = true := by
  simp [verify, sign, signature, decisionSigningPayload, PromotionDecision.unsignedFields]

def decisionIdentity (payload : Json) : String := "decision-" ++ payload.contentSha256

/-- The log object; its file is the state of the programs below. -/
structure PromotionDecisionLog where
  authority : Option GovernanceDecisionAuthority

abbrev LogM := EStateM GovernanceError AppendLog

/-- `_verify_authoritative_decision`, as a condition. -/
def PromotionDecisionLog.authoritative (log : PromotionDecisionLog)
    (decision : PromotionDecision) : Bool :=
  decision.gateDecision.text ≠ "approved" ||
    (log.authority.any (fun authority => authority.verify decision) &&
      decision.evidenceStateSha256.isSome)

def PromotionDecisionLog.verifyAuthoritative (log : PromotionDecisionLog)
    (decision : PromotionDecision) : Except GovernanceError Unit :=
  require (log.authoritative decision = true)
    (.decisionLogError "approved promotion decision lacks valid governance authority")

def textField (fields : List (String × Json)) (key : String) : Option String :=
  match Json.field? fields key with
  | some (.str value) => some value
  | _ => none

/-- A field that may be absent or null. -/
def optionalTextField (fields : List (String × Json)) (key : String) : Option (Option String) :=
  match payloadGet fields key with
  | .str value => some (some value)
  | .null => some none
  | _ => none

def textItems : List Json → Option (List String)
  | [] => some []
  | .str value :: rest => (textItems rest).map (value :: ·)
  | _ :: _ => none

def textListField (fields : List (String × Json)) (key : String) : Option (List String) :=
  match Json.field? fields key with
  | some (.arr items) => textItems items
  | _ => none

/-- `payload.get(key, ())` of a list of texts. -/
def textListFieldOrEmpty (fields : List (String × Json)) (key : String) : Option (List String) :=
  match Json.field? fields key with
  | none => some []
  | some _ => textListField fields key

def gradeOfText? : String → Option ClaimGrade
  | "E0" => some .E0
  | "E1" => some .E1
  | "E2" => some .E2
  | "E3" => some .E3
  | _ => none

/-- The constructor call of `all`, with its conversions. -/
def PromotionDecision.decode (fields : List (String × Json)) : Option PromotionDecision := do
  let decision : PromotionDecision :=
    { decisionId := ← textField fields "decision_id"
      candidateId := ← textField fields "candidate_id"
      candidateRevisionId := ← textField fields "candidate_revision_id"
      gateDecision := .member (← (← textField fields "gate_decision") |> GateDecision.ofText?)
      evidenceGrade := ← (← textField fields "evidence_grade") |> gradeOfText?
      claimIds := ← textListField fields "claim_ids"
      predictionEvidenceIds := ← textListFieldOrEmpty fields "prediction_evidence_ids"
      humanApproval := ← Json.field? fields "human_approval"
      decidedAt := ← textField fields "decided_at"
      rationale := ← textField fields "rationale"
      evidenceStateSha256 := ← optionalTextField fields "evidence_state_sha256"
      authorityKeyId := ← optionalTextField fields "authority_key_id"
      authoritySignatureHmacSha256 :=
        ← optionalTextField fields "authority_signature_hmac_sha256" }
  guard (decision.postInit = .ok ())
  return decision

/-- The fields a decision written by an earlier version lacks; only then the
digest may be the one over the raw payload. -/
def laterFields : List String :=
  ["prediction_evidence_ids", "evidence_state_sha256", "authority_key_id",
    "authority_signature_hmac_sha256"]

def validRecordSha256 (decision : PromotionDecision) (original : List (String × Json))
    (expected : Json) : Bool :=
  match expected with
  | .str digest =>
    isSha256 digest && (digest = decision.contentSha256 ||
      (laterFields.any (fun name => (Json.field? original name).isNone) &&
        digest = (Json.obj original).contentSha256))
  | _ => false

/-- One turn of the loop of `all`. -/
def PromotionDecisionLog.readLine (log : PromotionDecisionLog) (lineNumber : Nat)
    (line : Option Json) : Except GovernanceError PromotionDecision :=
  match line with
  | some (.obj payload) =>
    let original := payload.filter (·.1 ≠ "record_sha256")
    match Json.field? payload "record_sha256", PromotionDecision.decode original with
    | some expected, some decision => do
        require (validRecordSha256 decision original expected = true)
          (.decisionLogError s!"promotion decision hash mismatch at line {lineNumber}")
        log.verifyAuthoritative decision
        return decision
    | _, _ => .error (.decisionLogError s!"invalid promotion decision at line {lineNumber}")
  | _ => .error (.decisionLogError s!"invalid promotion decision at line {lineNumber}")

def PromotionDecisionLog.readLines (log : PromotionDecisionLog) :
    Nat → List (Option Json) → Except GovernanceError (List PromotionDecision)
  | _, [] => .ok []
  | lineNumber, line :: rest => do
      let decision ← log.readLine lineNumber line
      let others ← log.readLines (lineNumber + 1) rest
      return decision :: others

def PromotionDecisionLog.all (log : PromotionDecisionLog) (lines : List (Option Json)) :
    Except GovernanceError (List PromotionDecision) := do
  let decisions ← log.readLines 1 lines
  require ((decisions.map PromotionDecision.decisionId).Nodup)
    (.decisionLogError "duplicate promotion decision identity")
  return decisions

/-- Whether an equal decision is in the log already; another one under the same
id is a conflict. -/
def PromotionDecisionLog.alreadyLogged (log : PromotionDecisionLog)
    (decision : PromotionDecision) : LogM Bool := do
  let decisions ← check (log.all (← get).lines)
  match decisions.find? (fun item => item.decisionId = decision.decisionId) with
  | some existing =>
    if existing.same decision then return true
    else throw (.decisionLogError "conflicting immutable promotion decision")
  | none => return false

/-- The object a decision is written as. -/
def PromotionDecision.logPayload (decision : PromotionDecision) : Json :=
  .obj (decision.fields (.str decision.gateDecision.text) ++
    [("record_sha256", .str decision.contentSha256)])

def PromotionDecisionLog.append (log : PromotionDecisionLog) (decision : PromotionDecision) :
    LogM Bool := do
  check (log.verifyAuthoritative decision)
  if ← log.alreadyLogged decision then return false
  AppendLog.underLease (.decisionLogBusy "promotion decision writer lease is held") do
    if ← log.alreadyLogged decision then return false
    modify fun file => file.append decision.logPayload
    return true

def PromotionDecisionLog.verifiedApproved (log : PromotionDecisionLog)
    (lines : List (Option Json)) (decisionId : String) :
    Except GovernanceError PromotionDecision := do
  let decisions ← log.all lines
  match decisions.filter (fun item => item.decisionId = decisionId) with
  | [decision] => do
      require (decision.gateDecision.text = "approved")
        (.decisionLogError "promotion decision is not approved")
      log.verifyAuthoritative decision
      return decision
  | _ => .error (.decisionLogError "approved promotion decision is missing or ambiguous")

end JlensEvolve.Governance
