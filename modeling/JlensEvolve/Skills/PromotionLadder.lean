import JlensEvolve.Skills.SkillCandidate

/-!
`ReviewDecision` and `PromotionLadder` of `promotion_ladder.py`: human decisions
on revisions of skills, one row each. A `reviewed` decision expires after thirty
days.
-/

namespace JlensEvolve.Skills

open Library Contracts SkillLoop

/-- `_REVIEW_DECISIONS`. -/
inductive Review where
  | reviewed
  | active
  | rejected
deriving DecidableEq, Repr

namespace Review

def text : Review → String
  | .reviewed => "reviewed"
  | .active => "active"
  | .rejected => "rejected"

def ofText? (value : String) : Option Review :=
  [reviewed, active, rejected].find? fun review => review.text = value

@[simp] theorem ofText?_text (review : Review) : ofText? review.text = some review := by
  cases review <;> rfl

end Review

structure ReviewDecision where
  schemaVersion : Json
  skillId : String
  revisionId : String
  decision : Review
  reviewer : String
  reviewedAtUtc : String
  notes : String
  evidenceRefs : List (List (String × Json))
deriving DecidableEq

namespace ReviewDecision

variable (fromisoformat : Fromisoformat) (row : ReviewDecision)

/-- What `_IDENTIFIER` allows after the first character. -/
def isIdentifierChar (c : Char) : Bool :=
  c.isAlphanum || c == '.' || c == '_' || c == '/' || c == '-'

/-- `_IDENTIFIER.fullmatch(value) is not None`. -/
def isIdentifier (value : String) : Bool :=
  match value.toList with
  | [] => false
  | c :: rest => c.isAlphanum && decide (rest.length ≤ 191) && rest.all isIdentifierChar

/-- `value.replace("Z", "+00:00")`. -/
def withOffset (value : String) : String :=
  String.ofList (value.toList.flatMap fun c => if c = 'Z' then "+00:00".toList else [c])

def timestamp? (value : String) : Option Timestamp := fromisoformat (withOffset value)

def validateRef (ref : List (String × Json)) : Except String Unit := do
  require (hasKeys ref ["path", "sha256", "role"]) "invalid evidence ref fields"
  require (isSha256 (pyStr (payloadGet ref "sha256")) = true) "invalid evidence sha256"

def validate : Except String Unit := do
  require (Json.pyEq row.schemaVersion (.int 1) = true) "unsupported ladder schema"
  require (isIdentifier row.skillId = true) "invalid skill_id"
  require (isIdentifier row.revisionId = true) "invalid revision_id"
  require (isText row.reviewer = true) "reviewer identity is required"
  require ((timestamp? fromisoformat row.reviewedAtUtc).isSome = true) "invalid reviewed_at_utc"
  row.evidenceRefs.forM validateRef

/-- What the fingerprint covers. -/
def stable : List (String × Json) :=
  [("schema_version", row.schemaVersion), ("skill_id", .str row.skillId),
    ("revision_id", .str row.revisionId), ("decision", .str row.decision.text),
    ("reviewer", .str row.reviewer), ("reviewed_at_utc", .str row.reviewedAtUtc),
    ("notes", .str row.notes), ("evidence_refs", .arr (row.evidenceRefs.map .obj))]

def rowFingerprint : String := (Json.obj row.stable).contentSha256

def fields : List (String × Json) := row.stable ++ [("row_fingerprint", .str row.rowFingerprint)]

def toDict : Json := .obj row.fields

def fieldNames : List String :=
  ["schema_version", "skill_id", "revision_id", "decision", "reviewer", "reviewed_at_utc", "notes",
    "evidence_refs", "row_fingerprint"]

def fromDict : Json → Except String ReviewDecision
  | .obj data => do
      require (hasKeys data fieldNames) "invalid ReviewDecision fields"
      let text name := pyStr (payloadGet data name)
      let refs ← (pyTuple (payloadGet data "evidence_refs")).elim
        (.error "value is not iterable") Except.ok
      let evidenceRefs ← refs.mapM fun ref =>
        (pyDict ref).elim (.error "cannot convert evidence to a dictionary") Except.ok
      let decision ← (Review.ofText? (text "decision")).elim
        (.error "invalid review decision") Except.ok
      let row : ReviewDecision := {
        schemaVersion := payloadGet data "schema_version"
        skillId := text "skill_id"
        revisionId := text "revision_id"
        decision
        reviewer := text "reviewer"
        reviewedAtUtc := text "reviewed_at_utc"
        notes := text "notes"
        evidenceRefs }
      row.validate fromisoformat
      require (payloadGet data "row_fingerprint" = .str row.rowFingerprint)
        "row fingerprint mismatch"
      pure row
  | _ => .error "invalid ReviewDecision fields"

end ReviewDecision

def decisionFormat (fromisoformat : Fromisoformat) : RowFormat String ReviewDecision where
  encode := ReviewDecision.toDict
  decode := ReviewDecision.fromDict fromisoformat
  undecodable := "JSONDecodeError"

inductive EffectiveStatus where
  | candidate
  | active
  | rejected
  | expired
  | reviewed
deriving DecidableEq, Repr

/-- `_REVIEW_TTL_DAYS`, in microseconds. -/
def reviewTtl : Int := 30 * 24 * 60 * 60 * 1000000

/-- The rows of `PROMOTION-LEDGER.jsonl`. -/
structure PromotionLadder where
  rows : List Json

namespace PromotionLadder

variable (fromisoformat : Fromisoformat) (ladder : PromotionLadder)

def record (decision : ReviewDecision) : Except String (Bool × PromotionLadder) := do
  decision.validate fromisoformat
  let existing ← lineFields "row_fingerprint" ladder.rows
  if Json.str decision.rowFingerprint ∈ existing then pure (false, ladder)
  else pure (true, ⟨ladder.rows ++ [decision.toDict]⟩)

def readDecisions : Except String (List ReviewDecision) :=
  (decisionFormat fromisoformat).read isLineBoundary ladder.rows

def latest (skillId revisionId : String) : Except String (Option ReviewDecision) := do
  let decisions ← ladder.readDecisions fromisoformat
  pure (decisions.filter fun row => row.skillId = skillId ∧ row.revisionId = revisionId).getLast?

/-- A naive time cannot be subtracted from a zoned one, nor a zoned one from a
naive one. -/
def minus : Timestamp → Timestamp → Except String Int
  | .zoned later, .zoned earlier => .ok (later - earlier)
  | .naive later, .naive earlier => .ok (later - earlier)
  | _, _ => .error "can't subtract offset-naive and offset-aware datetimes"

/-- Whether a review made at this time holds now. -/
def reviewStatus (reviewedAtUtc nowUtc : String) : Except String EffectiveStatus := do
  let reviewedAt ← (ReviewDecision.timestamp? fromisoformat reviewedAtUtc).elim
    (.error "invalid timestamp") Except.ok
  let now ← (ReviewDecision.timestamp? fromisoformat nowUtc).elim
    (.error "invalid timestamp") Except.ok
  let age ← minus now reviewedAt
  pure (if reviewTtl < age then .expired else .reviewed)

/-- `effective_status`, where `now_utc or _now_utc()` is this text. -/
def effectiveStatus (skillId revisionId nowUtc : String) : Except String EffectiveStatus := do
  match ← ladder.latest fromisoformat skillId revisionId with
  | none => pure .candidate
  | some decision =>
    match decision.decision with
    | .active => pure .active
    | .rejected => pure .rejected
    | .reviewed => reviewStatus fromisoformat decision.reviewedAtUtc nowUtc

end PromotionLadder

end JlensEvolve.Skills
