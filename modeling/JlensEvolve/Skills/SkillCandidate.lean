import JlensEvolve.SkillLoop.Revisions

/-!
`SkillEvidenceRef` and `SkillCandidate` of `skill_registry.py`. Evidence refers
to files, so a candidate is valid under a disk.
-/

namespace JlensEvolve.Skills

open Library Contracts SkillLoop

/-- The digest of the file at an absolute path; `none` where there is none. -/
abbrev Disk := String → Option String

structure SkillEvidenceRef where
  path : String
  sha256 : String
  role : String
deriving DecidableEq

namespace SkillEvidenceRef

def validate (disk : Disk) (ref : SkillEvidenceRef) : Except String Unit := do
  require ((disk ref.path).isSome = true) ("evidence path is not an absolute file: " ++ ref.path)
  require (isSha256 ref.sha256 = true) "invalid evidence sha256"
  require (disk ref.path = some ref.sha256) ("evidence sha256 mismatch: " ++ ref.path)
  require (ref.role ≠ "") "evidence role must be non-empty"

def toDict (ref : SkillEvidenceRef) : Json :=
  .obj [("path", .str ref.path), ("sha256", .str ref.sha256), ("role", .str ref.role)]

def fromDict (disk : Disk) : Json → Except String SkillEvidenceRef
  | .obj fields => do
      require (hasKeys fields ["path", "sha256", "role"]) "invalid evidence ref fields"
      let text name := pyStr (payloadGet fields name)
      let ref : SkillEvidenceRef := ⟨text "path", text "sha256", text "role"⟩
      ref.validate disk
      pure ref
  | _ => .error "invalid evidence ref fields"

end SkillEvidenceRef

inductive SkillStatus where
  | candidate
  | transferVerified
  | rejected
deriving DecidableEq, Repr

namespace SkillStatus

def text : SkillStatus → String
  | .candidate => "candidate"
  | .transferVerified => "transfer_verified"
  | .rejected => "rejected"

def ofText? (value : String) : Option SkillStatus :=
  [candidate, transferVerified, rejected].find? fun status => status.text = value

@[simp] theorem ofText?_text (status : SkillStatus) : ofText? status.text = some status := by
  cases status <;> rfl

/-- `_TERMINAL_STATUSES`. -/
def terminal (status : SkillStatus) : Bool := status ≠ .candidate

end SkillStatus

structure SkillCandidate where
  schemaVersion : Json
  skillId : String
  revisionId : String
  parentRevisionId : Option String
  status : SkillStatus
  statusReason : String
  taskFamily : String
  content : List String
  sourceTaskIds : List String
  applicability : List (String × Json)
  counterexamples : List String
  knownFailureModes : List String
  evidenceRefs : List SkillEvidenceRef
  projectLocalOnly : Json
  autoInstall : Json
  active : Json
deriving DecidableEq

namespace SkillCandidate

variable (candidate : SkillCandidate)

def contentSha256 : String :=
  Sha256.hexdigest (Json.utf8 (String.intercalate "\n" candidate.content))

/-- `_content_dict`, with this for the evidence. -/
def contentWith (evidence : List Json) : List (String × Json) :=
  [("schema_version", candidate.schemaVersion), ("skill_id", .str candidate.skillId),
    ("revision_id", .str candidate.revisionId),
    ("parent_revision_id", optionText candidate.parentRevisionId),
    ("status", .str candidate.status.text), ("status_reason", .str candidate.statusReason),
    ("task_family", .str candidate.taskFamily), ("content", .arr (candidate.content.map .str)),
    ("source_task_ids", .arr (candidate.sourceTaskIds.map .str)),
    ("applicability", .obj candidate.applicability),
    ("counterexamples", .arr (candidate.counterexamples.map .str)),
    ("known_failure_modes", .arr (candidate.knownFailureModes.map .str)),
    ("evidence_refs", .arr evidence), ("project_local_only", candidate.projectLocalOnly),
    ("auto_install", candidate.autoInstall), ("active", candidate.active),
    ("content_sha256", .str candidate.contentSha256)]

/-- Where a file lies is not part of it. -/
def candidateFingerprint : String :=
  (Json.obj (candidate.contentWith (candidate.evidenceRefs.map fun ref =>
    .obj [("sha256", .str ref.sha256), ("role", .str ref.role)]))).contentSha256

def toDict : Json :=
  .obj (candidate.contentWith (candidate.evidenceRefs.map SkillEvidenceRef.toDict) ++
    [("candidate_fingerprint", .str candidate.candidateFingerprint)])

/-- `applicability["required_semantics"]`, where it is a list. -/
def requiredSemantics : List Json :=
  match payloadGet candidate.applicability "required_semantics" with
  | .arr items => items
  | _ => []

def validate (disk : Disk) : Except String Unit := do
  require (Json.pyEq candidate.schemaVersion (.int 1) = true) "unsupported skill schema"
  requireIdentifier "skill_id" candidate.skillId
  requireIdentifier "revision_id" candidate.revisionId
  requireOptionalIdentifier "parent_revision_id" candidate.parentRevisionId
  require (isText candidate.statusReason = true) "status reason must be non-empty"
  require (candidate.taskFamily ≠ "" ∧ candidate.content ≠ [] ∧ candidate.sourceTaskIds ≠ [])
    "task family, content and source tasks are required"
  require (candidate.requiredSemantics ≠ []) "applicability requires semantic predicates"
  require (candidate.counterexamples ≠ [] ∧ candidate.knownFailureModes ≠ [])
    "counterexamples and failure modes are required"
  require (candidate.evidenceRefs ≠ []) "skill evidence is required"
  candidate.evidenceRefs.forM (SkillEvidenceRef.validate disk)
  require (candidate.projectLocalOnly = .bool true) "skill must be project-local"
  require (candidate.autoInstall = .bool false) "skill cannot request automatic install"
  require (candidate.active = .bool false) "candidate skill cannot be active"

def fieldNames : List String :=
  ["schema_version", "skill_id", "revision_id", "parent_revision_id", "status", "status_reason",
    "task_family", "content", "source_task_ids", "applicability", "counterexamples",
    "known_failure_modes", "evidence_refs", "project_local_only", "auto_install", "active",
    "content_sha256", "candidate_fingerprint"]

/-- `tuple(str(row) for row in value)`. -/
def textTuple (value : Json) : Except String (List String) :=
  match pyTuple value with
  | some items => .ok (items.map pyStr)
  | none => .error "value is not iterable"

/-- `value` where it is `None` or a text; anything else fails its check. -/
def optionalText : Json → Except String (Option String)
  | .null => .ok none
  | .str value => .ok (some value)
  | _ => .error "invalid parent_revision_id"

def fromDict (disk : Disk) : Json → Except String SkillCandidate
  | .obj fields => do
      require (hasKeys fields fieldNames) "invalid SkillCandidate fields"
      let text name := pyStr (payloadGet fields name)
      let content ← textTuple (payloadGet fields "content")
      let sourceTaskIds ← textTuple (payloadGet fields "source_task_ids")
      let counterexamples ← textTuple (payloadGet fields "counterexamples")
      let knownFailureModes ← textTuple (payloadGet fields "known_failure_modes")
      let parentRevisionId ← optionalText (payloadGet fields "parent_revision_id")
      let rows ← (pyTuple (payloadGet fields "evidence_refs")).elim
        (.error "value is not iterable") Except.ok
      let evidenceRefs ← rows.mapM (SkillEvidenceRef.fromDict disk)
      let applicability ← (pyDict (payloadGet fields "applicability")).elim
        (.error "cannot convert applicability to a dictionary") Except.ok
      let status ← (SkillStatus.ofText? (text "status")).elim
        (.error "invalid skill status") Except.ok
      let candidate : SkillCandidate := {
        schemaVersion := payloadGet fields "schema_version"
        skillId := text "skill_id"
        revisionId := text "revision_id"
        parentRevisionId
        status
        statusReason := text "status_reason"
        taskFamily := text "task_family"
        content
        sourceTaskIds
        applicability
        counterexamples
        knownFailureModes
        evidenceRefs
        projectLocalOnly := payloadGet fields "project_local_only"
        autoInstall := payloadGet fields "auto_install"
        active := payloadGet fields "active" }
      candidate.validate disk
      require (payloadGet fields "content_sha256" = .str candidate.contentSha256)
        "content sha256 mismatch"
      require (payloadGet fields "candidate_fingerprint" = .str candidate.candidateFingerprint)
        "candidate fingerprint mismatch"
      pure candidate
  | _ => .error "invalid SkillCandidate fields"

end SkillCandidate

end JlensEvolve.Skills

/-!
`SkillRegistry` of `skill_registry.py`. `append` reads the file line by line and
looks at the fingerprints alone, `read_revisions` splits its text at every line
boundary of Unicode and decodes each row.
-/

namespace JlensEvolve.Skills

open Library Contracts SkillLoop

def candidateFormat (disk : Disk) : RowFormat String SkillCandidate where
  encode := SkillCandidate.toDict
  decode := SkillCandidate.fromDict disk
  undecodable := "JSONDecodeError"

/-- `json.loads(line)[name]`. -/
def lineField (name : String) : Option Json → Except String Json
  | some (.obj fields) => (Json.field? fields name).elim (.error "KeyError") Except.ok
  | some _ => .error "TypeError"
  | none => .error "JSONDecodeError"

def lineFields (name : String) (rows : List Json) : Except String (List Json) :=
  (linesAt isNewline rows).mapM (lineField name)

/-- What can be an element of a set. -/
def hashable : Json → Bool
  | .arr _ => false
  | .obj _ => false
  | _ => true

/-- The arguments of `transition`. -/
structure SkillTransition where
  skillId : String
  newStatus : SkillStatus
  reason : String
  evidenceRefs : List SkillEvidenceRef

/-- The rows of `registry.jsonl`. -/
structure SkillRegistry where
  rows : List Json

namespace SkillRegistry

variable (disk : Disk) (registry : SkillRegistry)

def readRevisions : Except String (List SkillCandidate) :=
  (candidateFormat disk).read isLineBoundary registry.rows

def latest (skillId : String) : Except String (Option SkillCandidate) := do
  let revisions ← registry.readRevisions disk
  pure (revisions.filter fun row => row.skillId = skillId).getLast?

def append (candidate : SkillCandidate) : Except String (Bool × SkillRegistry) := do
  candidate.validate disk
  let existing ← lineFields "candidate_fingerprint" registry.rows
  if .str candidate.candidateFingerprint ∈ existing then pure (false, registry)
  else pure (true, ⟨registry.rows ++ [candidate.toDict]⟩)

/-- `{row.skill_id: row for row in revisions}`. -/
def latestOf (revisions : List SkillCandidate) : Dict String SkillCandidate :=
  revisions.foldl (fun rows row => rows.set row.skillId row) Dict.empty

/-- `set(candidate.applicability["required_semantics"])`. -/
def requiredSet (candidate : SkillCandidate) : Except String (List Json) := do
  require (candidate.requiredSemantics.all hashable = true) "unhashable type"
  pure candidate.requiredSemantics

/-- One turn of the loop of `retrieve`. -/
def selects (taskFamily : String) (semantics : List String) (candidate : SkillCandidate) :
    Except String Bool := do
  let required ← requiredSet candidate
  pure (decide (candidate.taskFamily = taskFamily) && decide (candidate.status ≠ .rejected) &&
    required.all fun item => (semantics.map Json.str).contains item)

/-- Verified candidates first, then by skill. -/
def before (first second : SkillCandidate) : Bool :=
  let unverified (row : SkillCandidate) := decide (row.status ≠ .transferVerified)
  (!unverified first && unverified second) ||
    (unverified first == unverified second && decide (first.skillId ≤ second.skillId))

/-- `items[:limit]`; a negative limit counts from the end. -/
def firstItems (limit : Int) (items : List SkillCandidate) : List SkillCandidate :=
  items.take (if limit < 0 then items.length + limit else limit).toNat

def retrieve (taskFamily : String) (semantics : List String) (limit : Int) :
    Except String (List SkillCandidate) := do
  let revisions ← registry.readRevisions disk
  let selected ← (latestOf revisions).values.filterM (selects taskFamily semantics)
  pure (firstItems limit (selected.mergeSort before))

/-- The id of the revision that `transition` makes. -/
def transitionRevisionId (current : SkillCandidate) (transition : SkillTransition)
    (evidence : List SkillEvidenceRef) : String :=
  current.skillId ++ "-" ++ String.ofList ((Json.contentSha256 (.obj
    [("parent", .str current.revisionId), ("status", .str transition.newStatus.text),
      ("reason", .str transition.reason),
      ("evidence", .arr (evidence.map fun ref => .str ref.sha256))])).toList.take 12)

/-- The revision that `transition` makes of the latest one. -/
def successor (current : SkillCandidate) (transition : SkillTransition) : SkillCandidate :=
  let evidence := fromKeys (current.evidenceRefs ++ transition.evidenceRefs)
  { current with
    revisionId := transitionRevisionId current transition evidence
    parentRevisionId := some current.revisionId
    status := transition.newStatus
    statusReason := transition.reason
    evidenceRefs := evidence }

/-- `transition` up to its append, with no lock held. -/
def propose (transition : SkillTransition) : Except String SkillCandidate := do
  match ← registry.latest disk transition.skillId with
  | none => .error ("unknown skill: " ++ transition.skillId)
  | some current => do
      require (current.status = .candidate ∧ transition.newStatus.terminal = true)
        ("illegal skill transition: " ++ current.status.text ++ "->" ++ transition.newStatus.text)
      let revision := successor current transition
      revision.validate disk
      pure revision

end SkillRegistry

end JlensEvolve.Skills
