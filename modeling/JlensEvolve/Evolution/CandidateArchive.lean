import JlensEvolve.Contracts
import JlensEvolve.Library.OneLine
import JlensEvolve.Library.Effect

/-!
`CandidateArchive` of `evolution_archive.py`. A call is the list of its durable
writes and its answer, so that it can be cut off between any two writes. The
line of an event is the event, or `none` where a reader does not get it back:
the canonical text keeps the line boundaries above ASCII and `events` splits the
file at them.
-/

namespace JlensEvolve.Evolution

open Library

inductive ArchiveError where
  | contract (message : String)
  | jsonDecodeError
  | fileExistsError
  | indexError
deriving DecidableEq, Repr

def archiveSha256 (value name : String) : Except ArchiveError Unit :=
  require (Sha256.isSha256 value = true) (.contract ("invalid " ++ name ++ " sha256"))

structure InactiveChangeSet where
  schemaVersion : Int
  changesetId : String
  status : String
  parentAgentProgramSha256 : String
  candidateAgentProgramSha256 : String
  hypothesisIds : List String
  surface : String
  operations : List Json
  rollbackOperations : List Json
  proposer : List (String × String)
  nativeEvaluatorEpoch : String
  nativeEvaluatorAuthority : String
  autoApply : Bool
  productionPromotionAllowed : Bool
deriving DecidableEq

def InactiveChangeSet.toDict (changeset : InactiveChangeSet) : List (String × Json) :=
  [("schema_version", .int changeset.schemaVersion), ("changeset_id", .str changeset.changesetId),
    ("status", .str changeset.status),
    ("parent_agent_program_sha256", .str changeset.parentAgentProgramSha256),
    ("candidate_agent_program_sha256", .str changeset.candidateAgentProgramSha256),
    ("hypothesis_ids", .arr (changeset.hypothesisIds.map .str)),
    ("surface", .str changeset.surface), ("operations", .arr changeset.operations),
    ("rollback_operations", .arr changeset.rollbackOperations),
    ("proposer", .obj (changeset.proposer.map fun field => (field.1, .str field.2))),
    ("native_evaluator_epoch", .str changeset.nativeEvaluatorEpoch),
    ("native_evaluator_authority", .str changeset.nativeEvaluatorAuthority),
    ("auto_apply", .bool changeset.autoApply),
    ("production_promotion_allowed", .bool changeset.productionPromotionAllowed)]

/-- The content of `CHANGESET.json`. -/
structure CandidateBlob where
  changeset : InactiveChangeSet
  archiveBlobSha256 : String
deriving DecidableEq

def CandidateBlob.json (blob : CandidateBlob) : Json :=
  .obj (blob.changeset.toDict ++ [("archive_blob_sha256", .str blob.archiveBlobSha256)])

def InactiveChangeSet.blob (changeset : InactiveChangeSet) : CandidateBlob :=
  ⟨changeset, (Json.obj changeset.toDict).contentSha256⟩

inductive CandidateState where
  | inactive
  | evaluating
  | selected
  | rejected
  | failed
deriving DecidableEq, Repr

namespace CandidateState

def name : CandidateState → String
  | inactive => "inactive"
  | evaluating => "evaluating"
  | selected => "selected"
  | rejected => "rejected"
  | failed => "failed"

def transitions : CandidateState → List CandidateState
  | inactive => [evaluating, failed]
  | evaluating => [selected, rejected, failed]
  | selected => []
  | rejected => []
  | failed => []

end CandidateState

inductive ArchiveEvent where
  | candidateRegistered (candidate parent changesetId blobSha256 : String)
  | candidateStateChanged (candidate parent : String) (fromState toState : CandidateState)
      (reason evidenceSha256 : String)
  | rollbackRecorded (candidate forwardPatchSha256 rollbackPatchSha256 : String)
      (rollbackVerified : Bool) (state : CandidateState)
  | searchParentAdvanced (candidate previousParent decisionSha256 : String)
deriving DecidableEq

namespace ArchiveEvent

def candidate : ArchiveEvent → String
  | candidateRegistered candidate _ _ _ => candidate
  | candidateStateChanged candidate _ _ _ _ _ => candidate
  | rollbackRecorded candidate _ _ _ _ => candidate
  | searchParentAdvanced candidate _ _ => candidate

def toState : ArchiveEvent → CandidateState
  | candidateRegistered _ _ _ _ => .inactive
  | candidateStateChanged _ _ _ toState _ _ => toState
  | rollbackRecorded _ _ _ _ state => state
  | searchParentAdvanced _ _ _ => .selected

def fields : ArchiveEvent → List (String × Json)
  | candidateRegistered candidate parent changesetId blobSha256 =>
    [("event_type", .str "candidate_registered"),
      ("candidate_agent_program_sha256", .str candidate),
      ("parent_agent_program_sha256", .str parent), ("changeset_id", .str changesetId),
      ("candidate_blob_sha256", .str blobSha256), ("from_state", .null),
      ("to_state", .str "inactive"), ("reason", .str "inactive_changeset_registered"),
      ("evidence_sha256", .null)]
  | candidateStateChanged candidate parent fromState toState reason evidenceSha256 =>
    [("event_type", .str "candidate_state_changed"),
      ("candidate_agent_program_sha256", .str candidate),
      ("parent_agent_program_sha256", .str parent), ("from_state", .str fromState.name),
      ("to_state", .str toState.name), ("reason", .str reason),
      ("evidence_sha256", .str evidenceSha256)]
  | rollbackRecorded candidate forwardPatchSha256 rollbackPatchSha256 rollbackVerified state =>
    [("event_type", .str "rollback_recorded"),
      ("candidate_agent_program_sha256", .str candidate),
      ("forward_patch_sha256", .str forwardPatchSha256),
      ("rollback_patch_sha256", .str rollbackPatchSha256),
      ("rollback_verified", .bool rollbackVerified), ("from_state", .str state.name),
      ("to_state", .str state.name), ("reason", .str "rollback_roundtrip_recorded"),
      ("evidence_sha256", .str rollbackPatchSha256)]
  | searchParentAdvanced candidate previousParent decisionSha256 =>
    [("event_type", .str "search_parent_advanced"),
      ("candidate_agent_program_sha256", .str candidate),
      ("previous_parent_sha256", .str previousParent), ("from_state", .str "selected"),
      ("to_state", .str "selected"), ("reason", .str "experimental_search_parent_gate_passed"),
      ("evidence_sha256", .str decisionSha256), ("production_promoted", .bool false)]

end ArchiveEvent

/-- A line of `events.jsonl`. -/
structure ArchiveRow where
  sequence : Nat
  previousEventSha256 : Option String
  event : ArchiveEvent
  eventSha256 : String
deriving DecidableEq

def ArchiveRow.payload (row : ArchiveRow) : List (String × Json) :=
  [("schema_version", .int 1), ("sequence", .int row.sequence),
    ("previous_event_sha256", (row.previousEventSha256.map Json.str).getD .null)] ++
    row.event.fields

def ArchiveRow.json (row : ArchiveRow) : Json :=
  .obj (row.payload ++ [("event_sha256", .str row.eventSha256)])

def ArchiveRow.line (row : ArchiveRow) : Option ArchiveRow :=
  if row.json.canonicalJson.toList.any isLineBoundary then none else some row

structure ParentDecision where
  previousParentSha256 : String
  searchParentSha256 : String
  decisionSha256 : String
  scope : String
  productionPromoted : Bool
deriving DecidableEq

structure ArchiveAuthority where
  originalAgentProgramSha256 : String
  searchParentSha256 : String
  seedParentAgentProgramSha256 : String
  productionActiveRef : Option String
  searchParentHistory : List ParentDecision
deriving DecidableEq

/-- A directory of a candidate may still be without its blob. -/
structure CandidateArchive where
  authority : ArchiveAuthority
  lines : List (Option ArchiveRow)
  directories : Dict String (Option CandidateBlob)

inductive ArchiveWrite where
  | makeDirectory (candidate : String)
  | replaceBlob (candidate : String) (blob : CandidateBlob)
  | replaceAuthority (authority : ArchiveAuthority)
  | appendRow (row : ArchiveRow)
deriving DecidableEq

namespace CandidateArchive

def write (archive : CandidateArchive) : ArchiveWrite → CandidateArchive
  | .makeDirectory candidate =>
    { archive with directories := archive.directories.set candidate none }
  | .replaceBlob candidate blob =>
    { archive with directories := archive.directories.set candidate (some blob) }
  | .replaceAuthority authority => { archive with authority }
  | .appendRow row => { archive with lines := archive.lines ++ [row.line] }

/-- `create`, where no authority exists. -/
def create (originalAgentProgramSha256 seedParentAgentProgramSha256 : String) :
    Except ArchiveError CandidateArchive := do
  archiveSha256 originalAgentProgramSha256 "original AgentProgram"
  archiveSha256 seedParentAgentProgramSha256 "seed parent AgentProgram"
  pure {
    authority := {
      originalAgentProgramSha256
      searchParentSha256 := seedParentAgentProgramSha256
      seedParentAgentProgramSha256
      productionActiveRef := none
      searchParentHistory := [] }
    lines := []
    directories := .empty }

variable (archive : CandidateArchive)

def events : Except ArchiveError (List ArchiveRow) :=
  archive.lines.mapM fun line =>
    match line with
    | some row => .ok row
    | none => .error .jsonDecodeError

/-- The row that `_append_event` writes after these. -/
def nextRow (rows : List ArchiveRow) (event : ArchiveEvent) : ArchiveRow :=
  let row : ArchiveRow :=
    { sequence := rows.length + 1
      previousEventSha256 := rows.getLast?.map ArchiveRow.eventSha256
      event
      eventSha256 := "" }
  { row with eventSha256 := (Json.obj row.payload).contentSha256 }

def blob? (candidate : String) : Option CandidateBlob := (archive.directories.get? candidate).join

def candidates : List String :=
  (archive.directories.keys.filter fun candidate => (archive.blob? candidate).isSome).insertionSort
    (· ≤ ·)

def knownPrograms : List String :=
  archive.authority.originalAgentProgramSha256 :: archive.authority.seedParentAgentProgramSha256 ::
    archive.candidates

/-- The state of a candidate that these events lead to. -/
def replay (rows : List ArchiveRow) (candidate : String) : CandidateState :=
  rows.foldl (fun state row =>
    if row.event.candidate = candidate then row.event.toState else state) .inactive

def candidateState (candidate : String) : Except ArchiveError (CandidateBlob × CandidateState) := do
  archiveSha256 candidate "candidate AgentProgram"
  match archive.blob? candidate with
  | none => .error (.contract "candidate is not registered")
  | some blob =>
    let rows ← archive.events
    pure (blob, replay rows candidate)

/-- Whether the row records a verified rollback of the candidate. -/
def verifiesRollback (candidate : String) (row : ArchiveRow) : Bool :=
  match row.event with
  | .rollbackRecorded other _ _ rollbackVerified _ => other = candidate && rollbackVerified
  | _ => false

end CandidateArchive

/-- What a call does: its durable writes in order, and how it ends. -/
structure ArchiveOutcome where
  writes : List ArchiveWrite
  answer : Except ArchiveError Unit

namespace ArchiveOutcome

def refused (error : ArchiveError) : ArchiveOutcome := ⟨[], .error error⟩

def unchanged : ArchiveOutcome := ⟨[], .ok ()⟩

/-- Writes followed by the append of an event, for which the log is read. -/
def appending (archive : CandidateArchive) (writes : List ArchiveWrite) (event : ArchiveEvent) :
    ArchiveOutcome :=
  match archive.events with
  | .ok rows => ⟨writes ++ [.appendRow (CandidateArchive.nextRow rows event)], .ok ()⟩
  | .error error => ⟨writes, .error error⟩

/-- A call that first makes checks that write nothing. -/
def checked {α : Type} (checks : Except ArchiveError α) (rest : α → ArchiveOutcome) :
    ArchiveOutcome :=
  match checks with
  | .ok a => rest a
  | .error error => refused error

end ArchiveOutcome

namespace CandidateArchive

open ArchiveOutcome

variable (archive : CandidateArchive)

/-- The checks of a registration before the directory of the candidate is looked at. -/
def checkChangeSet (changeset : InactiveChangeSet) : Except ArchiveError Unit := do
  require (changeset.status = "inactive" ∧ changeset.autoApply = false)
    (.contract "candidate must be an inactive ChangeSet")
  require (changeset.productionPromotionAllowed = false)
    (.contract "candidate cannot allow production promotion")
  require (changeset.candidateAgentProgramSha256 ≠ changeset.parentAgentProgramSha256)
    (.contract "candidate lineage self-cycle is forbidden")
  require (changeset.parentAgentProgramSha256 ∈ archive.knownPrograms)
    (.contract "candidate parent is not present in archive lineage")
  archiveSha256 changeset.candidateAgentProgramSha256 "candidate AgentProgram"

def registerCandidate (changeset : InactiveChangeSet) : ArchiveOutcome :=
  checked (archive.checkChangeSet changeset) fun _ =>
    let candidate := changeset.candidateAgentProgramSha256
    match archive.directories.get? candidate with
    | some (some blob) =>
      if Json.pyEq blob.json changeset.blob.json then unchanged
      else refused (.contract "candidate blob is immutable")
    | some none => refused .fileExistsError
    | none =>
      appending archive [.makeDirectory candidate, .replaceBlob candidate changeset.blob]
        (.candidateRegistered candidate changeset.parentAgentProgramSha256
          changeset.changesetId changeset.blob.archiveBlobSha256)

def targetState (current : CandidateState) (target : String) :
    Except ArchiveError CandidateState :=
  match current.transitions.find? (fun state => state.name = target) with
  | some state => .ok state
  | none => .error (.contract ("illegal candidate transition: " ++ current.name ++ "->" ++ target))

def checkTransition (candidate target reason evidenceSha256 : String) :
    Except ArchiveError (CandidateBlob × CandidateState × CandidateState) := do
  require (Contracts.isText reason = true)
    (.contract "candidate transition reason cannot be empty")
  archiveSha256 evidenceSha256 "transition evidence"
  let (blob, current) ← archive.candidateState candidate
  let toState ← targetState current target
  pure (blob, current, toState)

def transition (candidate target reason evidenceSha256 : String) : ArchiveOutcome :=
  checked (archive.checkTransition candidate target reason evidenceSha256) fun found =>
    appending archive [] (.candidateStateChanged candidate
      found.1.changeset.parentAgentProgramSha256 found.2.1 found.2.2 reason evidenceSha256)

def checkRollback (candidate forwardPatchSha256 rollbackPatchSha256 : String) :
    Except ArchiveError CandidateState := do
  let (_, current) ← archive.candidateState candidate
  archiveSha256 forwardPatchSha256 "forward patch"
  archiveSha256 rollbackPatchSha256 "rollback patch"
  pure current

def recordRollback (candidate forwardPatchSha256 rollbackPatchSha256 : String)
    (verified : Bool) : ArchiveOutcome :=
  checked (archive.checkRollback candidate forwardPatchSha256 rollbackPatchSha256) fun current =>
    appending archive [] (.rollbackRecorded candidate forwardPatchSha256 rollbackPatchSha256
      verified current)

def checkAdvance (candidate decisionSha256 : String) (production : Bool) :
    Except ArchiveError Unit := do
  require (production = false) (.contract "production/global promotion is prohibited")
  archiveSha256 decisionSha256 "parent decision"
  let (_, current) ← archive.candidateState candidate
  require (current = .selected) (.contract "search parent candidate must be selected")
  let rows ← archive.events
  require (rows.any (verifiesRollback candidate) = true)
    (.contract "verified rollback is required before parent advance")

/-- The authority with the candidate as search parent. -/
def advanced (candidate decisionSha256 : String) : ArchiveAuthority :=
  { archive.authority with
    searchParentSha256 := candidate
    searchParentHistory := archive.authority.searchParentHistory ++
      [{ previousParentSha256 := archive.authority.searchParentSha256
         searchParentSha256 := candidate
         decisionSha256
         scope := "experimental_search_lineage_only"
         productionPromoted := false }] }

def advanceSearchParent (candidate decisionSha256 : String) (production : Bool) :
    ArchiveOutcome :=
  checked (archive.checkAdvance candidate decisionSha256 production) fun _ =>
    if archive.authority.searchParentSha256 = candidate then
      match archive.authority.searchParentHistory with
      | [] => refused .indexError
      | _ :: _ => unchanged
    else
      appending archive [.replaceAuthority (archive.advanced candidate decisionSha256)]
        (.searchParentAdvanced candidate archive.authority.searchParentSha256 decisionSha256)

/-- The errors that `verify` finds in the rows from the one with this number on. -/
def rowErrors (index : Nat) (previous : Option String) : List ArchiveRow → List String
  | [] => []
  | row :: rows =>
    (if row.sequence = index then [] else ["event " ++ toString index ++ " sequence mismatch"]) ++
    (if row.previousEventSha256 = previous then []
      else ["event " ++ toString index ++ " previous hash mismatch"]) ++
    (if row.eventSha256 = (Json.obj row.payload).contentSha256 then []
      else ["event " ++ toString index ++ " content hash mismatch"]) ++
    rowErrors (index + 1) (some row.eventSha256) rows

def blobErrors : List String :=
  archive.candidates.flatMap fun candidate =>
    match archive.blob? candidate with
    | none => []
    | some blob =>
      if blob.archiveBlobSha256 = (Json.obj blob.changeset.toDict).contentSha256 then []
      else ["candidate " ++ candidate ++ " blob hash mismatch"]

def verify : Except ArchiveError (List String) := do
  let rows ← archive.events
  pure (rowErrors 1 none rows ++ archive.blobErrors ++
    (if archive.authority.productionActiveRef = none then []
      else ["production active ref must remain unset"]))

end CandidateArchive

inductive ArchiveCall where
  | registerCandidate (changeset : InactiveChangeSet)
  | transition (candidate target reason evidenceSha256 : String)
  | recordRollback (candidate forwardPatchSha256 rollbackPatchSha256 : String) (verified : Bool)
  | advanceSearchParent (candidate decisionSha256 : String) (production : Bool)

namespace CandidateArchive

variable (archive : CandidateArchive)

def perform : ArchiveCall → ArchiveOutcome
  | .registerCandidate changeset => archive.registerCandidate changeset
  | .transition candidate target reason evidenceSha256 =>
    archive.transition candidate target reason evidenceSha256
  | .recordRollback candidate forwardPatchSha256 rollbackPatchSha256 verified =>
    archive.recordRollback candidate forwardPatchSha256 rollbackPatchSha256 verified
  | .advanceSearchParent candidate decisionSha256 production =>
    archive.advanceSearchParent candidate decisionSha256 production

/-- The archive after the first writes of a call. -/
def cutOff (call : ArchiveCall) (writes : Nat) : CandidateArchive :=
  ((archive.perform call).writes.take writes).foldl write archive

/-- The archive after a call, whether it returned or raised. -/
def after (call : ArchiveCall) : CandidateArchive := (archive.perform call).writes.foldl write archive

end CandidateArchive

end JlensEvolve.Evolution
