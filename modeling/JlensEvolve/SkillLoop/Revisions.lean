import JlensEvolve.Contracts
import JlensEvolve.Library.LineReaders
import JlensEvolve.Library.Transition

/-!
`LoopRevision` of `contracts.py` and the registry of `registry.py`. `append`
reads the file line by line, `read_revisions` splits its text at every line
boundary of Unicode; a row is what its canonical text decodes to.
-/

namespace JlensEvolve.SkillLoop

open Library Contracts

def isIdentifierStart (c : Char) : Bool := c.isLower || c.isDigit

def isIdentifierChar (c : Char) : Bool :=
  isIdentifierStart c || c == '.' || c == '_' || c == '-'

/-- `_IDENTIFIER.fullmatch(value) is not None`. -/
def isIdentifier (value : String) : Bool :=
  match value.toList with
  | [] => false
  | c :: rest => isIdentifierStart c && decide (rest.length ≤ 127) && rest.all isIdentifierChar

def requireIdentifier (label value : String) : Except String Unit :=
  require (isIdentifier value = true) ("invalid " ++ label)

def requireOptionalIdentifier (label : String) : Option String → Except String Unit
  | some value => requireIdentifier label value
  | none => pure ()

def requireNonempty (label value : String) : Except String Unit :=
  require (isText value = true) (label ++ " must be non-empty")

def hasKeys (fields : List (String × Json)) (names : List String) : Prop :=
  sameSet (fields.map Prod.fst) names

instance (fields : List (String × Json)) (names : List String) :
    Decidable (hasKeys fields names) :=
  inferInstanceAs (Decidable (sameSet _ _))

structure LoopRevision where
  schemaVersion : Json
  skillId : String
  revisionId : String
  parentRevisionId : Option String
  sourceRound : Int
  protocol : String
  skillText : String
  promptTemplate : String
  evalNote : String
deriving DecidableEq

namespace LoopRevision

def validate (revision : LoopRevision) : Except String Unit := do
  require (Json.pyEq revision.schemaVersion (.int 1) = true) "unsupported loop revision schema"
  requireIdentifier "skill_id" revision.skillId
  requireIdentifier "revision_id" revision.revisionId
  requireOptionalIdentifier "parent_revision_id" revision.parentRevisionId
  require (0 ≤ revision.sourceRound) "source_round must be a non-negative integer"
  requireNonempty "protocol" revision.protocol
  requireNonempty "skill_text" revision.skillText
  requireNonempty "prompt_template" revision.promptTemplate
  requireNonempty "eval_note" revision.evalNote

/-- `_content_dict`. -/
def content (revision : LoopRevision) : List (String × Json) :=
  [("schema_version", revision.schemaVersion), ("skill_id", .str revision.skillId),
    ("revision_id", .str revision.revisionId),
    ("parent_revision_id", optionText revision.parentRevisionId),
    ("source_round", .int revision.sourceRound), ("protocol", .str revision.protocol),
    ("skill_text", .str revision.skillText), ("prompt_template", .str revision.promptTemplate),
    ("eval_note", .str revision.evalNote)]

def fingerprint (revision : LoopRevision) : String := (Json.obj revision.content).contentSha256

def toDict (revision : LoopRevision) : Json :=
  .obj (revision.content ++ [("fingerprint", .str revision.fingerprint)])

def fieldNames : List String :=
  ["schema_version", "skill_id", "revision_id", "parent_revision_id", "source_round", "protocol",
    "skill_text", "prompt_template", "eval_note", "fingerprint"]

/-- A `source_round` that is no integer is refused. -/
def fromDict : Json → Except String LoopRevision
  | .obj fields => do
      require (hasKeys fields fieldNames) "invalid loop revision fields"
      let text name := pyStr (payloadGet fields name)
      match payloadGet fields "source_round" with
      | .int sourceRound => do
          let revision : LoopRevision := {
            schemaVersion := payloadGet fields "schema_version"
            skillId := text "skill_id"
            revisionId := text "revision_id"
            parentRevisionId :=
              if payloadGet fields "parent_revision_id" = .null then none
              else some (text "parent_revision_id")
            sourceRound
            protocol := text "protocol"
            skillText := text "skill_text"
            promptTemplate := text "prompt_template"
            evalNote := text "eval_note" }
          revision.validate
          require (payloadGet fields "fingerprint" = .str revision.fingerprint)
            "loop revision fingerprint mismatch"
          pure revision
      | _ => .error "source_round must be a non-negative integer"
  | _ => .error "invalid loop revision fields"

/-- The texts that validation does not confine to ASCII. -/
def texts (revision : LoopRevision) : List String :=
  [revision.protocol, revision.skillText, revision.promptTemplate, revision.evalNote]

end LoopRevision

def revisionFormat : RowFormat String LoopRevision where
  encode := LoopRevision.toDict
  decode := LoopRevision.fromDict
  undecodable := "JSONDecodeError"

/-- The rows of `revisions.jsonl`. -/
structure LoopRevisionRegistry where
  rows : List Json

namespace LoopRevisionRegistry

def readRevisions (registry : LoopRevisionRegistry) : Except String (List LoopRevision) :=
  revisionFormat.read isLineBoundary registry.rows

def ofSkill (skillId : String) (revisions : List LoopRevision) : List LoopRevision :=
  revisions.filter fun revision => revision.skillId = skillId

def latest (registry : LoopRevisionRegistry) (skillId : String) :
    Except String (Option LoopRevision) := do
  let revisions ← registry.readRevisions
  pure (ofSkill skillId revisions).getLast?

def append (registry : LoopRevisionRegistry) (revision : LoopRevision) :
    Except String (Bool × LoopRevisionRegistry) := do
  revision.validate
  let existing ← revisionFormat.read isNewline registry.rows
  if revision.fingerprint ∈ existing.map LoopRevision.fingerprint then pure (false, registry)
  else do
    let sameSkill := ofSkill revision.skillId existing
    require (revision.parentRevisionId = sameSkill.getLast?.map LoopRevision.revisionId)
      "loop revision parent must match the latest stored revision"
    require (sameSkill.getLast?.all (fun last => last.sourceRound < revision.sourceRound) = true)
      "source_round must increase along revision lineage"
    pure (true, ⟨registry.rows ++ [revision.toDict]⟩)

end LoopRevisionRegistry

end JlensEvolve.SkillLoop
