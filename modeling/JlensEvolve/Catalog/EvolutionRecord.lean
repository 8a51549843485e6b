import JlensEvolve.Contracts
import JlensEvolve.Library.Effect
import JlensEvolve.Library.WrittenJson
import Mathlib.Data.List.Dedup

/-!
The records of `evolution_catalog.py` and what they look like in a file. The
payload, the references and the validations are kept as the encoder walks them.
-/

namespace JlensEvolve.Catalog

open Library Contracts

/-- Why a file of the catalog is no record. -/
inductive ReadError where
  /-- `ContractError`. -/
  | contract (message : String)
  | decode
  | isADirectory
  | type
deriving DecidableEq

/-- `sorted(RECORD_TYPES)`. -/
def recordTypes : List String :=
  ["experiments", "failure_clusters", "infrastructure_gaps", "mechanisms", "skills"]

def statuses : List String :=
  ["candidate", "implemented", "validated", "disproven", "retired", "pending"]

/-- `_strings`: sorted, without repetitions, none of them blank. A refusal is the
message of the `ContractError`, here and in `validate`. -/
def strings (label : String) (values : List String) : Except String (List String) := do
  let normalized := values.dedup.insertionSort (· ≤ ·)
  require (∀ value ∈ normalized, isText value = true) (label ++ " must contain non-empty strings")
  return normalized

structure EvolutionRecord where
  recordType : String
  recordId : String
  title : String
  status : String
  capabilityTags : List String
  taskTags : List String
  failureModeTags : List String
  sourceModel : String
  sourceRuntime : String
  payload : Json
  evidenceRefs : List Json
  crossModelValidations : List Json
deriving DecidableEq

/-- `set(value) == names`. -/
def hasKeys (value : Json) (names : List String) : Bool :=
  match value with
  | .obj fields => fields.all (fun field => names.contains field.1) &&
      names.all fun name => (Json.field? fields name).isSome
  | _ => false

def isSha : Json → Bool
  | .str value => isSha256 value
  | _ => false

def isObject : Json → Bool
  | .obj _ => true
  | _ => false

def validRef (ref : Json) : Bool :=
  hasKeys ref ["path", "sha256"] && isSha ((ref.get? "sha256").getD .null)

namespace EvolutionRecord

variable (record : EvolutionRecord)

def validate : Except String Unit := do
  require (record.recordType ∈ recordTypes) "unsupported evolution record_type"
  require (record.status ∈ statuses) "unsupported evolution record status"
  [("record_id", record.recordId), ("title", record.title), ("source_model", record.sourceModel),
      ("source_runtime", record.sourceRuntime)].forM fun labelled =>
    require (isText labelled.2 = true) (labelled.1 ++ " must be non-empty")
  require (isObject record.payload = true) "payload must be an object"
  record.evidenceRefs.forM fun ref => require (validRef ref = true) "invalid evidence reference"
  record.crossModelValidations.forM fun validation => do
    require (hasKeys validation
      ["target_model", "target_runtime", "outcome", "evidence_sha256"] = true)
      "invalid cross-model validation"
    let evidenceSha := (validation.get? "evidence_sha256").getD .null
    require (evidenceSha = .null ∨ isSha evidenceSha = true) "invalid cross-model evidence SHA"

/-- `content_dict` without the id. -/
def semantic : List (String × Json) :=
  [("record_type", .str record.recordType), ("title", .str record.title),
    ("status", .str record.status),
    ("capability_tags", .arr (record.capabilityTags.map .str)),
    ("task_tags", .arr (record.taskTags.map .str)),
    ("failure_mode_tags", .arr (record.failureModeTags.map .str)),
    ("source_model", .str record.sourceModel), ("source_runtime", .str record.sourceRuntime),
    ("payload", record.payload), ("evidence_refs", .arr record.evidenceRefs),
    ("cross_model_validations", .arr record.crossModelValidations)]

def contentDict : List (String × Json) := ("record_id", .str record.recordId) :: record.semantic

def fingerprint : String := Json.writtenSha256 record.semantic

/-- `to_dict` but for its own hash. -/
def signed : List (String × Json) :=
  ("schema_version", .int 1) :: record.contentDict ++ [("fingerprint", .str record.fingerprint)]

def toDict : List (String × Json) :=
  record.signed ++ [("evidence_sha256", .str (Json.writtenSha256 record.signed))]

def create : Except String EvolutionRecord := do
  let capabilityTags ← strings "capability_tags" record.capabilityTags
  let taskTags ← strings "task_tags" record.taskTags
  let failureModeTags ← strings "failure_mode_tags" record.failureModeTags
  let created := { record with capabilityTags, taskTags, failureModeTags }
  created.validate
  return created

end EvolutionRecord

def objectFields : Json → Except ReadError (List (String × Json))
  | .obj fields => .ok fields
  | _ => .error .type

/-- The names that `create` takes. -/
def argumentNames : List String :=
  ["record_type", "record_id", "title", "status", "capability_tags", "task_tags",
    "failure_mode_tags", "source_model", "source_runtime", "payload", "evidence_refs",
    "cross_model_validations"]

/-- A value that is passed on under its name. -/
def given (content : List (String × Json)) (name : String) : Except ReadError Json :=
  match Json.field? content name with
  | some value => .ok value
  | none => .error .type

def givenText (content : List (String × Json)) (name : String) : Except ReadError String := do
  match ← given content name with
  | .str value => .ok value
  | _ => .error .type

def givenItems (content : List (String × Json)) (name : String) :
    Except ReadError (List Json) := do
  match ← given content name with
  | .arr items => .ok items
  | _ => .error .type

def textItem : Json → Except ReadError String
  | .str value => .ok value
  | _ => .error .type

def givenTexts (content : List (String × Json)) (name : String) :
    Except ReadError (List String) := do
  (← givenItems content name).mapM textItem

def refused {α : Type} : Except String α → Except ReadError α
  | .ok value => .ok value
  | .error message => .error (.contract message)

/-- `from_dict`. What is decoded is walked in the order of the texts from then on. -/
def EvolutionRecord.fromDict (data : Json) : Except ReadError EvolutionRecord := do
  let fields ← objectFields data
  let content := fields.filter (·.1 ≠ "evidence_sha256")
  require (Json.field? fields "evidence_sha256" = some (.str (Json.obj content).contentSha256))
    (.contract "evolution record evidence SHA mismatch")
  require (Json.pyEq (payloadGet content "schema_version") (.int 1) = true)
    (.contract "unsupported evolution record schema")
  require (hasKeys (.obj (content.filter fun field =>
    field.1 ≠ "schema_version" ∧ field.1 ≠ "fingerprint")) argumentNames = true) .type
  let record ← refused (EvolutionRecord.create
    { recordType := ← givenText content "record_type"
      recordId := ← givenText content "record_id"
      title := ← givenText content "title"
      status := ← givenText content "status"
      capabilityTags := ← givenTexts content "capability_tags"
      taskTags := ← givenTexts content "task_tags"
      failureModeTags := ← givenTexts content "failure_mode_tags"
      sourceModel := ← givenText content "source_model"
      sourceRuntime := ← givenText content "source_runtime"
      payload := (← given content "payload").sorted
      evidenceRefs := (← givenItems content "evidence_refs").map Json.sorted
      crossModelValidations := (← givenItems content "cross_model_validations").map Json.sorted })
  require (Json.field? content "fingerprint" = some (.str record.fingerprint))
    (.contract "evolution record fingerprint mismatch")
  return record

/-- Tags as `create` leaves them. -/
def Normal (tags : List String) : Prop :=
  tags.Pairwise (· < ·) ∧ ∀ tag ∈ tags, isText tag = true

theorem strings_of_normal {tags : List String} (h : Normal tags) (label : String) :
    strings label tags = .ok tags := by
  obtain ⟨hsorted, htext⟩ := h
  have hdistinct : tags.Nodup := hsorted.imp String.ne_of_lt
  have hordered : tags.Pairwise (· ≤ ·) := hsorted.imp fun hless => String.not_lt.mp
    (String.lt_asymm hless)
  have hdedup : tags.dedup = tags := hdistinct.dedup
  have hsort : tags.insertionSort (· ≤ ·) = tags := hordered.insertionSort_eq
  rw [strings, hdedup, hsort]
  simp only [except_bind_ok_iff, require_ok_iff, exists_const]
  exact ⟨htext, rfl⟩

namespace EvolutionRecord

/-- What a record has to be for its file to give it back: its tags are as
`create` leaves them, and the keys inside it are in the order of their texts. -/
structure Lasting (record : EvolutionRecord) : Prop where
  capabilityTags : Normal record.capabilityTags
  taskTags : Normal record.taskTags
  failureModeTags : Normal record.failureModeTags
  payload : record.payload.KeysSorted
  evidenceRefs : ∀ ref ∈ record.evidenceRefs, ref.KeysSorted
  crossModelValidations : ∀ validation ∈ record.crossModelValidations, validation.KeysSorted

variable {record : EvolutionRecord}

theorem keysSorted_texts (texts : List String) : (Json.arr (texts.map .str)).KeysSorted := by
  have hitems : ∀ item ∈ texts.map Json.str, item.KeysSorted := by
    intro item hitem
    obtain ⟨text, -, rfl⟩ := List.mem_map.mp hitem
    rfl
  rw [Json.KeysSorted, Json.sorted, Json.sortedItems_of_keysSorted hitems]

theorem Lasting.signed (h : record.Lasting) : ∀ field ∈ record.signed, field.2.KeysSorted := by
  have hrefs : (Json.arr record.evidenceRefs).KeysSorted := by
    rw [Json.KeysSorted, Json.sorted, Json.sortedItems_of_keysSorted h.evidenceRefs]
  have hvalidations : (Json.arr record.crossModelValidations).KeysSorted := by
    rw [Json.KeysSorted, Json.sorted, Json.sortedItems_of_keysSorted h.crossModelValidations]
  simp only [EvolutionRecord.signed, contentDict, semantic, List.cons_append, List.nil_append,
    List.forall_mem_cons]
  exact ⟨rfl, rfl, rfl, rfl, rfl, keysSorted_texts _, keysSorted_texts _, keysSorted_texts _, rfl,
    rfl, h.payload, hrefs, hvalidations, rfl, fun _ hmem => (List.not_mem_nil hmem).elim⟩

theorem create_of_lasting (h : record.Lasting) (hvalid : record.validate = .ok ()) :
    record.create = .ok record := by
  rw [create, strings_of_normal h.capabilityTags, strings_of_normal h.taskTags,
    strings_of_normal h.failureModeTags]
  change (do record.validate; return record) = Except.ok record
  rw [hvalid]
  rfl

theorem fromDict_toDict (h : record.Lasting) (hvalid : record.validate = .ok ()) :
    fromDict (.obj record.toDict) = .ok record := by
  have hcontent : record.toDict.filter (·.1 ≠ "evidence_sha256") = record.signed := rfl
  have hsha : Json.field? record.toDict "evidence_sha256" =
      some (.str (Json.obj record.signed).contentSha256) := by
    rw [← Json.writtenSha256_eq_contentSha256 h.signed]
    rfl
  have hrefs : record.evidenceRefs.map Json.sorted = record.evidenceRefs := by
    rw [← Json.sortedItems_eq_map, Json.sortedItems_of_keysSorted h.evidenceRefs]
  have hvalidations :
      record.crossModelValidations.map Json.sorted = record.crossModelValidations := by
    rw [← Json.sortedItems_eq_map, Json.sortedItems_of_keysSorted h.crossModelValidations]
  have htags : ∀ tags : List String, (tags.map Json.str).mapM textItem = .ok tags := by
    intro tags
    induction tags with
    | nil => rfl
    | cons tag rest ih =>
      rw [List.map_cons, List.mapM_cons, ih]
      rfl
  have hfields : objectFields (.obj record.toDict) = .ok record.toDict := rfl
  have hcapability : givenTexts record.signed "capability_tags" = .ok record.capabilityTags :=
    htags record.capabilityTags
  have htask : givenTexts record.signed "task_tags" = .ok record.taskTags :=
    htags record.taskTags
  have hfailure : givenTexts record.signed "failure_mode_tags" = .ok record.failureModeTags :=
    htags record.failureModeTags
  have hrefItems : givenItems record.signed "evidence_refs" = .ok record.evidenceRefs := rfl
  have hvalidationItems : givenItems record.signed "cross_model_validations" =
      .ok record.crossModelValidations := rfl
  have hpayload : given record.signed "payload" = .ok record.payload := rfl
  have hpayloadSorted : record.payload.sorted = record.payload := h.payload
  have hcreate : refused (EvolutionRecord.create record) = .ok record := by
    rw [create_of_lasting h hvalid]
    rfl
  rw [fromDict]
  simp only [except_bind_ok_iff, require_ok_iff, exists_const]
  refine ⟨_, hfields, ?_⟩
  rw [hcontent]
  refine ⟨hsha, rfl, rfl, _, rfl, _, rfl, _, rfl, _, rfl, _, hcapability, _, htask, _, hfailure,
    _, rfl, _, rfl, _, hpayload, _, hrefItems, _, hvalidationItems, _, ?_, rfl, rfl⟩
  rw [hrefs, hvalidations, hpayloadSorted]
  exact hcreate

theorem created_of_refused {α : Type} {result : Except String α} {value : α}
    (h : refused result = .ok value) : result = .ok value := by
  cases result with
  | ok other => exact congrArg Except.ok (Except.ok.inj h)
  | error message => cases h

theorem recordId_of_create {created : EvolutionRecord} (h : record.create = .ok created) :
    created.recordId = record.recordId := by
  simp only [create, except_bind_ok_iff] at h
  obtain ⟨_, -, _, -, _, -, _, -, hcreated⟩ := h
  rw [← Except.ok.inj hcreated]

/-- Whatever record is read back, it has the id and the content of the one that
was written. -/
theorem same_of_fromDict {other : EvolutionRecord}
    (h : fromDict (.obj record.toDict) = .ok other) :
    other.recordId = record.recordId ∧ other.fingerprint = record.fingerprint := by
  have hcontent : record.toDict.filter (·.1 ≠ "evidence_sha256") = record.signed := rfl
  have hid : givenText record.signed "record_id" = .ok record.recordId := rfl
  have hfingerprint : Json.field? record.signed "fingerprint" = some (.str record.fingerprint) :=
    rfl
  simp only [fromDict, except_bind_ok_iff, require_ok_iff, exists_const] at h
  obtain ⟨fields, hfields, -, -, -, _, -, recordId, hrecordId, _, -, _, -, _, -, _, -, _, -, _, -,
    _, -, _, -, _, -, _, -, created, hcreated, hsame, hother⟩ := h
  cases hfields
  rw [hcontent] at hrecordId hsame
  cases Except.ok.inj hother
  constructor
  · have hgiven := Except.ok.inj (hrecordId.symm.trans hid)
    rw [recordId_of_create (created_of_refused hcreated)]
    exact hgiven
  · exact (Json.str.inj (Option.some.inj (hsame.symm.trans hfingerprint)))

end EvolutionRecord

end JlensEvolve.Catalog
