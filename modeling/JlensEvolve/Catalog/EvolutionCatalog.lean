import JlensEvolve.Catalog.EvolutionRecord
import JlensEvolve.Library.FileTree

/-!
The catalog of `evolution_catalog.py`: one file for each record, in the folder of
its type, and an index that is made anew from all of them.
-/

namespace JlensEvolve.Catalog

open Library

/-- What is in a file: the text of a JSON object, with or without the newline
after it, or a text that breaks off before its end. -/
inductive Content where
  | whole (document : Json)
  | cut

abbrev Disk := FileTree Content

inductive CatalogError where
  /-- `ContractError`. -/
  | contract (message : String)
  /-- `CatalogConflict`. -/
  | conflict (message : String)
  /-- A file in a folder of records that could not be read as one. -/
  | unreadable (place : Place) (error : ReadError)
  | notADirectory
  | fileExists
  | isADirectory

structure AppendResult where
  created : Bool
  path : Place
  record : EvolutionRecord

/-- What `glob("*.json")` takes, names that begin with a dot included. -/
def isJsonName (name : String) : Bool := ".json".toList.isSuffixOf name.toList

/-- The names of a path as `pathlib` keeps them. -/
def segments (text : String) : List String :=
  ((text.toList.splitOn '/').map String.ofList).filter fun name => name ≠ "" ∧ name ≠ "."

section Places

variable (root : Place)

def lockPlace : Place := ".writer.lock" :: root

def indexFolder : Place := "indexes" :: root

def indexPlace : Place := "CATALOG.json" :: indexFolder root

/-- A place and the folders that lead to it, from the top down. -/
def above : Place → List Place
  | [] => []
  | name :: rest => above rest ++ [name :: rest]

/-- The names of `f"\x7brecord_id\x7d.json"`. -/
def fileNames (record : EvolutionRecord) : List String := segments (record.recordId ++ ".json")

/-- Where these names are entered: an absolute id leaves the catalog behind. -/
def startPlace (record : EvolutionRecord) : Place :=
  if record.recordId.toList.head? = some '/' then [] else record.recordType :: root

/-- `root / record_type / f"\x7brecord_id\x7d.json"`. -/
def destination (record : EvolutionRecord) : Place :=
  FileTree.walk (startPlace root record) (fileNames record)

/-- `destination.parent` and what is above it, as `mkdir` comes by them. -/
def parents (record : EvolutionRecord) : List Place :=
  above (startPlace root record) ++
    FileTree.visited (startPlace root record) (fileNames record).dropLast

end Places

def readNode : Node Content → Except ReadError EvolutionRecord
  | .directory => .error .isADirectory
  | .file .cut => .error .decode
  | .file (.whole document) => EvolutionRecord.fromDict document

def loadOne (entry : Place × Node Content) : Except CatalogError (Place × EvolutionRecord) :=
  match readNode entry.2 with
  | .ok record => .ok (entry.1, record)
  | .error error => .error (.unreadable entry.1 error)

/-- `_load_all`; a missing folder has no entries. -/
def loadAll (root : Place) (disk : Disk) : Except CatalogError (List (Place × EvolutionRecord)) :=
  (recordTypes.flatMap fun recordType =>
    disk.listing (recordType :: root) isJsonName).mapM loadOne

structure SearchFilters where
  recordTypes : List String
  capabilityTags : List String
  taskTags : List String
  failureModeTags : List String
  statuses : List String
  sourceModels : List String

namespace SearchFilters

def admitsTags (wanted tags : List String) : Bool := wanted.isEmpty || tags.any wanted.contains

def admits (filters : SearchFilters) (record : EvolutionRecord) : Bool :=
  (filters.recordTypes.isEmpty || filters.recordTypes.contains record.recordType) &&
  (filters.statuses.isEmpty || filters.statuses.contains record.status) &&
  (filters.sourceModels.isEmpty || filters.sourceModels.contains record.sourceModel) &&
  admitsTags filters.capabilityTags record.capabilityTags &&
  admitsTags filters.taskTags record.taskTags &&
  admitsTags filters.failureModeTags record.failureModeTags

end SearchFilters

/-- The order of search results and of index entries. -/
def recordOrder (first second : EvolutionRecord) : Bool :=
  first.recordType < second.recordType ||
    (first.recordType = second.recordType && first.recordId ≤ second.recordId)

def search (root : Place) (filters : SearchFilters) (disk : Disk) :
    Except CatalogError (List EvolutionRecord) := do
  let found ← loadAll root disk
  return ((found.map Prod.snd).filter filters.admits).insertionSort (recordOrder · ·)

def indexEntry (root : Place) (entry : Place × EvolutionRecord) : Json :=
  .obj [("record_id", .str entry.2.recordId), ("record_type", .str entry.2.recordType),
    ("fingerprint", .str entry.2.fingerprint),
    ("path", .str ("/".intercalate (entry.1.reverse.drop root.length))),
    ("status", .str entry.2.status),
    ("capability_tags", .arr (entry.2.capabilityTags.map .str)),
    ("task_tags", .arr (entry.2.taskTags.map .str)),
    ("failure_mode_tags", .arr (entry.2.failureModeTags.map .str)),
    ("source_model", .str entry.2.sourceModel), ("source_runtime", .str entry.2.sourceRuntime)]

def indexEntries (root : Place) (found : List (Place × EvolutionRecord)) : List Json :=
  (found.insertionSort (recordOrder ·.2 ·.2)).map (indexEntry root)

def indexDocument (root : Place) (found : List (Place × EvolutionRecord)) : Json :=
  let entries := indexEntries root found
  let content := [("schema_version", .int 1), ("record_count", .int entries.length),
    ("entries", .arr entries)]
  .obj (content ++ [("evidence_sha256", .str (Json.obj content).contentSha256)])

/-- `rebuild_index`. The new index is written beside the old one, which it then
replaces; a directory of that name cannot be replaced. -/
def rebuildIndex (root : Place) (disk : Disk) : Except CatalogError Unit × Disk :=
  match loadAll root disk with
  | .error error => (.error error, disk)
  | .ok found =>
    match FileTree.makeAll (above (indexFolder root)) disk with
    | (false, made) => (.error .notADirectory, made)
    | (true, made) =>
      match made.node? (indexPlace root) with
      | some .directory => (.error .isADirectory, made)
      | _ => (.ok (), made.put (indexPlace root) (.file (.whole (indexDocument root found))))

/-- What `append` answers for the sake of a record it has loaded. -/
def answerFor (record : EvolutionRecord) (entry : Place × EvolutionRecord) :
    Option (Except CatalogError AppendResult) :=
  if entry.2.recordId = record.recordId then
    if entry.2.fingerprint ≠ record.fingerprint then
      some (.error (.conflict "record_id already has different content"))
    else some (.ok ⟨false, entry.1, entry.2⟩)
  else if entry.2.fingerprint = record.fingerprint then some (.ok ⟨false, entry.1, entry.2⟩)
  else none

def writeRecord (root : Place) (record : EvolutionRecord) (disk : Disk) :
    Except CatalogError AppendResult × Disk :=
  match FileTree.makeAll (parents root record) disk with
  | (false, made) => (.error .notADirectory, made)
  | (true, made) =>
    match made.node? (destination root record) with
    | some _ => (.error .fileExists, made)
    | none =>
      match rebuildIndex root (made.put (destination root record)
          (.file (.whole (.obj record.toDict)))) with
      | (.error error, after) => (.error error, after)
      | (.ok _, after) => (.ok ⟨true, destination root record, record⟩, after)

/-- `append` under the lock. -/
def appendLocked (root : Place) (record : EvolutionRecord) (disk : Disk) :
    Except CatalogError AppendResult × Disk :=
  match record.validate, loadAll root disk with
  | .error message, _ => (.error (.contract message), disk)
  | .ok _, .error error => (.error error, disk)
  | .ok _, .ok found =>
    match found.findSome? (answerFor record) with
    | some answer => (answer, disk)
    | none =>
      if disk.pathExists (parents root record) (destination root record) then
        (.error (.conflict "record path already exists"), disk)
      else writeRecord root record disk

/-- `append`, with the lock file made before and removed after. -/
def append (root : Place) (record : EvolutionRecord) (disk : Disk) :
    Except CatalogError AppendResult × Disk :=
  match FileTree.makeAll (above root) disk with
  | (false, made) => (.error .notADirectory, made)
  | (true, made) =>
    match made.node? (lockPlace root) with
    | some _ =>
      (.error (.contract "evolution catalog writer lease is held by another writer"), made)
    | none =>
      let (answer, after) :=
        appendLocked root record (made.put (lockPlace root) (.file .cut))
      (answer, after.remove (lockPlace root))

end JlensEvolve.Catalog
