import Mathlib.Data.Prod.Lex
import JlensEvolve.Benchmarks.BenchmarkTask
import JlensEvolve.Library.RoundRobin

/-!
`TaskPool` of `benchmark_adapters.py`: tasks are taken from the registry unless
they are retired or alike to a task taken before, ranked by a hash, and dealt to
the partitions. A pool is saved as one JSON document and loaded from it.
-/

namespace JlensEvolve.Benchmarks

open Library Contracts Evidence

inductive Partition where
  | search
  | promotion
  | finalSealed
deriving DecidableEq, Repr

namespace Partition

def name : Partition → String
  | search => "search"
  | promotion => "promotion"
  | finalSealed => "final_sealed"

/-- `PARTITIONS`, in the order in which tasks are dealt to them. -/
def all : List Partition := [finalSealed, promotion, search]

def named (text : String) : Option Partition := all.find? fun partition => partition.name = text

end Partition

/-- `TASK_STATES`: a task that is open has the name of a partition as its state. -/
inductive TaskState where
  | unopened
  | opened (partition : Partition)
  | retired
deriving DecidableEq, Repr

namespace TaskState

def name : TaskState → String
  | unopened => "unopened"
  | opened partition => partition.name
  | retired => "retired"

def named (text : String) : Option TaskState :=
  ([unopened, retired] ++ Partition.all.map opened).find? fun state => state.name = text

end TaskState

structure TaskPoolRecord where
  taskUid : String
  identityFingerprint : String
  benchmarkId : String
  instanceId : String
  assignedPartition : Partition
  taskContract : Json
  state : TaskState
deriving DecidableEq

namespace TaskPoolRecord

/-- `__post_init__`; the partition and the state are those of their types. -/
def validate (record : TaskPoolRecord) : Except String Unit := do
  requireSha256 record.taskUid "task_uid"
  requireSha256 record.identityFingerprint "identity_fingerprint"
  require (record.taskContract.get? "task_uid" = some (.str record.taskUid))
    "task contract uid mismatch"
  require (record.taskContract.get? "identity_fingerprint" =
    some (.str record.identityFingerprint)) "task contract identity mismatch"
  require (record.taskContract.get? "benchmark_id" = some (.str record.benchmarkId))
    "task contract benchmark mismatch"

/-- `asdict(record)`. -/
def toDict (record : TaskPoolRecord) : Json :=
  .obj [("task_uid", .str record.taskUid),
    ("identity_fingerprint", .str record.identityFingerprint),
    ("benchmark_id", .str record.benchmarkId), ("instance_id", .str record.instanceId),
    ("assigned_partition", .str record.assignedPartition.name),
    ("task_contract", record.taskContract), ("state", .str record.state.name)]

/-- The record of a task that nobody has opened. -/
def ofTask (lower : String → String) (task : BenchmarkTask) (partition : Partition) :
    TaskPoolRecord where
  taskUid := task.taskUid
  identityFingerprint := task.identityFingerprint lower
  benchmarkId := task.benchmarkId
  instanceId := task.instanceId
  assignedPartition := partition
  taskContract := task.toDict lower
  state := .unopened

end TaskPoolRecord

structure TaskPool where
  seedMaterial : String
  adapters : List String
  records : List TaskPoolRecord
  duplicates : List Json
  retiredExclusions : List Json
deriving DecidableEq

namespace TaskPool

/-- `row[key]` of a decoded object. -/
def item (row : Json) (key : String) : Except String Json :=
  match row.get? key with
  | some value => .ok value
  | none => .error key

def validate (pool : TaskPool) : Except String Unit := do
  require (pool.records.map TaskPoolRecord.taskUid).Nodup "duplicate task_uid in task pool"
  require (pool.records.map TaskPoolRecord.identityFingerprint).Nodup
    "duplicate identity in task pool"
  require (pool.records.all (fun record =>
    record.state ∈ [.unopened, .opened record.assignedPartition, .retired]) = true)
    "task state violates assigned partition"
  let retiredIds ← pool.retiredExclusions.mapM fun exclusion => item exclusion "instance_id"
  require (pool.records.all (fun record => .str record.instanceId ∉ retiredIds) = true)
    "retired task leaked into task pool"

/-- `TaskPool(...)`. -/
def create (pool : TaskPool) : Except String TaskPool := do
  require (pool.seedMaterial ≠ "") "seed_material must be non-empty"
  pool.validate
  return pool

/-- What a pool is built from, next to the registry. -/
structure Request where
  seedMaterial : String
  targetCount : Int
  promotionCount : Int
  finalSealedCount : Int
  partitionQuotas : Option (Dict String (Dict String Int))
  retiredInstanceIds : List String

/-- How many records each partition is to have. -/
def Request.expected (request : Request) : Partition → Int
  | .search => request.targetCount - request.promotionCount - request.finalSealedCount
  | .promotion => request.promotionCount
  | .finalSealed => request.finalSealedCount

def Request.validate (request : Request) : Except String Unit := do
  require (1 ≤ request.targetCount) "target_count must be positive"
  require (0 ≤ request.promotionCount ∧ 0 ≤ request.finalSealedCount)
    "partition counts cannot be negative"
  require (request.promotionCount + request.finalSealedCount ≤ request.targetCount)
    "partition counts exceed target_count"

def duplicateRow (droppedTaskUid keptTaskUid reason : String) : Json :=
  .obj [("dropped_task_uid", .str droppedTaskUid), ("kept_task_uid", .str keptTaskUid),
    ("reason", .str reason)]

def exclusionRow (task : BenchmarkTask) : Json :=
  .obj [("benchmark_id", .str task.benchmarkId), ("instance_id", .str task.instanceId),
    ("reason", .str "prior_use_retired")]

/-- What the loop over the tasks of the registry has gathered. -/
structure Deduplication where
  unique : Dict String BenchmarkTask
  duplicates : List Json
  retiredExclusions : List Json
  seenOverlapKeys : Dict String BenchmarkTask

namespace Deduplication

def empty : Deduplication := ⟨Dict.empty, [], [], Dict.empty⟩

section Admission

variable (lower : String → String)

/-- The task that holds the first of the task's keys that is held. -/
def conflicting (found : Deduplication) (task : BenchmarkTask) : Option BenchmarkTask :=
  (task.lowerKeys lower).findSome? found.seenOverlapKeys.get?

/-- The body of the loop. -/
def consider (retiredInstanceIds : List String) (found : Deduplication) (task : BenchmarkTask) :
    Deduplication :=
  if task.instanceId ∈ retiredInstanceIds then
    { found with retiredExclusions := found.retiredExclusions ++ [exclusionRow task] }
  else
    match found.conflicting lower task with
    | some kept =>
      { found with duplicates :=
          found.duplicates ++ [duplicateRow task.taskUid kept.taskUid "overlap_key"] }
    | none =>
      match found.unique.get? (task.identityFingerprint lower) with
      | some kept =>
        { found with duplicates :=
            found.duplicates ++ [duplicateRow task.taskUid kept.taskUid "identity_fingerprint"] }
      | none =>
        { found with
          unique := found.unique.set (task.identityFingerprint lower) task
          seenOverlapKeys := (task.lowerKeys lower).foldl (fun seen key => seen.set key task)
            found.seenOverlapKeys }

/-- The loop. -/
def ofTasks (retiredInstanceIds : List String) (tasks : List BenchmarkTask) : Deduplication :=
  tasks.foldl (consider lower retiredInstanceIds) empty

end Admission

end Deduplication

def rank (seedMaterial : String) (task : BenchmarkTask) : String :=
  sha256Text (seedMaterial ++ "\x00" ++ task.taskUid)

/-- Tasks in the order of their ranks. -/
def ranked (seedMaterial : String) (tasks : List BenchmarkTask) : List BenchmarkTask :=
  KeyedSort.sortBy (fun task => toLex (rank seedMaterial task, task.taskUid)) tasks

/-- The partition of the task at an index of the ranking. -/
def partitionAt (request : Request) (index : Nat) : Partition :=
  if (index : Int) < request.finalSealedCount then .finalSealed
  else if (index : Int) < request.finalSealedCount + request.promotionCount then .promotion
  else .search

/-- The first tasks of the ranking, without quotas. -/
def selectRanked (request : Request) (unique : List BenchmarkTask) :
    List (BenchmarkTask × Partition) :=
  ((ranked request.seedMaterial unique).take request.targetCount.toNat).zipIdx.map
    fun entry => (entry.1, partitionAt request entry.2)

/-- `quotas[partition]`. -/
def quota (quotas : Dict String Int) (partition : Partition) : Int :=
  (quotas.get? partition.name).getD 0

/-- `partition_quotas[adapter_id]`. -/
def quotasOf (partitionQuotas : Dict String (Dict String Int)) (adapterId : String) :
    Dict String Int :=
  (partitionQuotas.get? adapterId).getD Dict.empty

def validateQuotas (registry : BenchmarkRegistry) (request : Request)
    (partitionQuotas : Dict String (Dict String Int)) : Except String Unit := do
  require (sameSet partitionQuotas.keys registry.adapterIds)
    "partition quota adapters must match the registry"
  require (partitionQuotas.values.all (fun quotas =>
    sameSet quotas.keys (Partition.all.map Partition.name) ∧
      quotas.values.all (fun count => 0 ≤ count) = true) = true)
    "invalid partition quota shape"
  require (Partition.all.all (fun partition =>
    (partitionQuotas.values.map fun quotas => quota quotas partition).sum =
      request.expected partition) = true)
    "partition quotas do not match declared partition counts"

/-- The tasks of one adapter, for each partition: `partition_tasks` for that adapter. -/
structure Slices where
  finalSealed : List BenchmarkTask
  promotion : List BenchmarkTask
  search : List BenchmarkTask

def Slices.of (slices : Slices) : Partition → List BenchmarkTask
  | .finalSealed => slices.finalSealed
  | .promotion => slices.promotion
  | .search => slices.search

/-- The cuts at the cursor, in the order of the partitions. -/
def cut (quotas : Dict String Int) (selected : List BenchmarkTask) : Slices where
  finalSealed := selected.take (quota quotas .finalSealed).toNat
  promotion := (selected.drop (quota quotas .finalSealed).toNat).take
    (quota quotas .promotion).toNat
  search := (selected.drop
    ((quota quotas .finalSealed).toNat + (quota quotas .promotion).toNat)).take
    (quota quotas .search).toNat

/-- The ranked tasks of an adapter. -/
def available (request : Request) (unique : List BenchmarkTask) (adapterId : String) :
    List BenchmarkTask :=
  ranked request.seedMaterial (unique.filter fun task => task.benchmarkId = adapterId)

/-- The body of the loop over the adapters. -/
def sliceAdapter (request : Request) (partitionQuotas : Dict String (Dict String Int))
    (unique : List BenchmarkTask) (adapterId : String) : Except String Slices := do
  let quotas := quotasOf partitionQuotas adapterId
  let required := quotas.values.sum
  let tasks := available request unique adapterId
  require (required ≤ tasks.length) ("not enough unique tasks for " ++ adapterId ++ ": required=" ++
    toString required ++ " available=" ++ toString tasks.length)
  return cut quotas (tasks.take required.toNat)

/-- The tasks of one partition, the adapters taking turns. -/
def dealt (slices : List Slices) (partition : Partition) : List (BenchmarkTask × Partition) :=
  (RoundRobin.interleave (slices.map (Slices.of · partition))).map (·, partition)

def selectByQuotas (registry : BenchmarkRegistry) (request : Request)
    (partitionQuotas : Dict String (Dict String Int)) (unique : List BenchmarkTask) :
    Except String (List (BenchmarkTask × Partition)) := do
  validateQuotas registry request partitionQuotas
  let slices ← registry.adapterIds.mapM (sliceAdapter request partitionQuotas unique)
  return Partition.all.flatMap (dealt slices)

/-- `selected_with_partitions`. -/
def select (registry : BenchmarkRegistry) (request : Request) (unique : List BenchmarkTask) :
    Except String (List (BenchmarkTask × Partition)) :=
  match request.partitionQuotas with
  | some partitionQuotas => selectByQuotas registry request partitionQuotas unique
  | none => .ok (selectRanked request unique)

def build (lower : String → String) (registry : BenchmarkRegistry) (request : Request) :
    Except String TaskPool := do
  request.validate
  let tasks ← registry.tasks lower
  let found := Deduplication.ofTasks lower request.retiredInstanceIds tasks
  require (request.targetCount ≤ found.unique.size) ("not enough unique tasks: required=" ++
    toString request.targetCount ++ " available=" ++ toString found.unique.size)
  let selected ← select registry request found.unique.values
  let records ← selected.mapM fun entry => do
    (TaskPoolRecord.ofTask lower entry.1 entry.2).validate
    return TaskPoolRecord.ofTask lower entry.1 entry.2
  create ⟨request.seedMaterial, registry.adapterIds, records, found.duplicates,
    found.retiredExclusions⟩

/-- `to_dict` without the fingerprint. -/
def payload (pool : TaskPool) : List (String × Json) :=
  [("schema_version", .str "1.0"), ("seed_material", .str pool.seedMaterial),
    ("adapters", .arr (pool.adapters.map .str)),
    ("records", .arr (pool.records.map TaskPoolRecord.toDict)),
    ("duplicates", .arr pool.duplicates), ("retired_exclusions", .arr pool.retiredExclusions)]

def toDict (pool : TaskPool) : Json :=
  .obj (pool.payload ++
    [("semantic_fingerprint", .str (Json.obj pool.payload).contentSha256)])

/-- The document that `save` writes, as it is read again: with sorted keys. -/
def save (pool : TaskPool) : Json := pool.toDict.sorted

/-- A text, as `save` writes one in this place. -/
def text (row : Json) (key : String) : Except String String := do
  match ← item row key with
  | .str value => return value
  | _ => .error key

/-- A list, as `save` writes one in this place. -/
def items (row : Json) (key : String) : Except String (List Json) := do
  match ← item row key with
  | .arr values => return values
  | _ => .error key

def orError {α : Type} (error : String) : Option α → Except String α
  | some value => .ok value
  | none => .error error

/-- `TaskPoolRecord(**row)`. -/
def readRecord (row : Json) : Except String TaskPoolRecord := do
  let record : TaskPoolRecord := {
    taskUid := ← text row "task_uid"
    identityFingerprint := ← text row "identity_fingerprint"
    benchmarkId := ← text row "benchmark_id"
    instanceId := ← text row "instance_id"
    assignedPartition := ←
      orError "invalid assigned partition" (Partition.named (← text row "assigned_partition"))
    taskContract := ← item row "task_contract"
    state := ← orError "invalid task state" (TaskState.named (← text row "state")) }
  record.validate
  return record

/-- An adapter id, as `save` writes one. -/
def readAdapter : Json → Except String String
  | .str value => .ok value
  | _ => .error "adapters"

/-- `payload.get("retired_exclusions", [])`. -/
def readExclusions (payload : Json) : Except String (List Json) :=
  match payload.get? "retired_exclusions" with
  | none => .ok []
  | some (.arr values) => .ok values
  | some _ => .error "retired_exclusions"

/-- `cls(...)` of `load`, for the payload without the fingerprint. -/
def ofPayload (payload : Json) : Except String TaskPool := do
  let seedMaterial ← text payload "seed_material"
  let adapters ← items payload "adapters"
  let adapters ← adapters.mapM readAdapter
  let records ← items payload "records"
  let records ← records.mapM readRecord
  let duplicates ← items payload "duplicates"
  let retiredExclusions ← readExclusions payload
  create ⟨seedMaterial, adapters, records, duplicates, retiredExclusions⟩

/-- `load`, where each value has the type that `save` gives it. -/
def load : Json → Except String TaskPool
  | .obj fields => do
    require (Json.field? fields "schema_version" = some (.str "1.0"))
      "unsupported task pool schema"
    let payload : Json := .obj (fields.filter fun field => field.1 ≠ "semantic_fingerprint")
    require (Json.field? fields "semantic_fingerprint" = some (.str payload.contentSha256))
      "task pool semantic fingerprint mismatch"
    ofPayload payload
  | _ => .error "unsupported task pool schema"

end TaskPool

end JlensEvolve.Benchmarks
