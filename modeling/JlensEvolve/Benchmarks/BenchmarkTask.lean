import JlensEvolve.Evidence.Counterfactual
import JlensEvolve.Library.KeyOrder

/-!
Benchmark tasks, the adapters they come from and the registry of adapters of
`benchmark_adapters.py`. What `str.lower` makes of a text is a parameter:
nothing here depends on which letters it changes.
-/

namespace JlensEvolve.Benchmarks

open Library Contracts Evidence

structure BenchmarkTask where
  benchmarkId : String
  benchmarkRevision : String
  instanceId : String
  taskFamily : String
  language : String
  repo : String
  baseCommit : String
  environmentRef : String
  graderRef : String
  instructionRef : String
  sourceUrl : String
  licenseId : String
  overlapKeys : List String
  contentSha256 : String
  schemaVersion : String
deriving DecidableEq

def movingRevisions : List String := ["latest", "main", "master", "head", "test"]

section Tasks

variable (lower : String → String)

def requirePinnedRevision (revision : String) : Except String Unit :=
  require (revision ≠ "" ∧ lower revision ∉ movingRevisions ∧ 8 ≤ revision.length)
    "benchmark revision must be pinned"

def requireSha256 (value field : String) : Except String Unit :=
  require (isSha256 value = true) (field ++ " must be a lowercase SHA-256")

theorem requireSha256_ok_iff (value field : String) (u : Unit) :
    requireSha256 value field = .ok u ↔ isSha256 value = true :=
  require_ok_iff _ _ u

namespace BenchmarkTask

/-- The texts that `__post_init__` asks for. -/
def required (task : BenchmarkTask) : List String :=
  [task.benchmarkId, task.instanceId, task.taskFamily, task.language, task.repo, task.baseCommit,
    task.environmentRef, task.graderRef, task.instructionRef, task.sourceUrl, task.licenseId]

/-- `__post_init__`. -/
def validate (task : BenchmarkTask) : Except String Unit := do
  require (task.schemaVersion = "1.0") "unsupported benchmark task schema"
  requirePinnedRevision lower task.benchmarkRevision
  requireSha256 task.contentSha256 "content_sha256"
  require (task.required.all isText = true) "benchmark task fields must be non-empty strings"
  require (task.overlapKeys ≠ [] ∧ "" ∉ task.overlapKeys) "overlap_keys must be non-empty"
  require task.overlapKeys.Nodup "overlap_keys must be unique"

def taskUid (task : BenchmarkTask) : String :=
  (Json.obj [("benchmark_id", .str task.benchmarkId),
    ("benchmark_revision", .str task.benchmarkRevision),
    ("instance_id", .str task.instanceId)]).contentSha256

def identityFingerprint (task : BenchmarkTask) : String :=
  (Json.obj [("repo", .str (lower task.repo)), ("base_commit", .str task.baseCommit),
    ("overlap_keys", .arr ((KeyedSort.sortBy id (task.overlapKeys.map lower)).map .str)),
    ("grader_ref", .str task.graderRef)]).contentSha256

def toDict (task : BenchmarkTask) : Json :=
  .obj [("benchmark_id", .str task.benchmarkId),
    ("benchmark_revision", .str task.benchmarkRevision),
    ("instance_id", .str task.instanceId), ("task_family", .str task.taskFamily),
    ("language", .str task.language), ("repo", .str task.repo),
    ("base_commit", .str task.baseCommit), ("environment_ref", .str task.environmentRef),
    ("grader_ref", .str task.graderRef), ("instruction_ref", .str task.instructionRef),
    ("source_url", .str task.sourceUrl), ("license_id", .str task.licenseId),
    ("overlap_keys", .arr (task.overlapKeys.map .str)),
    ("content_sha256", .str task.contentSha256), ("schema_version", .str task.schemaVersion),
    ("task_uid", .str task.taskUid),
    ("identity_fingerprint", .str (task.identityFingerprint lower))]

/-- The overlap keys as they are compared. -/
def lowerKeys (task : BenchmarkTask) : List String := task.overlapKeys.map lower

end BenchmarkTask

structure StaticBenchmarkAdapter where
  adapterId : String
  revision : String
  executable : Bool
  tasks : List BenchmarkTask
deriving DecidableEq

namespace StaticBenchmarkAdapter

/-- The task under the names of the adapter. -/
def adopted (adapter : StaticBenchmarkAdapter) (task : BenchmarkTask) : BenchmarkTask :=
  { task with benchmarkId := adapter.adapterId, benchmarkRevision := adapter.revision }

/-- `load_tasks`: replacing fields makes a new task, which is checked. -/
def loadTasks (adapter : StaticBenchmarkAdapter) : Except String (List BenchmarkTask) :=
  adapter.tasks.mapM fun task => do
    (adapter.adopted task).validate lower
    return adapter.adopted task

end StaticBenchmarkAdapter

/-- `BenchmarkRegistry`: the adapters that were registered, each under its own id. -/
structure BenchmarkRegistry where
  adapters : List StaticBenchmarkAdapter
  distinct : (adapters.map StaticBenchmarkAdapter.adapterId).Nodup

namespace BenchmarkRegistry

/-- The adapters in the order of their ids. -/
def ordered (registry : BenchmarkRegistry) : List StaticBenchmarkAdapter :=
  KeyedSort.sortBy StaticBenchmarkAdapter.adapterId registry.adapters

def adapterIds (registry : BenchmarkRegistry) : List String :=
  registry.ordered.map StaticBenchmarkAdapter.adapterId

def tasks (registry : BenchmarkRegistry) : Except String (List BenchmarkTask) := do
  let loaded ← registry.ordered.mapM (StaticBenchmarkAdapter.loadTasks lower)
  return loaded.flatten

theorem nodup_adapterIds (registry : BenchmarkRegistry) : registry.adapterIds.Nodup :=
  ((KeyedSort.perm_sortBy _ _).map _).nodup_iff.mpr registry.distinct

theorem benchmarkId_of_mem_tasks {lower : String → String} {registry : BenchmarkRegistry}
    {tasks : List BenchmarkTask} (h : registry.tasks lower = .ok tasks) {task : BenchmarkTask}
    (htask : task ∈ tasks) : task.benchmarkId ∈ registry.adapterIds := by
  simp only [BenchmarkRegistry.tasks, except_bind_ok_iff] at h
  obtain ⟨loaded, hloaded, hpure⟩ := h
  cases hpure
  obtain ⟨found, hfound, htask⟩ := List.mem_flatten.mp htask
  obtain ⟨adapter, hadapter, hload⟩ := (mem_mapM_iff hloaded found).mp hfound
  obtain ⟨original, -, hadopted⟩ := (mem_mapM_iff hload task).mp htask
  simp only [except_bind_ok_iff] at hadopted
  obtain ⟨_, -, hsame⟩ := hadopted
  cases hsame
  exact List.mem_map_of_mem hadapter

end BenchmarkRegistry

end Tasks

end JlensEvolve.Benchmarks
