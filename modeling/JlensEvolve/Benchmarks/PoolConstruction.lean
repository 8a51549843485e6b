import JlensEvolve.Benchmarks.Deduplication
import JlensEvolve.Benchmarks.PoolDocument
import JlensEvolve.Benchmarks.PoolSelection

/-!
What holds of every pool that `TaskPool.build` returns: the counts that were
asked for, and that no task of it is retired or shares a key with another one.
-/

namespace JlensEvolve.Benchmarks.TaskPool

open Library Contracts

def recordKeys (record : TaskPoolRecord) : List String :=
  match record.taskContract.get? "overlap_keys" with
  | some (.arr keys) => keys.filterMap fun key =>
    match key with
    | .str key => some key
    | _ => none
  | _ => []

/-- The tasks of the registry that are left once the retired and the alike ones are gone. -/
def keptTasks (lower : String → String) (request : Request) (tasks : List BenchmarkTask) :
    List BenchmarkTask :=
  (Deduplication.ofTasks lower request.retiredInstanceIds tasks).unique.values

structure Constructed (lower : String → String) (registry : BenchmarkRegistry) (request : Request)
    (tasks : List BenchmarkTask) (pool : TaskPool) : Prop where
  size : (pool.records.length : Int) = request.targetCount
  uids : (pool.records.map TaskPoolRecord.taskUid).Nodup
  partitions : ∀ partition,
    (pool.records.countP (·.assignedPartition = partition) : Int) = request.expected partition
  quotas : ∀ partitionQuotas, request.partitionQuotas = some partitionQuotas →
    ∀ adapterId ∈ registry.adapterIds, ∀ partition,
      (pool.records.countP (fun record =>
        record.benchmarkId = adapterId ∧ record.assignedPartition = partition) : Int) =
          quota (quotasOf partitionQuotas adapterId) partition
  records : ∀ record ∈ pool.records, ∃ task ∈ keptTasks lower request tasks,
    record = TaskPoolRecord.ofTask lower task record.assignedPartition
  notRetired : ∀ record ∈ pool.records, record.instanceId ∉ request.retiredInstanceIds
  keysApart : pool.records.Pairwise fun first second =>
    ∀ key ∈ (recordKeys first).map lower, key ∉ (recordKeys second).map lower
  dropped : ∀ row ∈ pool.duplicates, ∃ dropped ∈ tasks, ∃ kept ∈ keptTasks lower request tasks,
    Reports row dropped kept ∧ Alike lower dropped kept
  reported : ∀ task ∈ tasks, task.instanceId ∉ request.retiredInstanceIds →
    task ∈ keptTasks lower request tasks ∨
      ∃ row ∈ pool.duplicates, ∃ kept ∈ keptTasks lower request tasks, Reports row task kept
  roundTrip : ∃ loaded, load pool.save = .ok loaded ∧ Equal loaded pool

theorem recordKeys_ofTask (lower : String → String) (task : BenchmarkTask)
    (partition : Partition) :
    recordKeys (TaskPoolRecord.ofTask lower task partition) = task.overlapKeys := by
  have hkeys : (task.toDict lower).get? "overlap_keys" =
      some (.arr (task.overlapKeys.map .str)) := by
    simp [BenchmarkTask.toDict]
  rw [recordKeys, TaskPoolRecord.ofTask, hkeys]
  dsimp only
  rw [List.filterMap_map]
  exact List.filterMap_some

theorem ofTask_valid (lower : String → String) (task : BenchmarkTask) (partition : Partition) :
    (TaskPoolRecord.ofTask lower task partition).validate = .ok () := by
  have huid : isSha256 task.taskUid = true := Json.contentSha256_isSha256 _
  have hidentity : isSha256 (task.identityFingerprint lower) = true :=
    Json.contentSha256_isSha256 _
  have hget : ∀ key value, (task.toDict lower).get? key = some value →
      (TaskPoolRecord.ofTask lower task partition).taskContract.get? key = some value :=
    fun _ _ h => h
  simp only [TaskPoolRecord.validate, except_bind_ok_iff, requireSha256_ok_iff, require_ok_iff]
  refine ⟨(), huid, (), hidentity, (), hget _ _ ?_, (), hget _ _ ?_, hget _ _ ?_⟩
  · simp [BenchmarkTask.toDict, TaskPoolRecord.ofTask]
  · simp [BenchmarkTask.toDict, TaskPoolRecord.ofTask]
  · simp [BenchmarkTask.toDict, TaskPoolRecord.ofTask]

section Building

variable {lower : String → String} {registry : BenchmarkRegistry} {request : Request}
  {pool : TaskPool}

/-- The steps of a build that returns. -/
structure Steps (lower : String → String) (registry : BenchmarkRegistry) (request : Request)
    (pool : TaskPool) (tasks : List BenchmarkTask) (selected : List (BenchmarkTask × Partition)) :
    Prop where
  valid : request.validate = .ok ()
  loaded : registry.tasks lower = .ok tasks
  enough : request.targetCount ≤ (keptTasks lower request tasks).length
  chosen : select registry request (keptTasks lower request tasks) = .ok selected
  records : pool.records = selected.map fun entry => TaskPoolRecord.ofTask lower entry.1 entry.2
  duplicates : pool.duplicates =
    (Deduplication.ofTasks lower request.retiredInstanceIds tasks).duplicates
  created : create pool = .ok pool

theorem mapM_ofTask (lower : String → String) (selected : List (BenchmarkTask × Partition))
    (records : List TaskPoolRecord) :
    (selected.mapM fun entry => do
        (TaskPoolRecord.ofTask lower entry.1 entry.2).validate
        return TaskPoolRecord.ofTask lower entry.1 entry.2 : Except String (List TaskPoolRecord)) =
      .ok records ↔
        records = selected.map fun entry => TaskPoolRecord.ofTask lower entry.1 entry.2 := by
  have hchecked : ∀ entry ∈ selected, ∀ record : TaskPoolRecord, (do
      (TaskPoolRecord.ofTask lower entry.1 entry.2).validate
      return TaskPoolRecord.ofTask lower entry.1 entry.2 : Except String TaskPoolRecord) =
        .ok record ↔ True ∧ record = TaskPoolRecord.ofTask lower entry.1 entry.2 := by
    intro entry _ record
    rw [ofTask_valid, true_and]
    constructor
    · intro hrecord
      cases hrecord
      rfl
    · rintro rfl
      rfl
  rw [mapM_checked_iff hchecked, and_iff_right fun _ _ => trivial]

theorem steps_of_build (h : build lower registry request = .ok pool) :
    ∃ tasks selected, Steps lower registry request pool tasks selected := by
  simp only [build, except_bind_ok_iff, require_ok_iff] at h
  obtain ⟨_, hvalid, tasks, htasks, _, henough, selected, hselected, records, hrecords, hcreate⟩ := h
  have hsame := hcreate
  simp only [create, except_bind_ok_iff] at hsame
  obtain ⟨_, -, _, -, hpool⟩ := hsame
  cases hpool
  refine ⟨tasks, selected, hvalid, htasks, ?_, hselected,
    (mapM_ofTask lower selected records).mp hrecords, rfl, hcreate⟩
  rwa [keptTasks, Dict.values, List.length_map]

theorem build_of_steps {tasks : List BenchmarkTask} {selected : List (BenchmarkTask × Partition)}
    (hvalid : request.validate = .ok ()) (hloaded : registry.tasks lower = .ok tasks)
    (henough : request.targetCount ≤ (keptTasks lower request tasks).length)
    (hchosen : select registry request (keptTasks lower request tasks) = .ok selected)
    (hcreate : create ⟨request.seedMaterial, registry.adapterIds,
      selected.map (fun entry => TaskPoolRecord.ofTask lower entry.1 entry.2),
      (Deduplication.ofTasks lower request.retiredInstanceIds tasks).duplicates,
      (Deduplication.ofTasks lower request.retiredInstanceIds tasks).retiredExclusions⟩ =
        .ok pool) : build lower registry request = .ok pool := by
  simp only [build, except_bind_ok_iff, require_ok_iff]
  rw [keptTasks, Dict.values, List.length_map] at henough
  exact ⟨(), hvalid, tasks, hloaded, (), henough, selected, hchosen, _,
    (mapM_ofTask lower selected _).mpr rfl, hcreate⟩

section

variable {tasks : List BenchmarkTask} {selected : List (BenchmarkTask × Partition)}

theorem Steps.record (h : Steps lower registry request pool tasks selected)
    {record : TaskPoolRecord} (hrecord : record ∈ pool.records) :
    ∃ task ∈ keptTasks lower request tasks,
      record = TaskPoolRecord.ofTask lower task record.assignedPartition := by
  rw [h.records] at hrecord
  obtain ⟨entry, hentry, rfl⟩ := List.mem_map.mp hrecord
  exact ⟨entry.1, mem_of_mem_selected h.chosen hentry, rfl⟩

theorem Steps.nodup_uids (h : Steps lower registry request pool tasks selected) :
    (pool.records.map TaskPoolRecord.taskUid).Nodup := by
  have hcreated := h.created
  simp only [create, validate, except_bind_ok_iff, require_ok_iff] at hcreated
  obtain ⟨_, -, _, ⟨_, huids, -⟩, -⟩ := hcreated
  exact huids

theorem Steps.keysApart (h : Steps lower registry request pool tasks selected) :
    pool.records.Pairwise fun first second =>
      ∀ key ∈ (recordKeys first).map lower, key ∉ (recordKeys second).map lower := by
  have hgathered := gathered_ofTasks lower request.retiredInstanceIds tasks
  refine (List.Pairwise.of_map _ (fun _ _ => id) h.nodup_uids).imp_of_mem ?_
  intro first second hfirst hsecond huid key hone htwo
  obtain ⟨one, honeKept, hfirst⟩ := h.record hfirst
  obtain ⟨two, htwoKept, hsecond⟩ := h.record hsecond
  rw [hfirst, recordKeys_ofTask] at hone
  rw [hsecond, recordKeys_ofTask] at htwo
  refine hgathered.apart honeKept htwoKept ?_ ⟨key, hone, htwo⟩
  rintro rfl
  rw [hfirst, hsecond] at huid
  exact huid rfl

end

/-- Every pool that is built is as it was asked for. -/
theorem build_constructed (h : build lower registry request = .ok pool) :
    ∃ tasks, registry.tasks lower = .ok tasks ∧
      Constructed lower registry request tasks pool := by
  obtain ⟨tasks, selected, hsteps⟩ := steps_of_build h
  have hgathered := gathered_ofTasks lower request.retiredInstanceIds tasks
  have hcount : ∀ test : TaskPoolRecord → Bool, pool.records.countP test = selected.countP
      fun entry => test (TaskPoolRecord.ofTask lower entry.1 entry.2) := by
    intro test
    rw [hsteps.records, List.countP_map]
    rfl
  have hcreated : Created pool := by
    refine ⟨?_, hsteps.created⟩
    intro record hrecord
    obtain ⟨task, -, hsame⟩ := hsteps.record hrecord
    rw [hsame]
    exact ofTask_valid lower task _
  refine ⟨tasks, hsteps.loaded, ?_⟩
  constructor
  · rw [hsteps.records, List.length_map]
    exact length_selected hsteps.valid hsteps.enough hsteps.chosen
  · exact hsteps.nodup_uids
  · intro partition
    rw [hcount]
    exact count_partition hsteps.valid hsteps.enough hsteps.chosen partition
  · intro partitionQuotas hquotas adapterId hadapter partition
    rw [hcount]
    exact count_adapter hsteps.chosen hquotas hadapter partition
  · exact fun record hrecord => hsteps.record hrecord
  · intro record hrecord
    obtain ⟨task, htask, hsame⟩ := hsteps.record hrecord
    rw [hsame]
    exact (hgathered.member task htask).2
  · exact hsteps.keysApart
  · intro row hrow
    rw [hsteps.duplicates] at hrow
    obtain ⟨dropped, hdropped, kept, hkept, hreports, -, halike⟩ := hgathered.dropped row hrow
    exact ⟨dropped, hdropped, kept, hkept, hreports, halike⟩
  · intro task htask hopen
    rcases hgathered.complete task htask hopen with hkept | ⟨row, hrow, kept, hkept, hreports, -⟩
    · exact Or.inl hkept
    · exact Or.inr ⟨row, hsteps.duplicates ▸ hrow, kept, hkept, hreports⟩
  · exact ⟨pool.sorted, load_save hcreated, sorted_equal pool⟩

end Building

def oneTask : BenchmarkTask where
  benchmarkId := "swe"
  benchmarkRevision := "rev-0001"
  instanceId := "django-1"
  taskFamily := "issue"
  language := "python"
  repo := "django"
  baseCommit := "4f"
  environmentRef := "image"
  graderRef := "tests"
  instructionRef := "issue-1"
  sourceUrl := "dataset"
  licenseId := "bsd"
  overlapKeys := ["django-1"]
  contentSha256 := String.ofList (List.replicate 64 '0')
  schemaVersion := "1.0"

def oneAdapter : StaticBenchmarkAdapter := ⟨"swe", "rev-0001", true, [oneTask]⟩

theorem oneAdapter_distinct : ([oneAdapter].map StaticBenchmarkAdapter.adapterId).Nodup :=
  List.nodup_singleton _

def oneRegistry : BenchmarkRegistry := ⟨[oneAdapter], oneAdapter_distinct⟩

def oneRequest : Request := ⟨"seed", 1, 0, 0, none, []⟩

def onePool : TaskPool :=
  ⟨"seed", ["swe"], [TaskPoolRecord.ofTask id oneTask .search], [], []⟩

theorem build_onePool : build id oneRegistry oneRequest = .ok onePool := by
  have htasks : oneRegistry.tasks id = .ok [oneTask] := by decide
  have hkept : keptTasks id oneRequest [oneTask] = [oneTask] := rfl
  have hcreate : create onePool = .ok onePool := by
    simp [create, validate, onePool, except_bind_ok_iff, TaskPoolRecord.ofTask, pure, Except.pure]
  have henough : oneRequest.targetCount ≤ (keptTasks id oneRequest [oneTask]).length := by
    rw [hkept]
    exact Int.le_refl 1
  have hchosen : select oneRegistry oneRequest (keptTasks id oneRequest [oneTask]) =
      .ok [(oneTask, .search)] := by
    rw [hkept]
    rfl
  exact build_of_steps (by decide) htasks henough hchosen hcreate

/-- A pool is built of one task. -/
theorem onePool_constructed :
    ∃ tasks, oneRegistry.tasks id = .ok tasks ∧
      Constructed id oneRegistry oneRequest tasks onePool :=
  build_constructed build_onePool

end JlensEvolve.Benchmarks.TaskPool
