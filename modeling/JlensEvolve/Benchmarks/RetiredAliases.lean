import JlensEvolve.Benchmarks.PoolConstruction

/-!
Aliases of retired tasks in a built pool. The loop over the registry records the
overlap keys of the tasks it keeps and of no others, so a task that shares a key
with a retired one is left out of the pool only if it is alike to a task kept
before it, or ranks behind those that are drawn.
-/

namespace JlensEvolve.Benchmarks.TaskPool

open Library Contracts

section Survivors

variable (lower : String → String)

/-- The tasks share an overlap key or their identity, as a test. -/
def alike (first second : BenchmarkTask) : Bool :=
  (first.lowerKeys lower).any (fun key => key ∈ second.lowerKeys lower) ||
    first.identityFingerprint lower = second.identityFingerprint lower

theorem alike_iff (first second : BenchmarkTask) :
    alike lower first second = true ↔ Alike lower first second := by
  rw [alike, Bool.or_eq_true, List.any_eq_true, decide_eq_true_eq, Alike, ShareKey]
  exact or_congr_left (exists_congr fun key => and_congr_right fun _ => decide_eq_true_iff)

/-- One task in its turn: retired tasks and those alike to one kept before are passed over. -/
def survive (retired : List String) (kept : List BenchmarkTask) (task : BenchmarkTask) :
    List BenchmarkTask :=
  if task.instanceId ∈ retired ∨ kept.any (alike lower task) = true then kept else kept ++ [task]

/-- The tasks that are left of a list when it is gone through in order. -/
def survivors (retired : List String) (tasks : List BenchmarkTask) : List BenchmarkTask :=
  tasks.foldl (survive lower retired) []

variable {lower}

theorem Gathered.isSome_conflicting {retired : List String} {tasks : List BenchmarkTask}
    {found : Deduplication} (h : Gathered lower retired tasks found) {task kept : BenchmarkTask}
    (hkept : kept ∈ found.unique.values) (hshare : ShareKey lower task kept) :
    (found.conflicting lower task).isSome = true := by
  obtain ⟨key, htask, hown⟩ := hshare
  rw [Deduplication.conflicting, List.findSome?_isSome_iff]
  exact ⟨key, htask, by rw [h.holds kept hkept key hown]; rfl⟩

theorem Gathered.get?_identity {retired : List String} {tasks : List BenchmarkTask}
    {found : Deduplication} (h : Gathered lower retired tasks found) {kept : BenchmarkTask}
    (hkept : kept ∈ found.unique.values) :
    found.unique.get? (kept.identityFingerprint lower) = some kept := by
  obtain ⟨fingerprint, hheld⟩ := (Dict.mem_values_iff _ _).mp hkept
  rw [h.identity fingerprint kept hheld]
  exact hheld

theorem Gathered.values_consider {retired : List String} {tasks : List BenchmarkTask}
    {found : Deduplication} (h : Gathered lower retired tasks found) (task : BenchmarkTask) :
    (found.consider lower retired task).unique.values =
      survive lower retired found.unique.values task := by
  rw [Deduplication.consider, survive]
  by_cases hretired : task.instanceId ∈ retired
  · rw [if_pos hretired, if_pos (Or.inl hretired)]
  rw [if_neg hretired]
  cases hconflict : found.conflicting lower task with
  | some kept =>
    obtain ⟨key, hkey, hheld⟩ := List.exists_of_findSome?_eq_some hconflict
    obtain ⟨hkept, hown⟩ := h.held key kept hheld
    have hany : found.unique.values.any (alike lower task) = true :=
      List.any_eq_true.mpr ⟨kept, hkept, (alike_iff lower task kept).mpr
        (Or.inl ⟨key, hkey, hown⟩)⟩
    rw [if_pos (Or.inr hany)]
  | none =>
    dsimp only
    cases hunique : found.unique.get? (task.identityFingerprint lower) with
    | some kept =>
      have hany : found.unique.values.any (alike lower task) = true :=
        List.any_eq_true.mpr ⟨kept, (Dict.mem_values_iff _ _).mpr ⟨_, hunique⟩,
          (alike_iff lower task kept).mpr (Or.inr (h.identity _ _ hunique).symm)⟩
      rw [if_pos (Or.inr hany)]
    | none =>
      have hnone : ¬found.unique.values.any (alike lower task) = true := by
        intro hany
        obtain ⟨kept, hkept, halike⟩ := List.any_eq_true.mp hany
        rcases (alike_iff lower task kept).mp halike with hshare | hidentity
        · have hsome := h.isSome_conflicting hkept hshare
          rw [hconflict] at hsome
          cases hsome
        · rw [hidentity, h.get?_identity hkept] at hunique
          cases hunique
      have habsent := (found.unique.get?_eq_none_iff _).mp hunique
      rw [if_neg (not_or.mpr ⟨hretired, hnone⟩), Dict.values,
        found.unique.entries_set_of_absent task habsent, List.map_append]
      rfl

theorem keptTasks_eq (request : Request) (tasks : List BenchmarkTask) :
    keptTasks lower request tasks = survivors lower request.retiredInstanceIds tasks := by
  rw [keptTasks, Deduplication.ofTasks, survivors]
  -- the loop and the reader agree after every task
  induction tasks using List.reverseRecOn with
  | nil => rfl
  | append_singleton before task ih =>
    rw [List.foldl_append, List.foldl_append, List.foldl_cons, List.foldl_nil, List.foldl_cons,
      List.foldl_nil, ← ih]
    exact (gathered_ofTasks lower request.retiredInstanceIds before).values_consider task

end Survivors

theorem mem_cut_iff {quotas : Dict String Int} {tasks : List BenchmarkTask}
    (hquota : ∀ partition, 0 ≤ quota quotas partition)
    (hlength : (tasks.length : Int) ≤ quota quotas .finalSealed + quota quotas .promotion +
      quota quotas .search) (task : BenchmarkTask) :
    (∃ partition, task ∈ (cut quotas tasks).of partition) ↔ task ∈ tasks := by
  constructor
  · rintro ⟨partition, hcut⟩
    exact mem_of_mem_cut hcut
  · intro htask
    have hfinal := hquota .finalSealed
    have hpromotion := hquota .promotion
    have hsearch := hquota .search
    rw [← List.take_append_drop (quota quotas .finalSealed).toNat tasks, List.mem_append] at htask
    rcases htask with htask | htask
    · exact ⟨.finalSealed, htask⟩
    rw [← List.take_append_drop (quota quotas .promotion).toNat
      (tasks.drop (quota quotas .finalSealed).toNat), List.mem_append, List.drop_drop] at htask
    rcases htask with htask | htask
    · exact ⟨.promotion, htask⟩
    · refine ⟨.search, ?_⟩
      simp only [Slices.of, cut]
      rw [List.take_of_length_le]
      · exact htask
      · rw [List.length_drop]
        omega

section Drawn

variable {lower : String → String} {registry : BenchmarkRegistry} {request : Request}
  {pool : TaskPool} {tasks : List BenchmarkTask} {selected : List (BenchmarkTask × Partition)}

/-- The place of a task in its ranking is within the number of tasks that are drawn: the ranking
of all tasks that are left or, with quotas, of those of its adapter. -/
def RanksWithin (request : Request) (kept : List BenchmarkTask) (task : BenchmarkTask) : Prop :=
  match request.partitionQuotas with
  | none => ((ranked request.seedMaterial kept).idxOf task : Int) < request.targetCount
  | some partitionQuotas =>
    ((available request kept task.benchmarkId).idxOf task : Int) <
      (quotasOf partitionQuotas task.benchmarkId).values.sum

theorem mem_ranked (seedMaterial : String) {kept : List BenchmarkTask} {task : BenchmarkTask} :
    task ∈ ranked seedMaterial kept ↔ task ∈ kept :=
  (KeyedSort.perm_sortBy _ _).mem_iff

theorem mem_take_iff {items : List BenchmarkTask} {count : Int} {task : BenchmarkTask}
    (h : task ∈ items) : task ∈ items.take count.toNat ↔ (items.idxOf task : Int) < count := by
  rw [List.mem_take_iff_idxOf_lt h]
  omega

theorem fst_mem_selectRanked_iff {kept : List BenchmarkTask} {task : BenchmarkTask}
    (hkept : task ∈ kept) :
    (∃ partition, (task, partition) ∈ selectRanked request kept) ↔
      ((ranked request.seedMaterial kept).idxOf task : Int) < request.targetCount := by
  rw [← mem_take_iff ((mem_ranked request.seedMaterial).mpr hkept)]
  constructor
  · rintro ⟨partition, hentry⟩
    obtain ⟨⟨other, index⟩, hindex, hsame⟩ := List.mem_map.mp hentry
    obtain rfl : other = task := congrArg Prod.fst hsame
    exact List.fst_mem_of_mem_zipIdx hindex
  · intro htake
    obtain ⟨index, hindex⟩ := List.mem_iff_getElem?.mp htake
    exact ⟨_, List.mem_map.mpr ⟨(task, index), List.mem_zipIdx_iff_getElem?.mpr hindex, rfl⟩⟩

theorem fst_mem_dealt_iff {partitionQuotas : Dict String (Dict String Int)}
    {kept : List BenchmarkTask} (hfit : QuotasFit registry request partitionQuotas)
    {task : BenchmarkTask} (hkept : task ∈ kept)
    (hadapter : task.benchmarkId ∈ registry.adapterIds) :
    (∃ partition, (task, partition) ∈ Partition.all.flatMap
        (dealt (registry.adapterIds.map (drawn request partitionQuotas kept)))) ↔
      ((available request kept task.benchmarkId).idxOf task : Int) <
        (quotasOf partitionQuotas task.benchmarkId).values.sum := by
  have havailable : task ∈ available request kept task.benchmarkId :=
    (mem_ranked request.seedMaterial).mpr (List.mem_filter.mpr ⟨hkept, decide_eq_true rfl⟩)
  have hlength : (((available request kept task.benchmarkId).take
      (quotasOf partitionQuotas task.benchmarkId).values.sum.toNat).length : Int) ≤
        quota (quotasOf partitionQuotas task.benchmarkId) .finalSealed +
        quota (quotasOf partitionQuotas task.benchmarkId) .promotion +
        quota (quotasOf partitionQuotas task.benchmarkId) .search := by
    have hsum := hfit.sum_eq hadapter
    have hfinal := hfit.quota_nonneg hadapter .finalSealed
    have hpromotion := hfit.quota_nonneg hadapter .promotion
    have hsearch := hfit.quota_nonneg hadapter .search
    rw [List.length_take]
    omega
  rw [← mem_take_iff havailable, ← mem_cut_iff (hfit.quota_nonneg hadapter) hlength task]
  constructor
  · rintro ⟨partition, hentry⟩
    obtain ⟨other, -, hdealt⟩ := List.mem_flatMap.mp hentry
    obtain ⟨found, hfound, hsame⟩ := List.mem_map.mp hdealt
    obtain rfl : found = task := congrArg Prod.fst hsame
    obtain ⟨slice, hslice, hmem⟩ := RoundRobin.mem_interleave.mp hfound
    obtain ⟨slices, hslices, rfl⟩ := List.mem_map.mp hslice
    obtain ⟨adapterId, -, rfl⟩ := List.mem_map.mp hslices
    obtain rfl := (mem_drawn hmem).2
    exact ⟨other, hmem⟩
  · rintro ⟨partition, hmem⟩
    refine ⟨partition, List.mem_flatMap.mpr ⟨partition, by cases partition <;> simp [Partition.all],
      List.mem_map.mpr ⟨task, RoundRobin.mem_interleave.mpr ⟨_, List.mem_map.mpr
        ⟨_, List.mem_map.mpr ⟨task.benchmarkId, hadapter, rfl⟩, rfl⟩, hmem⟩, rfl⟩⟩⟩

theorem Steps.selected_iff (h : Steps lower registry request pool tasks selected)
    {task : BenchmarkTask} (hkept : task ∈ keptTasks lower request tasks) :
    (∃ partition, (task, partition) ∈ selected) ↔
      RanksWithin request (keptTasks lower request tasks) task := by
  have hchosen := h.chosen
  have hmember := ((gathered_ofTasks lower request.retiredInstanceIds tasks).member task hkept).1
  rw [select] at hchosen
  rw [RanksWithin]
  split at hchosen
  · rename_i partitionQuotas hquotas
    obtain ⟨hfit, -, rfl⟩ := selectByQuotas_ok hchosen
    rw [hquotas]
    exact fst_mem_dealt_iff hfit hkept (BenchmarkRegistry.benchmarkId_of_mem_tasks h.loaded hmember)
  · rename_i hquotas
    obtain rfl := Except.ok.inj hchosen
    rw [hquotas]
    exact fst_mem_selectRanked_iff hkept

/-- No record of a built pool shares an overlap key with a retired task of the registry exactly
when every survivor that does ranks behind the tasks that are drawn. -/
theorem retired_aliases_iff (h : build lower registry request = .ok pool)
    (htasks : registry.tasks lower = .ok tasks) :
    (∀ record ∈ pool.records, ∀ used ∈ tasks, used.instanceId ∈ request.retiredInstanceIds →
        ∀ key ∈ (recordKeys record).map lower, key ∉ used.lowerKeys lower) ↔
      ∀ task ∈ survivors lower request.retiredInstanceIds tasks,
        (∃ used ∈ tasks, used.instanceId ∈ request.retiredInstanceIds ∧
          ShareKey lower task used) →
        ¬RanksWithin request (survivors lower request.retiredInstanceIds tasks) task := by
  obtain ⟨found, selected, hsteps⟩ := steps_of_build h
  obtain rfl := Except.ok.inj (htasks.symm.trans hsteps.loaded)
  rw [← keptTasks_eq request tasks]
  constructor
  · rintro hnone task hkept ⟨used, hused, hretired, key, hown, hshared⟩ hranks
    obtain ⟨partition, hentry⟩ := (hsteps.selected_iff hkept).mpr hranks
    have hrecord : TaskPoolRecord.ofTask lower task partition ∈ pool.records := by
      rw [hsteps.records]
      exact List.mem_map.mpr ⟨(task, partition), hentry, rfl⟩
    refine hnone _ hrecord used hused hretired key ?_ hshared
    rw [recordKeys_ofTask]
    exact hown
  · intro hbehind record hrecord used hused hretired key hown hshared
    rw [hsteps.records] at hrecord
    obtain ⟨⟨task, partition⟩, hentry, rfl⟩ := List.mem_map.mp hrecord
    rw [recordKeys_ofTask] at hown
    have hkept := mem_of_mem_selected hsteps.chosen hentry
    refine hbehind task hkept ⟨used, hused, hretired, key, hown, hshared⟩ ?_
    exact (hsteps.selected_iff hkept).mp ⟨partition, hentry⟩

end Drawn

/-- The issue of `oneTask` once more, under another instance id. -/
def aliasTask : BenchmarkTask := { oneTask with instanceId := "django-2" }

def aliasAdapter : StaticBenchmarkAdapter := ⟨"swe", "rev-0001", true, [oneTask, aliasTask]⟩

theorem aliasAdapter_distinct : ([aliasAdapter].map StaticBenchmarkAdapter.adapterId).Nodup :=
  List.nodup_singleton _

def aliasRegistry : BenchmarkRegistry := ⟨[aliasAdapter], aliasAdapter_distinct⟩

/-- The first of the two tasks was used before. -/
def aliasRequest : Request := ⟨"seed", 1, 0, 0, none, ["django-1"]⟩

def aliasPool : TaskPool :=
  ⟨"seed", ["swe"], [TaskPoolRecord.ofTask id aliasTask .search], [], [exclusionRow oneTask]⟩

theorem tasks_aliasRegistry : aliasRegistry.tasks id = .ok [oneTask, aliasTask] := by decide

theorem build_aliasPool : build id aliasRegistry aliasRequest = .ok aliasPool := by
  have hkept : keptTasks id aliasRequest [oneTask, aliasTask] = [aliasTask] := rfl
  have hcreate : create aliasPool = .ok aliasPool := by
    have hexclusion : item (exclusionRow oneTask) "instance_id" = .ok (.str "django-1") := rfl
    have hopen : aliasTask.instanceId ≠ "django-1" := by decide
    simp [create, validate, aliasPool, except_bind_ok_iff, TaskPoolRecord.ofTask, pure, Except.pure,
      hexclusion, hopen]
  have henough : aliasRequest.targetCount ≤
      (keptTasks id aliasRequest [oneTask, aliasTask]).length := by
    rw [hkept]
    exact Int.le_refl 1
  have hchosen : select aliasRegistry aliasRequest
      (keptTasks id aliasRequest [oneTask, aliasTask]) = .ok [(aliasTask, .search)] := by
    rw [hkept]
    rfl
  exact build_of_steps (by decide) tasks_aliasRegistry henough hchosen hcreate

/-- The alias is in the pool. -/
theorem alias_selected :
    ¬∀ (lower : String → String) (registry : BenchmarkRegistry) (request : Request)
      (pool : TaskPool) (tasks : List BenchmarkTask),
      build lower registry request = .ok pool → registry.tasks lower = .ok tasks →
      ∀ record ∈ pool.records, ∀ used ∈ tasks, used.instanceId ∈ request.retiredInstanceIds →
        ∀ key ∈ (recordKeys record).map lower, key ∉ used.lowerKeys lower := by
  intro hall
  refine hall id aliasRegistry aliasRequest aliasPool _ build_aliasPool tasks_aliasRegistry
    _ (List.mem_singleton_self _) oneTask List.mem_cons_self (List.mem_singleton_self _)
    "django-1" ?_ (List.mem_singleton_self _)
  rw [recordKeys_ofTask]
  exact List.mem_singleton_self _

theorem retired_aliases_iff_alias :
    (∀ record ∈ aliasPool.records, ∀ used ∈ [oneTask, aliasTask],
        used.instanceId ∈ aliasRequest.retiredInstanceIds →
        ∀ key ∈ (recordKeys record).map id, key ∉ used.lowerKeys id) ↔
      ∀ task ∈ survivors id aliasRequest.retiredInstanceIds [oneTask, aliasTask],
        (∃ used ∈ [oneTask, aliasTask], used.instanceId ∈ aliasRequest.retiredInstanceIds ∧
          ShareKey id task used) →
        ¬RanksWithin aliasRequest
          (survivors id aliasRequest.retiredInstanceIds [oneTask, aliasTask]) task :=
  retired_aliases_iff build_aliasPool tasks_aliasRegistry

end JlensEvolve.Benchmarks.TaskPool
