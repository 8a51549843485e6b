import JlensEvolve.Benchmarks.TaskPool

/-!
Counting the selected tasks. Without quotas the partitions are blocks of the
ranking; with quotas each adapter's share of a partition is a slice of its own
ranking, and taking turns loses none of it.
-/

namespace JlensEvolve.Benchmarks.TaskPool

open Library Contracts

theorem length_eq_counts {α : Type} (selected : List (α × Partition)) :
    selected.length = selected.countP (·.2 = .finalSealed) + selected.countP (·.2 = .promotion) +
      selected.countP (·.2 = .search) := by
  induction selected with
  | nil => rfl
  | cons entry rest ih =>
    obtain ⟨task, partition⟩ := entry
    cases partition <;> simp [ih] <;> omega

theorem sum_only {names : List String} (hnodup : names.Nodup) {name : String} (h : name ∈ names)
    (count : Nat) : (names.map fun other => if other = name then count else 0).sum = count := by
  induction names with
  | nil => cases h
  | cons first rest ih =>
    obtain ⟨hfirst, hrest⟩ := List.nodup_cons.mp hnodup
    rw [List.map_cons, List.sum_cons]
    rcases List.mem_cons.mp h with rfl | h
    · have hzero : (rest.map fun other => if other = name then count else 0).sum = 0 := by
        refine List.sum_eq_zero ?_
        intro value hvalue
        obtain ⟨other, hother, rfl⟩ := List.mem_map.mp hvalue
        refine if_neg ?_
        rintro rfl
        exact hfirst hother
      rw [if_pos rfl, hzero, Nat.add_zero]
    · rw [if_neg ?_, ih hrest h, Nat.zero_add]
      rintro rfl
      exact hfirst h

theorem sum_values {ν : Type} (d : Dict String ν) (measure : ν → Int) (default : ν)
    {names : List String} (hnodup : names.Nodup) (hkeys : sameSet d.keys names) :
    (d.values.map measure).sum =
      (names.map fun name => measure ((d.get? name).getD default)).sum := by
  have hperm : d.keys.Perm names :=
    (List.perm_ext_iff_of_nodup d.nodup_keys hnodup).mpr hkeys
  rw [← (hperm.map _).sum_eq, Dict.values, Dict.keys, List.map_map, List.map_map]
  refine congrArg List.sum (List.map_congr_left ?_)
  rintro ⟨name, value⟩ hentry
  have hvalue := (d.get?_eq_some_iff name value).mpr hentry
  simp only [Function.comp_apply, hvalue, Option.getD_some]

theorem sum_cast {α : Type} {items : List α} {count : α → Nat} {measure : α → Int}
    (h : ∀ item ∈ items, (count item : Int) = measure item) :
    (((items.map count).sum : Nat) : Int) = (items.map measure).sum := by
  induction items with
  | nil => rfl
  | cons first rest ih =>
    obtain ⟨hfirst, hrest⟩ := List.forall_mem_cons.mp h
    rw [List.map_cons, List.sum_cons, List.map_cons, List.sum_cons, Int.natCast_add, hfirst,
      ih hrest]

theorem partitions_of_range {request : Request} {first second : Nat}
    (hfirst : request.finalSealedCount = first) (hsecond : request.promotionCount = second)
    {count : Nat} (hcount : first + second ≤ count) :
    (List.range count).map (partitionAt request) = List.replicate first .finalSealed ++
      List.replicate second .promotion ++ List.replicate (count - first - second) .search := by
  refine List.ext_getElem (by simp; omega) ?_
  intro index hindex _
  simp only [List.getElem_map, List.getElem_range, List.getElem_append, List.length_append,
    List.length_replicate, List.getElem_replicate, partitionAt, hfirst, hsecond]
  split
  · rw [dif_pos (by omega), dif_pos (by omega)]
  · split
    · rw [dif_pos (by omega), dif_neg (by omega)]
    · rw [dif_neg (by omega)]

section Ranked

variable {request : Request} {unique : List BenchmarkTask}

theorem snd_selectRanked : (selectRanked request unique).map Prod.snd =
    (List.range (min request.targetCount.toNat unique.length)).map (partitionAt request) := by
  have hlength : ((ranked request.seedMaterial unique).take request.targetCount.toNat).length =
      min request.targetCount.toNat unique.length := by
    rw [List.length_take, ranked, (KeyedSort.perm_sortBy _ _).length_eq]
  rw [selectRanked, List.map_map, ← hlength, List.range_eq_range', ← List.zipIdx_map_snd,
    List.map_map]
  rfl

theorem mem_selectRanked {entry : BenchmarkTask × Partition}
    (h : entry ∈ selectRanked request unique) : entry.1 ∈ unique := by
  obtain ⟨⟨task, index⟩, hindex, rfl⟩ := List.mem_map.mp h
  have hmem := List.mem_of_mem_take (List.fst_mem_of_mem_zipIdx hindex)
  exact (KeyedSort.perm_sortBy _ _).mem_iff.mp hmem

theorem count_selectRanked (hvalid : request.validate = .ok ())
    (hsize : request.targetCount ≤ unique.length) (partition : Partition) :
    ((selectRanked request unique).countP (·.2 = partition) : Int) =
      request.expected partition := by
  simp only [Request.validate, except_bind_ok_iff, require_ok_iff] at hvalid
  obtain ⟨_, hpositive, _, ⟨hpromotion, hfinal⟩, hfits⟩ := hvalid
  obtain ⟨first, hfirst⟩ := Int.eq_ofNat_of_zero_le hfinal
  obtain ⟨second, hsecond⟩ := Int.eq_ofNat_of_zero_le hpromotion
  have hcount : (selectRanked request unique).countP (·.2 = partition) =
      ((selectRanked request unique).map Prod.snd).count partition := by
    rw [List.count, List.countP_map]
    refine List.countP_congr ?_
    intro entry _
    simp
  rw [hcount, snd_selectRanked, partitions_of_range hfirst hsecond (by omega)]
  simp only [List.count_append, List.count_replicate]
  cases partition with
  | finalSealed =>
    simp [Request.expected, hfirst]
  | promotion =>
    simp [Request.expected, hsecond]
  | search =>
    simp [Request.expected, hfirst, hsecond]
    omega

end Ranked

theorem length_cut {quotas : Dict String Int} {tasks : List BenchmarkTask}
    (hquota : ∀ partition, 0 ≤ quota quotas partition)
    (hlength : (tasks.length : Int) = quota quotas .finalSealed + quota quotas .promotion +
      quota quotas .search) (partition : Partition) :
    (((cut quotas tasks).of partition).length : Int) = quota quotas partition := by
  have hfinal := hquota .finalSealed
  have hpromotion := hquota .promotion
  have hsearch := hquota .search
  cases partition with
  | finalSealed =>
    simp only [cut, Slices.of, List.length_take]
    omega
  | promotion =>
    simp only [cut, Slices.of, List.length_take, List.length_drop]
    omega
  | search =>
    simp only [cut, Slices.of, List.length_take, List.length_drop]
    omega

theorem mem_of_mem_cut {quotas : Dict String Int} {tasks : List BenchmarkTask}
    {partition : Partition} {task : BenchmarkTask} (h : task ∈ (cut quotas tasks).of partition) :
    task ∈ tasks := by
  cases partition with
  | finalSealed => exact List.mem_of_mem_take h
  | promotion => exact List.mem_of_mem_drop (List.mem_of_mem_take h)
  | search => exact List.mem_of_mem_drop (List.mem_of_mem_take h)

section Quotas

variable {registry : BenchmarkRegistry} {request : Request}
  {partitionQuotas : Dict String (Dict String Int)} {unique : List BenchmarkTask}
  {selected : List (BenchmarkTask × Partition)}

/-- What the checks of the quotas say. -/
structure QuotasFit (registry : BenchmarkRegistry) (request : Request)
    (partitionQuotas : Dict String (Dict String Int)) : Prop where
  adapters : sameSet partitionQuotas.keys registry.adapterIds
  names : ∀ quotas ∈ partitionQuotas.values,
    sameSet quotas.keys (Partition.all.map Partition.name)
  counts : ∀ quotas ∈ partitionQuotas.values, ∀ count ∈ quotas.values, 0 ≤ count
  totals : ∀ partition, (partitionQuotas.values.map fun quotas => quota quotas partition).sum =
    request.expected partition

theorem quotasFit_of_validate (h : validateQuotas registry request partitionQuotas = .ok ()) :
    QuotasFit registry request partitionQuotas := by
  simp only [validateQuotas, except_bind_ok_iff, require_ok_iff, List.all_eq_true,
    decide_eq_true_eq] at h
  obtain ⟨_, hadapters, _, hshape, htotals⟩ := h
  refine ⟨hadapters, fun quotas hquotas => (hshape quotas hquotas).1,
    fun quotas hquotas => (hshape quotas hquotas).2, ?_⟩
  intro partition
  refine htotals partition ?_
  cases partition <;> simp [Partition.all]

theorem QuotasFit.mem_values (h : QuotasFit registry request partitionQuotas) {adapterId : String}
    (hadapter : adapterId ∈ registry.adapterIds) :
    quotasOf partitionQuotas adapterId ∈ partitionQuotas.values := by
  have hkey := (partitionQuotas.mem_keys_iff adapterId).mp ((h.adapters adapterId).mpr hadapter)
  obtain ⟨quotas, hquotas⟩ := Option.isSome_iff_exists.mp hkey
  rw [quotasOf, hquotas]
  exact (Dict.mem_values_iff _ _).mpr ⟨adapterId, hquotas⟩

theorem QuotasFit.quota_nonneg (h : QuotasFit registry request partitionQuotas) {adapterId : String}
    (hadapter : adapterId ∈ registry.adapterIds) (partition : Partition) :
    0 ≤ quota (quotasOf partitionQuotas adapterId) partition := by
  rw [quota]
  cases hcount : (quotasOf partitionQuotas adapterId).get? partition.name with
  | none => exact Int.le_refl 0
  | some count =>
    exact h.counts _ (h.mem_values hadapter) count ((Dict.mem_values_iff _ _).mpr ⟨_, hcount⟩)

theorem QuotasFit.sum_eq (h : QuotasFit registry request partitionQuotas) {adapterId : String}
    (hadapter : adapterId ∈ registry.adapterIds) :
    (quotasOf partitionQuotas adapterId).values.sum =
      quota (quotasOf partitionQuotas adapterId) .finalSealed +
      quota (quotasOf partitionQuotas adapterId) .promotion +
      quota (quotasOf partitionQuotas adapterId) .search := by
  have hsum := sum_values (quotasOf partitionQuotas adapterId) id 0
    (by decide : (Partition.all.map Partition.name).Nodup) (h.names _ (h.mem_values hadapter))
  rw [List.map_id] at hsum
  rw [hsum]
  simp only [Partition.all, List.map_cons, List.map_nil, List.sum_cons, List.sum_nil, quota, id]
  omega

theorem QuotasFit.sum_partition (h : QuotasFit registry request partitionQuotas)
    (partition : Partition) :
    (registry.adapterIds.map fun adapterId =>
      quota (quotasOf partitionQuotas adapterId) partition).sum = request.expected partition := by
  rw [← h.totals partition]
  exact (sum_values partitionQuotas (fun quotas => quota quotas partition) Dict.empty
    registry.nodup_adapterIds h.adapters).symm

/-- The tasks of an adapter that it cuts up. -/
def drawn (request : Request) (partitionQuotas : Dict String (Dict String Int))
    (unique : List BenchmarkTask) (adapterId : String) : Slices :=
  cut (quotasOf partitionQuotas adapterId) ((available request unique adapterId).take
    (quotasOf partitionQuotas adapterId).values.sum.toNat)

theorem sliceAdapter_ok_iff (adapterId : String) (slices : Slices) :
    sliceAdapter request partitionQuotas unique adapterId = .ok slices ↔
      (quotasOf partitionQuotas adapterId).values.sum ≤
          (available request unique adapterId).length ∧
        slices = drawn request partitionQuotas unique adapterId := by
  simp only [sliceAdapter, except_bind_ok_iff, require_ok_iff]
  constructor
  · rintro ⟨_, henough, hslices⟩
    cases hslices
    exact ⟨henough, rfl⟩
  · rintro ⟨henough, rfl⟩
    exact ⟨(), henough, rfl⟩

theorem mem_drawn {adapterId : String} {partition : Partition} {task : BenchmarkTask}
    (h : task ∈ (drawn request partitionQuotas unique adapterId).of partition) :
    task ∈ unique ∧ task.benchmarkId = adapterId := by
  have htask := List.mem_of_mem_take (mem_of_mem_cut h)
  rw [available, ranked, (KeyedSort.perm_sortBy _ _).mem_iff, List.mem_filter] at htask
  exact ⟨htask.1, of_decide_eq_true htask.2⟩

theorem QuotasFit.length_drawn (h : QuotasFit registry request partitionQuotas) {adapterId : String}
    (hadapter : adapterId ∈ registry.adapterIds)
    (henough : (quotasOf partitionQuotas adapterId).values.sum ≤
      (available request unique adapterId).length) (partition : Partition) :
    (((drawn request partitionQuotas unique adapterId).of partition).length : Int) =
      quota (quotasOf partitionQuotas adapterId) partition := by
  refine length_cut (h.quota_nonneg hadapter) ?_ partition
  have hsum := h.sum_eq hadapter
  have hfinal := h.quota_nonneg hadapter .finalSealed
  have hpromotion := h.quota_nonneg hadapter .promotion
  have hsearch := h.quota_nonneg hadapter .search
  rw [List.length_take]
  omega

theorem selectByQuotas_ok (h : selectByQuotas registry request partitionQuotas unique =
      .ok selected) : QuotasFit registry request partitionQuotas ∧
    (∀ adapterId ∈ registry.adapterIds, (quotasOf partitionQuotas adapterId).values.sum ≤
      (available request unique adapterId).length) ∧
    selected = Partition.all.flatMap
      (dealt (registry.adapterIds.map (drawn request partitionQuotas unique))) := by
  simp only [selectByQuotas, except_bind_ok_iff] at h
  obtain ⟨_, hquotas, slices, hslices, hpure⟩ := h
  cases hpure
  obtain ⟨henough, rfl⟩ := (mapM_checked_iff (fun adapterId _ slices =>
    sliceAdapter_ok_iff adapterId slices) slices).mp hslices
  exact ⟨quotasFit_of_validate hquotas, henough, rfl⟩

theorem countP_dealt (slices : List Slices) (test : BenchmarkTask → Bool) (partition : Partition) :
    (Partition.all.flatMap (dealt slices)).countP
        (fun entry => test entry.1 ∧ entry.2 = partition) =
      (slices.map fun one => (one.of partition).countP test).sum := by
  have hone : ∀ other, (dealt slices other).countP
      (fun entry => test entry.1 ∧ entry.2 = partition) =
        if other = partition then (slices.map fun one => (one.of partition).countP test).sum
        else 0 := by
    intro other
    rw [dealt, List.countP_map]
    split
    · rename_i hsame
      subst hsame
      have htest : ((fun entry : BenchmarkTask × Partition =>
          decide (test entry.1 = true ∧ entry.2 = other)) ∘ (·, other)) = test := by
        funext task
        simp
      rw [htest, RoundRobin.countP_interleave, List.map_map]
      rfl
    · rename_i hother
      refine List.countP_eq_zero.mpr ?_
      intro task _
      simp [hother]
  simp only [Partition.all, List.flatMap_cons, List.flatMap_nil, List.append_nil,
    List.countP_append, hone]
  cases partition <;> simp

theorem countP_dealt_drawn (request : Request) (partitionQuotas : Dict String (Dict String Int))
    (unique : List BenchmarkTask) (adapterIds : List String) (test : BenchmarkTask → Bool)
    (partition : Partition) :
    (Partition.all.flatMap (dealt (adapterIds.map (drawn request partitionQuotas unique)))).countP
        (fun entry => test entry.1 ∧ entry.2 = partition) =
      (adapterIds.map fun adapterId =>
        ((drawn request partitionQuotas unique adapterId).of partition).countP test).sum := by
  rw [countP_dealt, List.map_map]
  rfl

end Quotas

section Selection

variable {registry : BenchmarkRegistry} {request : Request} {unique : List BenchmarkTask}
  {selected : List (BenchmarkTask × Partition)}

theorem mem_of_mem_selected (h : select registry request unique = .ok selected)
    {entry : BenchmarkTask × Partition} (hentry : entry ∈ selected) : entry.1 ∈ unique := by
  rw [select] at h
  split at h
  · obtain ⟨-, -, rfl⟩ := selectByQuotas_ok h
    obtain ⟨partition, -, hdealt⟩ := List.mem_flatMap.mp hentry
    obtain ⟨task, htask, rfl⟩ := List.mem_map.mp hdealt
    obtain ⟨tasks, htasks, hmem⟩ := RoundRobin.mem_interleave.mp htask
    obtain ⟨slices, hslices, rfl⟩ := List.mem_map.mp htasks
    obtain ⟨adapterId, -, rfl⟩ := List.mem_map.mp hslices
    exact (mem_drawn hmem).1
  · cases h
    exact mem_selectRanked hentry

theorem count_adapter (h : select registry request unique = .ok selected)
    {partitionQuotas : Dict String (Dict String Int)}
    (hquotas : request.partitionQuotas = some partitionQuotas) {adapterId : String}
    (hadapter : adapterId ∈ registry.adapterIds) (partition : Partition) :
    (selected.countP (fun entry => entry.1.benchmarkId = adapterId ∧ entry.2 = partition) : Int) =
      quota (quotasOf partitionQuotas adapterId) partition := by
  simp only [select, hquotas] at h
  obtain ⟨hfit, henough, rfl⟩ := selectByQuotas_ok h
  have hcount := countP_dealt_drawn request partitionQuotas unique registry.adapterIds
    (fun task => decide (task.benchmarkId = adapterId)) partition
  have hslices : ∀ other ∈ registry.adapterIds,
      ((drawn request partitionQuotas unique other).of partition).countP
        (fun task => task.benchmarkId = adapterId) =
      if other = adapterId then
        ((drawn request partitionQuotas unique adapterId).of partition).length else 0 := by
    intro other _
    split
    · rename_i hsame
      subst hsame
      refine List.countP_eq_length.mpr ?_
      intro task htask
      exact decide_eq_true (mem_drawn htask).2
    · rename_i hother
      refine List.countP_eq_zero.mpr ?_
      intro task htask hsame
      exact hother ((mem_drawn htask).2.symm.trans (of_decide_eq_true hsame))
  rw [List.map_congr_left hslices, sum_only registry.nodup_adapterIds hadapter] at hcount
  simp only [decide_eq_true_eq] at hcount
  rw [hcount]
  exact hfit.length_drawn hadapter (henough adapterId hadapter) partition

theorem count_partition (hvalid : request.validate = .ok ())
    (hsize : request.targetCount ≤ unique.length)
    (h : select registry request unique = .ok selected) (partition : Partition) :
    (selected.countP (·.2 = partition) : Int) = request.expected partition := by
  rw [select] at h
  split at h
  · rename_i partitionQuotas hquotas
    obtain ⟨hfit, henough, rfl⟩ := selectByQuotas_ok h
    have hcount := countP_dealt_drawn request partitionQuotas unique registry.adapterIds
      (fun _ => true) partition
    simp only [true_and, List.countP_true] at hcount
    rw [hcount, ← hfit.sum_partition partition]
    exact sum_cast fun adapterId hadapter =>
      hfit.length_drawn hadapter (henough adapterId hadapter) partition
  · cases h
    exact count_selectRanked hvalid hsize partition

theorem length_selected (hvalid : request.validate = .ok ())
    (hsize : request.targetCount ≤ unique.length)
    (h : select registry request unique = .ok selected) :
    (selected.length : Int) = request.targetCount := by
  have hcounts := count_partition hvalid hsize h
  have hfinal := hcounts .finalSealed
  have hpromotion := hcounts .promotion
  have hsearch := hcounts .search
  simp only [Request.expected] at hfinal hpromotion hsearch
  rw [length_eq_counts]
  omega

end Selection

end JlensEvolve.Benchmarks.TaskPool
