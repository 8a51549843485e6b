import JlensEvolve.Benchmarks.TaskPool

/-!
What the loop over the tasks of a registry keeps and drops. Each overlap key
that a kept task has is held by that task, which the loop preserves; so no two
kept tasks share a key, and what is dropped is alike to a task that is kept.
-/

namespace JlensEvolve.Benchmarks.TaskPool

open Library

variable (lower : String → String)

/-- The tasks share an overlap key, ignoring case. -/
def ShareKey (first second : BenchmarkTask) : Prop :=
  ∃ key, key ∈ first.lowerKeys lower ∧ key ∈ second.lowerKeys lower

/-- The tasks share an overlap key or have the same identity. -/
def Alike (first second : BenchmarkTask) : Prop :=
  ShareKey lower first second ∨ first.identityFingerprint lower = second.identityFingerprint lower

/-- The row says that the first task is dropped for the second. -/
def Reports (row : Json) (dropped kept : BenchmarkTask) : Prop :=
  ∃ reason, row = duplicateRow dropped.taskUid kept.taskUid reason

/-- What holds of the loop's findings once these tasks have been looked at. -/
structure Gathered (retired : List String) (tasks : List BenchmarkTask) (found : Deduplication) :
    Prop where
  held : ∀ key task, found.seenOverlapKeys.get? key = some task →
    task ∈ found.unique.values ∧ key ∈ task.lowerKeys lower
  holds : ∀ task ∈ found.unique.values, ∀ key ∈ task.lowerKeys lower,
    found.seenOverlapKeys.get? key = some task
  identity : ∀ fingerprint task, found.unique.get? fingerprint = some task →
    task.identityFingerprint lower = fingerprint
  member : ∀ task ∈ found.unique.values, task ∈ tasks ∧ task.instanceId ∉ retired
  dropped : ∀ row ∈ found.duplicates, ∃ dropped ∈ tasks, ∃ kept ∈ found.unique.values,
    Reports row dropped kept ∧ dropped.instanceId ∉ retired ∧ Alike lower dropped kept
  complete : ∀ task ∈ tasks, task.instanceId ∉ retired → task ∈ found.unique.values ∨
    ∃ row ∈ found.duplicates, ∃ kept ∈ found.unique.values,
      Reports row task kept ∧ Alike lower task kept
  excluded : ∀ row ∈ found.retiredExclusions, ∃ task ∈ tasks,
    task.instanceId ∈ retired ∧ row = exclusionRow task

variable {lower}

theorem get?_foldl_set_self (keys : List String) (seen : Dict String BenchmarkTask)
    (task : BenchmarkTask) (key : String) :
    (keys.foldl (fun seen key => seen.set key task) seen).get? key =
      if key ∈ keys then some task else seen.get? key := by
  induction keys generalizing seen with
  | nil => simp
  | cons first rest ih =>
    rw [List.foldl_cons, ih, Dict.get?_set]
    by_cases hrest : key ∈ rest
    · rw [if_pos hrest, if_pos (List.mem_cons_of_mem _ hrest)]
    · rw [if_neg hrest]
      by_cases hfirst : key = first
      · rw [if_pos hfirst, if_pos (by rw [hfirst]; exact List.mem_cons_self)]
      · rw [if_neg hfirst, if_neg (by simp [hfirst, hrest])]

section Steps

variable {retired : List String} {tasks : List BenchmarkTask} {found : Deduplication}
  {task kept : BenchmarkTask}

theorem Gathered.exclude (h : Gathered lower retired tasks found)
    (hretired : task.instanceId ∈ retired) : Gathered lower retired (tasks ++ [task])
      { found with retiredExclusions := found.retiredExclusions ++ [exclusionRow task] } where
  held := h.held
  holds := h.holds
  identity := h.identity
  member := fun other hother => ⟨List.mem_append_left _ (h.member other hother).1,
    (h.member other hother).2⟩
  dropped := by
    intro row hrow
    obtain ⟨dropped, hdropped, hreported⟩ := h.dropped row hrow
    exact ⟨dropped, List.mem_append_left _ hdropped, hreported⟩
  complete := by
    intro other hother hopen
    rcases List.mem_append.mp hother with hother | hlast
    · exact h.complete other hother hopen
    · obtain rfl := List.mem_singleton.mp hlast
      exact absurd hretired hopen
  excluded := by
    intro row hrow
    rcases List.mem_append.mp hrow with hrow | hlast
    · obtain ⟨other, hother, hexcluded⟩ := h.excluded row hrow
      exact ⟨other, List.mem_append_left _ hother, hexcluded⟩
    · exact ⟨task, List.mem_append_right _ (List.mem_singleton_self task), hretired,
        List.mem_singleton.mp hlast⟩

theorem Gathered.drop (h : Gathered lower retired tasks found) (hopen : task.instanceId ∉ retired)
    (hkept : kept ∈ found.unique.values) (halike : Alike lower task kept) (reason : String) :
    Gathered lower retired (tasks ++ [task]) { found with
      duplicates := found.duplicates ++ [duplicateRow task.taskUid kept.taskUid reason] } where
  held := h.held
  holds := h.holds
  identity := h.identity
  member := fun other hother => ⟨List.mem_append_left _ (h.member other hother).1,
    (h.member other hother).2⟩
  dropped := by
    intro row hrow
    rcases List.mem_append.mp hrow with hrow | hlast
    · obtain ⟨dropped, hdropped, hreported⟩ := h.dropped row hrow
      exact ⟨dropped, List.mem_append_left _ hdropped, hreported⟩
    · obtain rfl := List.mem_singleton.mp hlast
      exact ⟨task, List.mem_append_right _ (List.mem_singleton_self task), kept, hkept,
        ⟨reason, rfl⟩, hopen, halike⟩
  complete := by
    intro other hother hnot
    rcases List.mem_append.mp hother with hother | hlast
    · rcases h.complete other hother hnot with hmem | ⟨row, hrow, hreported⟩
      · exact Or.inl hmem
      · exact Or.inr ⟨row, List.mem_append_left _ hrow, hreported⟩
    · obtain rfl := List.mem_singleton.mp hlast
      exact Or.inr ⟨_, List.mem_append_right _ (List.mem_singleton_self _), kept, hkept,
        ⟨reason, rfl⟩, halike⟩
  excluded := by
    intro row hrow
    obtain ⟨other, hother, hexcluded⟩ := h.excluded row hrow
    exact ⟨other, List.mem_append_left _ hother, hexcluded⟩

theorem Gathered.keep (h : Gathered lower retired tasks found) (hopen : task.instanceId ∉ retired)
    (hkeys : found.conflicting lower task = none)
    (hidentity : found.unique.get? (task.identityFingerprint lower) = none) :
    Gathered lower retired (tasks ++ [task]) { found with
      unique := found.unique.set (task.identityFingerprint lower) task
      seenOverlapKeys := (task.lowerKeys lower).foldl (fun seen key => seen.set key task)
        found.seenOverlapKeys } := by
  have hvalues : ∀ other, other ∈ (found.unique.set (task.identityFingerprint lower) task).values ↔
      other = task ∨ other ∈ found.unique.values := by
    intro other
    constructor
    · exact Dict.mem_values_set
    · rintro (rfl | hother)
      · exact Dict.mem_values_set_self _ _ _
      · obtain ⟨fingerprint, hfingerprint⟩ := (Dict.mem_values_iff _ _).mp hother
        refine (Dict.mem_values_iff _ _).mpr ⟨fingerprint, ?_⟩
        rw [Dict.get?_set, if_neg ?_, hfingerprint]
        rintro rfl
        rw [hidentity] at hfingerprint
        cases hfingerprint
  have hfree : ∀ key ∈ task.lowerKeys lower, found.seenOverlapKeys.get? key = none :=
    List.findSome?_eq_none_iff.mp hkeys
  constructor
  · intro key other hother
    rw [get?_foldl_set_self] at hother
    rw [hvalues]
    split at hother
    · rename_i hkey
      cases hother
      exact ⟨Or.inl rfl, hkey⟩
    · obtain ⟨hmem, hown⟩ := h.held key other hother
      exact ⟨Or.inr hmem, hown⟩
  · intro other hother key hkey
    rw [get?_foldl_set_self]
    rcases (hvalues other).mp hother with rfl | hother
    · exact if_pos hkey
    · have hheld := h.holds other hother key hkey
      rw [if_neg ?_, hheld]
      intro hmem
      rw [hfree key hmem] at hheld
      cases hheld
  · intro fingerprint other hother
    rw [Dict.get?_set] at hother
    split at hother
    · rename_i hsame
      cases hother
      exact hsame.symm
    · exact h.identity fingerprint other hother
  · intro other hother
    rcases (hvalues other).mp hother with rfl | hother
    · exact ⟨List.mem_append_right _ (List.mem_singleton_self other), hopen⟩
    · exact ⟨List.mem_append_left _ (h.member other hother).1, (h.member other hother).2⟩
  · intro row hrow
    obtain ⟨dropped, hdropped, kept, hkept, hreported⟩ := h.dropped row hrow
    exact ⟨dropped, List.mem_append_left _ hdropped, kept, (hvalues kept).mpr (Or.inr hkept),
      hreported⟩
  · intro other hother hnot
    rcases List.mem_append.mp hother with hother | hlast
    · rcases h.complete other hother hnot with hmem | ⟨row, hrow, kept, hkept, hreported⟩
      · exact Or.inl ((hvalues other).mpr (Or.inr hmem))
      · exact Or.inr ⟨row, hrow, kept, (hvalues kept).mpr (Or.inr hkept), hreported⟩
    · exact Or.inl ((hvalues other).mpr (Or.inl (List.mem_singleton.mp hlast)))
  · intro row hrow
    obtain ⟨other, hother, hexcluded⟩ := h.excluded row hrow
    exact ⟨other, List.mem_append_left _ hother, hexcluded⟩

theorem Gathered.consider (h : Gathered lower retired tasks found) (task : BenchmarkTask) :
    Gathered lower retired (tasks ++ [task]) (found.consider lower retired task) := by
  rw [Deduplication.consider]
  by_cases hretired : task.instanceId ∈ retired
  · rw [if_pos hretired]
    exact h.exclude hretired
  rw [if_neg hretired]
  cases hconflict : found.conflicting lower task with
  | some kept =>
    obtain ⟨key, hkey, hheld⟩ := List.exists_of_findSome?_eq_some hconflict
    obtain ⟨hkept, hown⟩ := h.held key kept hheld
    exact h.drop hretired hkept (Or.inl ⟨key, hkey, hown⟩) _
  | none =>
    dsimp only
    cases hunique : found.unique.get? (task.identityFingerprint lower) with
    | some kept =>
      have hkept : kept ∈ found.unique.values := (Dict.mem_values_iff _ _).mpr ⟨_, hunique⟩
      exact h.drop hretired hkept (Or.inr (h.identity _ _ hunique).symm) _
    | none => exact h.keep hretired hconflict hunique

end Steps

theorem gathered_empty (retired : List String) : Gathered lower retired [] Deduplication.empty where
  held := by
    intro key task h
    cases h
  holds := by
    intro task h
    cases h
  identity := by
    intro fingerprint task h
    cases h
  member := by
    intro task h
    cases h
  dropped := by
    intro row h
    cases h
  complete := by
    intro task h
    cases h
  excluded := by
    intro row h
    cases h

theorem Gathered.foldl {retired : List String} {tasks : List BenchmarkTask} {found : Deduplication}
    (h : Gathered lower retired tasks found) (more : List BenchmarkTask) :
    Gathered lower retired (tasks ++ more)
      (more.foldl (Deduplication.consider lower retired) found) := by
  induction more generalizing tasks found with
  | nil =>
    rw [List.append_nil]
    exact h
  | cons task rest ih =>
    have hrest := ih (h.consider task)
    rwa [List.append_assoc, List.singleton_append] at hrest

theorem gathered_ofTasks (lower : String → String) (retired : List String)
    (tasks : List BenchmarkTask) :
    Gathered lower retired tasks (Deduplication.ofTasks lower retired tasks) :=
  (gathered_empty retired).foldl tasks

theorem Gathered.apart {retired : List String} {tasks : List BenchmarkTask} {found : Deduplication}
    (h : Gathered lower retired tasks found) {first second : BenchmarkTask}
    (hfirst : first ∈ found.unique.values) (hsecond : second ∈ found.unique.values)
    (hne : first ≠ second) : ¬ShareKey lower first second := by
  rintro ⟨key, hone, htwo⟩
  have hheld := h.holds first hfirst key hone
  rw [h.holds second hsecond key htwo] at hheld
  exact hne (Option.some.inj hheld).symm

end JlensEvolve.Benchmarks.TaskPool
