import JlensEvolve.Library.GroupedMean
import JlensEvolve.Tournament.CandidateTournament

/-!
Complete tables of a tournament stage. Each agent has one row for each task, and
the rows of one task are of one family, so the rows of an agent, sorted by task,
are the sorted tasks, each with its score, its cost and its family; a comparison
of two agents is one over the tasks.
-/

namespace JlensEvolve.Tournament

open Library

namespace Stage

variable (input : Stage)

def rowAt (agent taskUid : String) : Option ArmEvaluation :=
  input.evaluations.find? fun row => row.taskUid = taskUid ∧ row.agentProgramSha256 = agent

def scoreAt (agent taskUid : String) : ℚ :=
  ((input.rowAt agent taskUid).map fun row => row.nativeScore).getD 0

def safeAt (agent taskUid : String) : Bool :=
  ((input.rowAt agent taskUid).map fun row => row.safetyPassed).getD false

def familyAt (agent taskUid : String) : String :=
  ((input.rowAt agent taskUid).map fun row => row.benchmarkFamily).getD ""

def sortedTasks : List String := KeyedSort.sortBy id input.taskUids

/-- What the checks of a stage leave: its rows are those of its tasks and agents, and a
task has one family. -/
structure Complete : Prop where
  tasks_nodup : input.taskUids.Nodup
  tasks_ne : input.taskUids ≠ []
  inventory : input.InventoryComplete
  families : ∀ row ∈ input.evaluations, ∀ other ∈ input.evaluations,
    row.taskUid = other.taskUid → row.benchmarkFamily = other.benchmarkFamily

variable {input}

theorem mem_expectedPairs {task agent : String} :
    (task, agent) ∈ input.expectedPairs ↔ task ∈ input.taskUids ∧ agent ∈ input.expectedAgents := by
  simp only [expectedPairs, List.mem_flatMap, List.mem_map, Prod.mk.injEq]
  constructor
  · rintro ⟨found, hfound, other, hother, rfl, rfl⟩
    exact ⟨hfound, hother⟩
  · rintro ⟨htask, hagent⟩
    exact ⟨task, htask, agent, hagent, rfl, rfl⟩

theorem Complete.row_unique (h : input.Complete) {row other : ArmEvaluation}
    (hrow : row ∈ input.evaluations) (hother : other ∈ input.evaluations)
    (htask : row.taskUid = other.taskUid)
    (hagent : row.agentProgramSha256 = other.agentProgramSha256) : row = other :=
  List.inj_on_of_nodup_map h.inventory.1 hrow hother (Prod.ext htask hagent)

theorem rowAt_some {agent task : String} {row : ArmEvaluation}
    (h : input.rowAt agent task = some row) :
    row ∈ input.evaluations ∧ row.taskUid = task ∧ row.agentProgramSha256 = agent := by
  have hfound := List.find?_some h
  rw [decide_eq_true_eq] at hfound
  exact ⟨List.mem_of_find?_eq_some h, hfound⟩

theorem Complete.rowAt_eq_some_iff (h : input.Complete) {agent task : String}
    {row : ArmEvaluation} :
    input.rowAt agent task = some row ↔
      row ∈ input.evaluations ∧ row.taskUid = task ∧ row.agentProgramSha256 = agent := by
  refine ⟨rowAt_some, ?_⟩
  rintro ⟨hmem, rfl, rfl⟩
  have hsome : (input.rowAt row.agentProgramSha256 row.taskUid).isSome = true :=
    List.find?_isSome.mpr ⟨row, hmem, by simp⟩
  obtain ⟨found, hfound⟩ := Option.isSome_iff_exists.mp hsome
  obtain ⟨hfoundMem, htask, hagent⟩ := rowAt_some hfound
  rw [hfound, h.row_unique hfoundMem hmem htask hagent]

theorem Complete.exists_row (h : input.Complete) {agent task : String}
    (htask : task ∈ input.taskUids) (hagent : agent ∈ input.expectedAgents) :
    ∃ row, input.rowAt agent task = some row := by
  have hpair := h.inventory.2.2 _ (mem_expectedPairs.mpr ⟨htask, hagent⟩)
  obtain ⟨row, hrow, hsame⟩ := List.mem_map.mp hpair
  rw [Prod.mk.injEq] at hsame
  exact ⟨row, h.rowAt_eq_some_iff.mpr ⟨hrow, hsame⟩⟩

theorem Complete.task_of_row (h : input.Complete) {row : ArmEvaluation}
    (hrow : row ∈ input.evaluations) : row.taskUid ∈ input.taskUids :=
  (mem_expectedPairs.mp (h.inventory.2.1 _ (List.mem_map_of_mem hrow))).1

theorem mem_byAgent {agent : String} {row : ArmEvaluation} :
    row ∈ input.byAgent agent ↔ row ∈ input.evaluations ∧ row.agentProgramSha256 = agent := by
  rw [byAgent, (KeyedSort.perm_sortBy _ _).mem_iff, List.mem_filter, decide_eq_true_eq]

theorem Complete.rowAt_of_mem (h : input.Complete) {agent : String} {row : ArmEvaluation}
    (hrow : row ∈ input.byAgent agent) : input.rowAt agent row.taskUid = some row := by
  obtain ⟨hmem, hagent⟩ := mem_byAgent.mp hrow
  exact h.rowAt_eq_some_iff.mpr ⟨hmem, rfl, hagent⟩

theorem Complete.tasks_byAgent (h : input.Complete) {agent : String}
    (hagent : agent ∈ input.expectedAgents) :
    (input.byAgent agent).map (fun row => row.taskUid) = input.sortedTasks := by
  have hsorted : ((input.byAgent agent).map fun row => row.taskUid).Pairwise (· ≤ ·) :=
    List.pairwise_map.mpr (KeyedSort.pairwise_sortBy _ _)
  have hrows : (input.byAgent agent).Nodup := by
    rw [byAgent, (KeyedSort.perm_sortBy _ _).nodup_iff]
    exact (List.Nodup.of_map _ h.inventory.1).filter _
  have hnodup : ((input.byAgent agent).map fun row => row.taskUid).Nodup := by
    refine List.Nodup.map_on ?_ hrows
    intro row hrow other hother hsame
    obtain ⟨hmem, hrowAgent⟩ := mem_byAgent.mp hrow
    obtain ⟨hmemOther, hotherAgent⟩ := mem_byAgent.mp hother
    exact h.row_unique hmem hmemOther hsame (hrowAgent.trans hotherAgent.symm)
  have hmem : ∀ task, task ∈ (input.byAgent agent).map (fun row => row.taskUid) ↔
      task ∈ input.sortedTasks := by
    intro task
    rw [sortedTasks, (KeyedSort.perm_sortBy _ _).mem_iff, List.mem_map]
    constructor
    · rintro ⟨row, hrow, rfl⟩
      exact h.task_of_row (mem_byAgent.mp hrow).1
    · intro htask
      obtain ⟨row, hrow⟩ := h.exists_row htask hagent
      obtain ⟨hmem, hsame, hrowAgent⟩ := h.rowAt_eq_some_iff.mp hrow
      exact ⟨row, mem_byAgent.mpr ⟨hmem, hrowAgent⟩, hsame⟩
  have htasks : input.sortedTasks.Nodup :=
    (KeyedSort.perm_sortBy _ _).nodup_iff.mpr h.tasks_nodup
  exact List.Perm.eq_of_pairwise (fun _ _ _ _ hab hba => le_antisymm hab hba) hsorted
    (KeyedSort.pairwise_sortBy id _) ((List.perm_ext_iff_of_nodup hnodup htasks).mpr hmem)

theorem Complete.map_byAgent (h : input.Complete) {agent : String}
    (hagent : agent ∈ input.expectedAgents) {β : Type} (field : ArmEvaluation → β) (default : β) :
    (input.byAgent agent).map field = input.sortedTasks.map fun task =>
      ((input.rowAt agent task).map field).getD default := by
  rw [← h.tasks_byAgent hagent, List.map_map]
  refine List.map_congr_left fun row hrow => ?_
  rw [Function.comp_apply, h.rowAt_of_mem hrow]
  rfl

theorem Complete.families_byAgent (h : input.Complete) {agent : String}
    (hagent : agent ∈ input.expectedAgents) :
    (input.byAgent agent).map (fun row => row.benchmarkFamily) =
      input.sortedTasks.map (input.familyAt agent) :=
  h.map_byAgent hagent _ ""

theorem Complete.familyAt_eq (h : input.Complete) {agent other task : String}
    (hagent : agent ∈ input.expectedAgents) (hother : other ∈ input.expectedAgents)
    (htask : task ∈ input.taskUids) : input.familyAt agent task = input.familyAt other task := by
  obtain ⟨row, hrow⟩ := h.exists_row htask hagent
  obtain ⟨found, hfound⟩ := h.exists_row htask hother
  obtain ⟨hmem, hrowTask, -⟩ := h.rowAt_eq_some_iff.mp hrow
  obtain ⟨hmemOther, hotherTask, -⟩ := h.rowAt_eq_some_iff.mp hfound
  rw [familyAt, familyAt, hrow, hfound]
  exact h.families row hmem found hmemOther (hrowTask.trans hotherTask.symm)

theorem Complete.familyScores_byAgent (h : input.Complete) {agent : String}
    (hagent : agent ∈ input.expectedAgents) (family : String) :
    familyScores (input.byAgent agent) family =
      (input.sortedTasks.filter fun task => input.familyAt agent task = family).map
        (input.scoreAt agent) := by
  rw [familyScores, ← h.tasks_byAgent hagent, List.filter_map, List.map_map]
  have hfilter : (input.byAgent agent).filter (fun row => row.benchmarkFamily = family) =
      (input.byAgent agent).filter
        ((fun task => decide (input.familyAt agent task = family)) ∘ fun row => row.taskUid) := by
    refine List.filter_congr fun row hrow => ?_
    rw [Function.comp_apply, familyAt, h.rowAt_of_mem hrow]
    rfl
  rw [hfilter]
  refine List.map_congr_left fun row hrow => ?_
  rw [Function.comp_apply, scoreAt, h.rowAt_of_mem (List.mem_filter.mp hrow).1]
  rfl

theorem mem_sortedTasks {task : String} : task ∈ input.sortedTasks ↔ task ∈ input.taskUids :=
  (KeyedSort.perm_sortBy _ _).mem_iff

end Stage

end JlensEvolve.Tournament
