import JlensEvolve.Evolution.Controller

/-!
The stages of a frozen plan: four generations over distinct tasks, which share
no task and are claimed in one order.
-/

namespace JlensEvolve.Evolution

open Library

namespace EvolutionPlan

/-- The stages in the order they are claimed, each with its generation. -/
def stages (plan : EvolutionPlan) : List (Nat × StagePlan) :=
  plan.generations.flatMap fun generation =>
    generation.stages.map fun stage => (generation.generation, stage)

/-- A plan that `build` or `build_resume` makes. -/
def Frozen (plan : EvolutionPlan) : Prop :=
  ∃ tasks : List String, tasks.Nodup ∧ ∃ first : Nat, tasks.length = first + 75 ∧
    plan.generations = generationsOf 0 tasks [first, 25, 25, 25]

variable {plan : EvolutionPlan} {tasks : List String}

theorem stageSequence_eq :
    plan.stageSequence = plan.stages.map fun stage => (stage.1, stage.2.name) := by
  simp [stageSequence, stages, List.map_flatMap, Function.comp_def]

theorem taskUids_generationsOf (generation : Nat) (sizes : List Nat)
    (h : tasks.length ≤ sizes.sum) :
    (generationsOf generation tasks sizes).flatMap GenerationPlan.taskUids = tasks := by
  induction sizes generalizing generation tasks with
  | nil =>
    have hempty : tasks = [] := List.length_eq_zero_iff.mp (by simpa using h)
    rw [hempty]
    rfl
  | cons size sizes ih =>
    rw [generationsOf, List.flatMap_cons, ih]
    · exact List.take_append_drop size tasks
    · rw [List.length_drop]
      rw [List.sum_cons] at h
      omega

theorem taskUids_stagesOf (generation size : Nat) (tasks : List String) :
    (stagesOf generation size tasks).flatMap StagePlan.taskUids = tasks := by
  unfold stagesOf
  split
  · simp
  · have hmiddle : (tasks.take 13).drop 5 ++ tasks.drop 13 = tasks.drop 5 := by
      have hsplit : tasks.drop 13 = (tasks.drop 5).drop 8 := by rw [List.drop_drop]
      rw [List.drop_take, hsplit]
      exact List.take_append_drop 8 (tasks.drop 5)
    simp only [List.flatMap_cons, List.flatMap_nil, List.append_nil]
    rw [hmiddle]
    exact List.take_append_drop 5 tasks

theorem frozen_of_buildGenerations {first uniqueTasks : Nat} (hlength : tasks.length = first + 75)
    (h : buildGenerations tasks [first, 25, 25, 25] uniqueTasks = .ok plan) : plan.Frozen := by
  simp only [buildGenerations, except_bind_ok_iff, require_ok_iff] at h
  obtain ⟨-, hnodup, -, -, hplan⟩ := h
  cases hplan
  exact ⟨tasks, hnodup, first, hlength, rfl⟩

theorem frozen_of_build (h : build tasks = .ok plan) : plan.Frozen := by
  simp only [build, except_bind_ok_iff, require_ok_iff] at h
  obtain ⟨-, hlength, h⟩ := h
  exact frozen_of_buildGenerations hlength h

theorem frozen_of_buildResume (h : buildResume tasks = .ok plan) : plan.Frozen := by
  simp only [buildResume, except_bind_ok_iff, require_ok_iff] at h
  obtain ⟨-, hlength, h⟩ := h
  exact frozen_of_buildGenerations hlength h

theorem frozen_of_fromDict {loaded : EvolutionPlan} (h : fromDict plan = .ok loaded) :
    plan.Frozen := by
  unfold fromDict at h
  dsimp only at h
  split at h
  · simp only [except_bind_ok_iff, require_ok_iff] at h
    obtain ⟨built, hbuilt, -, rfl, -⟩ := h
    exact frozen_of_build hbuilt
  · split at h
    · simp only [except_bind_ok_iff, require_ok_iff] at h
      obtain ⟨built, hbuilt, -, rfl, -⟩ := h
      exact frozen_of_buildResume hbuilt
    · cases h

theorem Frozen.stageSequence_eq (h : plan.Frozen) :
    plan.stageSequence = [(0, "observe"), (1, "scout"), (1, "semifinal"), (1, "confirmation"),
      (2, "scout"), (2, "semifinal"), (2, "confirmation"), (3, "scout"), (3, "semifinal"),
      (3, "confirmation")] := by
  obtain ⟨tasks, -, first, -, hgenerations⟩ := h
  rw [stageSequence, hgenerations]
  rfl

theorem Frozen.claimKeys_nodup (h : plan.Frozen) :
    (plan.stageSequence.map fun stage => claimKey stage.1 stage.2).Nodup := by
  rw [h.stageSequence_eq]
  decide +kernel

theorem stages_generationsOf (generation : Nat) (sizes : List Nat) :
    ((generationsOf generation tasks sizes).flatMap fun generation =>
        generation.stages.map fun stage => (generation.generation, stage)).flatMap
          (fun stage => stage.2.taskUids) =
      (generationsOf generation tasks sizes).flatMap GenerationPlan.taskUids := by
  induction sizes generalizing generation tasks with
  | nil => rfl
  | cons size sizes ih =>
    simp only [generationsOf, List.flatMap_cons, List.flatMap_append, ih, List.flatMap_map]
    rw [taskUids_stagesOf]

theorem Frozen.taskUids_eq (h : plan.Frozen) :
    plan.stages.flatMap (fun stage => stage.2.taskUids) =
      plan.generations.flatMap GenerationPlan.taskUids := by
  obtain ⟨tasks, -, first, -, hgenerations⟩ := h
  rw [stages, hgenerations]
  exact stages_generationsOf 0 _

theorem Frozen.taskUids_nodup (h : plan.Frozen) :
    (plan.generations.flatMap GenerationPlan.taskUids).Nodup := by
  obtain ⟨tasks, hnodup, first, hlength, hgenerations⟩ := h
  rw [hgenerations, taskUids_generationsOf]
  · exact hnodup
  · simp [hlength]

theorem Frozen.stage_tasks (h : plan.Frozen) :
    (∀ stage ∈ plan.stages, stage.2.taskUids.Nodup) ∧
      plan.stages.Pairwise fun first second => first.2.taskUids.Disjoint second.2.taskUids := by
  have hnodup := h.taskUids_nodup
  rw [← h.taskUids_eq] at hnodup
  exact List.nodup_flatMap.mp hnodup

theorem mem_stages_of_generation? {generation : Int} {found : GenerationPlan} {stage : StagePlan}
    (hfound : plan.generation? generation = some found) (hstage : stage ∈ found.stages) :
    (found.generation, stage) ∈ plan.stages := by
  have hmem : found ∈ plan.generations := by
    unfold generation? at hfound
    split at hfound
    · exact List.mem_of_getElem? hfound
    · split at hfound
      · exact List.mem_of_getElem? hfound
      · cases hfound
  exact List.mem_flatMap.mpr ⟨found, hmem, List.mem_map.mpr ⟨stage, hstage, rfl⟩⟩

theorem generation_of_generationsOf {generation index : Nat} {sizes : List Nat}
    {found : GenerationPlan} (h : (generationsOf generation tasks sizes)[index]? = some found) :
    found.generation = generation + index := by
  induction sizes generalizing generation tasks index with
  | nil => cases h
  | cons size sizes ih =>
    cases index with
    | zero =>
      cases h
      rfl
    | succ index =>
      rw [ih h]
      omega

theorem Frozen.mem_of_stage (h : plan.Frozen) {generation : Nat} {name : String} {stage : StagePlan}
    (hstage : plan.stage generation name = .ok stage) :
    (generation, stage) ∈ plan.stages ∧ stage.name = name := by
  unfold EvolutionPlan.stage at hstage
  split at hstage
  · cases hstage
  · next found hfound =>
    split at hstage
    · next other hother =>
      cases hstage
      have hmem : stage ∈ found.stages := List.mem_of_find?_eq_some hother
      have hname : stage.name = name := by simpa using List.find?_some hother
      have hgeneration : found.generation = generation := by
        obtain ⟨tasks, -, first, -, hgenerations⟩ := h
        rw [generation?, if_pos (Int.natCast_nonneg generation), hgenerations,
          Int.toNat_natCast] at hfound
        rw [generation_of_generationsOf hfound]
        omega
      rw [← hgeneration]
      exact ⟨mem_stages_of_generation? hfound hmem, hname⟩
    · cases hstage

theorem fromDict_buildResume (h : buildResume tasks = .ok plan) : fromDict plan = .ok plan := by
  have hbuilt := h
  simp only [buildResume, buildGenerations, except_bind_ok_iff, require_ok_iff] at h
  obtain ⟨-, hlength, -, -, -, -, hplan⟩ := h
  have hgenerations : plan.generations = generationsOf 0 tasks [16, 25, 25, 25] := by
    cases hplan
    rfl
  have htasks : plan.generations.flatMap GenerationPlan.taskUids = tasks := by
    rw [hgenerations, taskUids_generationsOf]
    simp [hlength]
  unfold fromDict
  dsimp only
  rw [htasks, if_neg (by omega), if_pos hlength, hbuilt]
  simp [bind, Except.bind, require, pure, Except.pure]

def numberedTask (n : Nat) : String := String.ofList (List.replicate (n + 1) 't')

def ninetyOneTasks : List String := (List.range 91).map numberedTask

theorem numberedTask_injective : Function.Injective numberedTask := by
  intro m n h
  have hlists := congrArg String.toList h
  simp only [numberedTask, String.toList_ofList] at hlists
  have hlengths := congrArg List.length hlists
  simp only [List.length_replicate] at hlengths
  omega

theorem ninetyOneTasks_nodup : ninetyOneTasks.Nodup :=
  List.nodup_range.map numberedTask_injective

theorem isText_numberedTask (n : Nat) : Contracts.isText (numberedTask n) = true := by
  rw [Contracts.isText, numberedTask, String.toList_ofList, List.replicate_succ, List.any_cons]
  rfl

def resumePlan : EvolutionPlan where
  generations := generationsOf 0 ninetyOneTasks [16, 25, 25, 25]
  uniqueSearchTasks := 91
  plannedAgentTaskCalls := 326
  maximumProposerCalls := 32
  maximumReviewerCalls := 8
  plannedRealCodexCalls := 366

theorem buildResume_resumePlan : buildResume ninetyOneTasks = .ok resumePlan := by
  have htexts : ∀ task ∈ ninetyOneTasks, Contracts.isText task = true := by
    intro task htask
    obtain ⟨n, -, rfl⟩ := List.mem_map.mp htask
    exact isText_numberedTask n
  have hlength : ninetyOneTasks.length = 91 := by simp [ninetyOneTasks]
  rw [buildResume, buildGenerations, require, require, require, if_pos hlength,
    if_pos ninetyOneTasks_nodup, if_pos htexts]
  rfl

end EvolutionPlan

end JlensEvolve.Evolution
