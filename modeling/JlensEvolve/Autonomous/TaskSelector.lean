import Mathlib.Data.Prod.Lex
import Mathlib.Data.List.Dedup
import Mathlib.Data.List.Rotate
import Mathlib.Data.String.Basic
import Mathlib.Algebra.Order.Field.Rat
import JlensEvolve.Contracts
import JlensEvolve.Library.Effect

/-!
`autonomous/task_selector.py`: the tasks of a round, ranked by what the history
says about them, cut off at a cap on how often a task is used, and spread over
two projects.
-/

namespace JlensEvolve.Autonomous

open Library

structure AutonomousEvolutionError where
  message : String
deriving DecidableEq

/-- A row of the pool, normalized: the row with its fingerprint, and what the
selector reads of it. -/
structure FeedbackTask where
  instanceId : String
  project : String
  estimatedCost : ℚ
  row : List (String × Json)
deriving DecidableEq

/-- A claim of an earlier round, as canonical JSON. -/
structure HistoricalClaim where
  taskId : String
  classification : String
  payload : Json

/-- `TaskSelectionContext` after its checks. -/
structure TaskSelectionContext where
  historicalClaims : List HistoricalClaim
  currentBestRevisionId : Option String
  currentBestSupportedTaskIds : List String
  failureSignatureCounts : Dict String Nat
  goalGap : Nat
  taskSelectionCounts : Dict String Nat
  repeatHardCap : Nat
  excludedTaskIds : List String
  repeatHardCap_pos : 0 < repeatHardCap

/-- What `select` is told about the past: a context, or the claims of the round
before alone. -/
inductive SelectionPast where
  | claims (prior : List HistoricalClaim)
  | stateful (context : TaskSelectionContext)

/-- `FeedbackTaskSelector`. The constructor refuses an empty pool and a task id
that occurs twice. -/
structure FeedbackTaskSelector where
  tasks : List FeedbackTask
  nonempty : tasks ≠ []
  distinct_ids : (tasks.map (·.instanceId)).Nodup

structure TaskSelection where
  selectionId : String
  roundIndex : Int
  selectionContextSha256 : String
  selectionContext : Json
  selectedTaskIds : List String
  selectedProjects : List String
  selectionReason : List String
  excluded : List String
  tasks : List FeedbackTask

/-- `counts.get(task_id, 0)`. -/
def countOf (counts : Dict String Nat) (taskId : String) : Nat := (counts.get? taskId).getD 0

def countsJson (counts : Dict String Nat) : Json :=
  .obj (counts.entries.map fun entry => (entry.1, .int entry.2))

def TaskSelectionContext.identityPayload (context : TaskSelectionContext) :
    List (String × Json) :=
  [("historical_claims", .arr (context.historicalClaims.map (·.payload))),
    ("current_best_revision_id", Contracts.optionText context.currentBestRevisionId),
    ("current_best_supported_task_ids", .arr (context.currentBestSupportedTaskIds.map .str)),
    ("failure_signature_counts", countsJson context.failureSignatureCounts),
    ("goal_gap", .int context.goalGap),
    ("task_selection_counts", countsJson context.taskSelectionCounts),
    ("repeat_hard_cap", .int context.repeatHardCap)] ++
  if context.excludedTaskIds = [] then []
  else [("excluded_task_ids", .arr (context.excludedTaskIds.map .str))]

namespace SelectionPast

variable (past : SelectionPast)

def historical : List HistoricalClaim :=
  match past with
  | .claims prior => prior
  | .stateful context => context.historicalClaims

def excludedIds : List String :=
  match past with
  | .claims _ => []
  | .stateful context => context.excludedTaskIds

/-- Whether the latest claim about a task calls it a regression or neutral. -/
def troubled (taskId : String) : Bool :=
  match past.historical.reverse.find? (·.taskId = taskId) with
  | some claim => claim.classification ∈ ["regression", "neutral"]
  | none => false

/-- The tasks a round may use. -/
def selectable (task : FeedbackTask) : Bool :=
  task.instanceId ∉ past.excludedIds &&
    match past with
    | .claims _ => true
    | .stateful context =>
      countOf context.taskSelectionCounts task.instanceId < context.repeatHardCap

def rankKey (task : FeedbackTask) : ℕ ×ₗ ℕ ×ₗ ℤ ×ₗ ℕ ×ₗ ℚ ×ₗ String :=
  let calm := if past.troubled task.instanceId then 0 else 1
  match past with
  | .claims _ =>
    toLex (calm, toLex (0, toLex (0, toLex (0, toLex (task.estimatedCost, task.instanceId)))))
  | .stateful context =>
    let supported := if 0 < context.goalGap ∧
      task.instanceId ∉ context.currentBestSupportedTaskIds then 0 else 1
    toLex (supported, toLex (calm,
      toLex (-(countOf context.failureSignatureCounts task.instanceId : ℤ),
        toLex (countOf context.taskSelectionCounts task.instanceId,
          toLex (task.estimatedCost, task.instanceId)))))

/-- The selectable tasks, best first; without a context the round number turns
the list. -/
def ranked (tasks : List FeedbackTask) (roundIndex : Int) (count : Nat) : List FeedbackTask :=
  let sorted := (tasks.filter past.selectable).insertionSort fun a b =>
    past.rankKey a ≤ past.rankKey b
  match past with
  | .claims _ => sorted.rotate (roundIndex * count % sorted.length).toNat
  | .stateful _ => sorted

/-- The payload the context digest is taken over. -/
def payload : Json :=
  match past with
  | .claims prior =>
    .obj [("schema_version", .int 1), ("mode", .str "compatibility-prior-claims"),
      ("historical_claims", .arr (prior.map (·.payload)))]
  | .stateful context =>
    .obj ([("schema_version", .int 1), ("mode", .str "stateful-v1")] ++ context.identityPayload)

def reasons : List String :=
  match past with
  | .claims _ => ["feedback-only", "project-diversity", "deterministic-round-rotation"]
  | .stateful context =>
    ["feedback-only"] ++
    (if context.excludedTaskIds = [] then []
      else ["excluded-task-count=" ++ toString context.excludedTaskIds.length]) ++
    ["goal-gap=" ++ toString context.goalGap,
      "current-best=" ++ context.currentBestRevisionId.getD "none",
      "unsupported-current-best-first", "historical-regression-neutral-first",
      "repeated-failure-first", "least-selected-first", "cost-ascending",
      "repeat-hard-cap=" ++ toString context.repeatHardCap, "project-diversity",
      "deterministic-context-replay"]

end SelectionPast

/-- The two tasks chosen before all others, when more than one is wanted: the
first, and the first of another project. -/
def diverse (count : Nat) : List FeedbackTask → List FeedbackTask
  | [] => []
  | first :: rest =>
    if 1 < count then first :: (rest.find? (·.project ≠ first.project)).toList else []

/-- Filling up in the order of the ranking. -/
def fill (count : Nat) : List FeedbackTask → List FeedbackTask → List FeedbackTask
  | selected, [] => selected
  | selected, task :: rest =>
    if selected.length = count then selected
    else if task ∈ selected then fill count selected rest
    else fill count (selected ++ [task]) rest

def chosen (count : Nat) (ranked : List FeedbackTask) : List FeedbackTask :=
  fill count (diverse count ranked) ranked

def projectsOf (tasks : List FeedbackTask) : List String := (tasks.map (·.project)).dedup

namespace FeedbackTaskSelector

variable (selector : FeedbackTaskSelector)

def taskPoolSha256 : String :=
  Json.contentSha256 (.arr (selector.tasks.map fun task => .obj task.row))

/-- The selection that is returned for these tasks. -/
def selection (roundIndex : Int) (past : SelectionPast) (ranked selected : List FeedbackTask) :
    TaskSelection :=
  let contextSha256 := past.payload.contentSha256
  let ids := selected.map (·.instanceId)
  let identity : Json := .obj [("round_index", .int roundIndex),
    ("task_pool_sha256", .str selector.taskPoolSha256),
    ("selected_task_ids", .arr (ids.map .str)),
    ("ranked_selectable_task_ids", .arr (ranked.map fun task => .str task.instanceId)),
    ("selection_context_sha256", .str contextSha256)]
  { selectionId := "selection-" ++ String.ofList (identity.contentSha256.toList.take 24)
    roundIndex
    selectionContextSha256 := contextSha256
    selectionContext := past.payload
    selectedTaskIds := ids
    selectedProjects := (projectsOf selected).insertionSort (· ≤ ·)
    selectionReason := past.reasons
    excluded := (selector.tasks.filter (· ∉ selected)).map (·.instanceId)
    tasks := selected }

def select (roundIndex : Int) (count : Nat) (past : SelectionPast) :
    Except AutonomousEvolutionError TaskSelection := do
  require (0 ≤ roundIndex ∧ 0 < count ∧ count ≤ selector.tasks.length)
    ⟨"task selection bounds are invalid"⟩
  let ranked := past.ranked selector.tasks roundIndex count
  require (count ≤ ranked.length) ⟨"repeat hard cap leaves too few selectable tasks"⟩
  let selected := chosen count ranked
  require (selected.length = count ∧ (1 < count → 2 ≤ (projectsOf selected).length))
    ⟨"selected tasks must cover at least two projects"⟩
  return selector.selection roundIndex past ranked selected

end FeedbackTaskSelector

theorem mem_diverse {count : Nat} {ranked : List FeedbackTask} {task : FeedbackTask}
    (h : task ∈ diverse count ranked) : task ∈ ranked := by
  cases ranked with
  | nil => cases h
  | cons first rest =>
    rw [diverse] at h
    split at h
    · rcases List.mem_cons.mp h with rfl | hother
      · exact List.mem_cons_self
      · exact List.mem_cons_of_mem _ (List.mem_of_find?_eq_some (Option.mem_toList.mp hother))
    · cases h

theorem nodup_diverse (count : Nat) (ranked : List FeedbackTask) : (diverse count ranked).Nodup := by
  cases ranked with
  | nil => exact List.nodup_nil
  | cons first rest =>
    rw [diverse]
    split
    · cases hfound : rest.find? (·.project ≠ first.project) with
      | none => exact List.nodup_singleton _
      | some other =>
        have hdiffers : other.project ≠ first.project := by
          simpa using List.find?_some hfound
        refine List.nodup_cons.mpr ⟨?_, List.nodup_singleton _⟩
        intro hsame
        exact hdiffers (by rw [List.mem_singleton.mp hsame])
    · exact List.nodup_nil

theorem length_diverse_le (count : Nat) (ranked : List FeedbackTask) :
    (diverse count ranked).length ≤ count := by
  cases ranked with
  | nil => exact Nat.zero_le _
  | cons first rest =>
    rw [diverse]
    split
    · rename_i hmany
      cases rest.find? (·.project ≠ first.project) with
      | none =>
        simp only [Option.toList_none, List.length_singleton]
        omega
      | some other =>
        simp only [Option.toList_some, List.length_cons, List.length_nil]
        omega
    · exact Nat.zero_le _

theorem extends_fill (count : Nat) (tasks : List FeedbackTask) :
    ∀ selected, selected <+: fill count selected tasks := by
  induction tasks with
  | nil =>
    intro selected
    exact List.prefix_rfl
  | cons task rest ih =>
    intro selected
    rw [fill]
    split
    · exact List.prefix_rfl
    · split
      · exact ih selected
      · exact (List.prefix_append selected [task]).trans (ih (selected ++ [task]))

theorem mem_fill {count : Nat} {tasks : List FeedbackTask} {task : FeedbackTask} :
    ∀ {selected}, task ∈ fill count selected tasks → task ∈ selected ∨ task ∈ tasks := by
  induction tasks with
  | nil =>
    intro selected h
    exact Or.inl h
  | cons next rest ih =>
    intro selected h
    rw [fill] at h
    split at h
    · exact Or.inl h
    · split at h
      · exact (ih h).imp_right (List.mem_cons_of_mem _)
      · rcases ih h with hselected | hrest
        · rcases List.mem_append.mp hselected with hold | hnew
          · exact Or.inl hold
          · rw [List.mem_singleton.mp hnew]
            exact Or.inr List.mem_cons_self
        · exact Or.inr (List.mem_cons_of_mem _ hrest)

theorem length_fill {count : Nat} (tasks : List FeedbackTask) :
    ∀ {selected : List FeedbackTask}, tasks.Nodup → selected.length ≤ count →
      (fill count selected tasks).length =
        min count (selected.length + (tasks.filter (· ∉ selected)).length) := by
  induction tasks with
  | nil =>
    intro selected _ hle
    simp only [fill, List.filter_nil, List.length_nil]
    omega
  | cons task rest ih =>
    intro selected hnodup hle
    obtain ⟨hfresh, hrest⟩ := List.nodup_cons.mp hnodup
    rw [fill]
    split
    · omega
    · rename_i hshort
      by_cases hmem : task ∈ selected
      · rw [if_pos hmem, ih hrest hle, List.filter_cons_of_neg (by simpa using hmem)]
      · rw [if_neg hmem, ih hrest (by rw [List.length_append, List.length_singleton]; omega),
          List.filter_cons_of_pos (by simpa using hmem)]
        have hsame : rest.filter (· ∉ selected ++ [task]) = rest.filter (· ∉ selected) := by
          refine List.filter_congr ?_
          intro other hother
          have hne : other ≠ task := by
            rintro rfl
            exact hfresh hother
          simp [hne]
        rw [hsame, List.length_append, List.length_singleton, List.length_cons]
        omega

theorem nodup_fill (count : Nat) (tasks : List FeedbackTask) :
    ∀ {selected}, selected.Nodup → (fill count selected tasks).Nodup := by
  induction tasks with
  | nil =>
    intro selected h
    exact h
  | cons task rest ih =>
    intro selected h
    rw [fill]
    split
    · exact h
    · split
      · exact ih h
      · rename_i hfresh
        rw [← List.concat_eq_append]
        exact ih (h.concat hfresh)

theorem nodup_chosen (count : Nat) (ranked : List FeedbackTask) : (chosen count ranked).Nodup :=
  nodup_fill count ranked (nodup_diverse count ranked)

theorem mem_chosen {count : Nat} {ranked : List FeedbackTask} {task : FeedbackTask}
    (h : task ∈ chosen count ranked) : task ∈ ranked :=
  (mem_fill h).elim mem_diverse id

theorem length_chosen {count : Nat} {ranked : List FeedbackTask} (hnodup : ranked.Nodup)
    (h : count ≤ ranked.length) : (chosen count ranked).length = count := by
  have hlength := length_fill ranked hnodup (length_diverse_le count ranked)
  have hused : (ranked.filter (· ∈ diverse count ranked)).length ≤
      (diverse count ranked).length := by
    have hsubset : ranked.filter (· ∈ diverse count ranked) ⊆ diverse count ranked := by
      intro task htask
      simpa using (List.mem_filter.mp htask).2
    exact (List.subperm_of_subset (hnodup.filter _) hsubset).length_le
  have hsplit := List.length_eq_length_filter_add (l := ranked)
    (fun task => decide (task ∈ diverse count ranked))
  have hunused : (ranked.filter (fun task => !decide (task ∈ diverse count ranked))).length =
      (ranked.filter (· ∉ diverse count ranked)).length := by
    simp only [decide_not]
  rw [chosen, hlength]
  omega

theorem two_le_projectsOf_iff {tasks : List FeedbackTask} :
    2 ≤ (projectsOf tasks).length ↔
      ∃ first ∈ tasks, ∃ second ∈ tasks, first.project ≠ second.project := by
  have hnodup : (projectsOf tasks).Nodup := List.nodup_dedup _
  have hmem : ∀ project, project ∈ projectsOf tasks ↔ ∃ task ∈ tasks, task.project = project := by
    intro project
    rw [projectsOf, List.mem_dedup, List.mem_map]
  constructor
  · intro h
    obtain ⟨one, other, rest, hlist⟩ : ∃ one other rest, projectsOf tasks = one :: other :: rest := by
      match hlist : projectsOf tasks with
      | [] => simp [hlist] at h
      | [_] => simp [hlist] at h
      | one :: other :: rest => exact ⟨one, other, rest, rfl⟩
    rw [hlist] at hmem hnodup
    obtain ⟨first, hfirst, hone⟩ := (hmem one).mp (by simp)
    obtain ⟨second, hsecond, hother⟩ := (hmem other).mp (by simp)
    refine ⟨first, hfirst, second, hsecond, ?_⟩
    rintro hsame
    rw [hone, hother] at hsame
    exact (List.nodup_cons.mp hnodup).1 (by simp [hsame])
  · rintro ⟨first, hfirst, second, hsecond, hdiffers⟩
    have hpair : [first.project, second.project].Nodup := by
      simpa using hdiffers
    have hsubset : [first.project, second.project] ⊆ projectsOf tasks := by
      intro project hproject
      rcases List.mem_cons.mp hproject with rfl | hproject
      · exact (hmem _).mpr ⟨first, hfirst, rfl⟩
      · rw [List.mem_singleton.mp hproject]
        exact (hmem _).mpr ⟨second, hsecond, rfl⟩
    exact (List.subperm_of_subset hpair hsubset).length_le

theorem chosen_covers_iff {count : Nat} (hmany : 1 < count) (ranked : List FeedbackTask) :
    2 ≤ (projectsOf (chosen count ranked)).length ↔
      ∃ first ∈ ranked, ∃ second ∈ ranked, first.project ≠ second.project := by
  rw [two_le_projectsOf_iff]
  constructor
  · rintro ⟨first, hfirst, second, hsecond, hdiffers⟩
    exact ⟨first, mem_chosen hfirst, second, mem_chosen hsecond, hdiffers⟩
  · rintro ⟨one, hone, two, htwo, hdiffers⟩
    cases ranked with
    | nil => cases hone
    | cons first rest =>
      have hother : ∃ other ∈ rest, other.project ≠ first.project := by
        by_contra hnone
        push Not at hnone
        have hall : ∀ task ∈ first :: rest, task.project = first.project := by
          intro task htask
          rcases List.mem_cons.mp htask with rfl | hrest
          · rfl
          · exact hnone task hrest
        exact hdiffers ((hall one hone).trans (hall two htwo).symm)
      obtain ⟨other, hother⟩ : ∃ other, rest.find? (·.project ≠ first.project) = some other := by
        rw [← Option.isSome_iff_exists, List.find?_isSome]
        simpa using hother
      have hdiverse : diverse count (first :: rest) = [first, other] := by
        rw [diverse, if_pos hmany, hother]
        rfl
      have hstart : [first, other] <+: chosen count (first :: rest) := by
        rw [chosen, hdiverse]
        exact extends_fill count (first :: rest) [first, other]
      have hproject : other.project ≠ first.project := by
        simpa using List.find?_some hother
      exact ⟨first, hstart.subset (by simp), other, hstart.subset (by simp), hproject.symm⟩

namespace FeedbackTaskSelector

variable (selector : FeedbackTaskSelector)

theorem nodup_tasks : selector.tasks.Nodup := selector.distinct_ids.of_map _

theorem perm_ranked (past : SelectionPast) (tasks : List FeedbackTask) (roundIndex : Int)
    (count : Nat) : (past.ranked tasks roundIndex count).Perm (tasks.filter past.selectable) := by
  cases past with
  | claims prior => exact (List.rotate_perm _ _).trans (List.perm_insertionSort _ _)
  | stateful context => exact List.perm_insertionSort _ _

/-- A selection is returned exactly when enough tasks are selectable and, for
more than one, they are not all of one project. -/
theorem select_ok_iff (roundIndex : Int) (count : Nat) (past : SelectionPast) :
    (∃ selection, selector.select roundIndex count past = .ok selection) ↔
      0 ≤ roundIndex ∧ 0 < count ∧
        count ≤ (selector.tasks.filter past.selectable).length ∧
        (1 < count → ∃ first ∈ selector.tasks.filter past.selectable,
          ∃ second ∈ selector.tasks.filter past.selectable, first.project ≠ second.project) := by
  have hperm := perm_ranked past selector.tasks roundIndex count
  have hnodup : (past.ranked selector.tasks roundIndex count).Nodup :=
    hperm.nodup_iff.mpr (selector.nodup_tasks.filter _)
  have hcovers : ∀ hmany : 1 < count,
      2 ≤ (projectsOf (chosen count (past.ranked selector.tasks roundIndex count))).length ↔
        ∃ first ∈ selector.tasks.filter past.selectable,
          ∃ second ∈ selector.tasks.filter past.selectable, first.project ≠ second.project := by
    intro hmany
    rw [chosen_covers_iff hmany]
    simp only [hperm.mem_iff]
  have hpool : (selector.tasks.filter past.selectable).length ≤ selector.tasks.length :=
    List.length_filter_le _ _
  simp only [select, except_bind_ok_iff, require_ok_iff, exists_const, hperm.length_eq]
  constructor
  · rintro ⟨_, ⟨hround, hcount, -⟩, henough, ⟨-, htwo⟩, -⟩
    exact ⟨hround, hcount, henough, fun hmany => (hcovers hmany).mp (htwo hmany)⟩
  · rintro ⟨hround, hcount, henough, htwo⟩
    have hlength := length_chosen hnodup (henough.trans hperm.length_eq.ge)
    exact ⟨_, ⟨hround, hcount, henough.trans hpool⟩, henough,
      ⟨hlength, fun hmany => (hcovers hmany).mpr (htwo hmany)⟩, rfl⟩

theorem mem_tasks_of_select {roundIndex : Int} {count : Nat} {past : SelectionPast}
    {selection : TaskSelection} (h : selector.select roundIndex count past = .ok selection) :
    selection.selectedTaskIds = selection.tasks.map (·.instanceId) ∧ selection.tasks.Nodup ∧
      ∀ task ∈ selection.tasks, task ∈ selector.tasks ∧ past.selectable task = true := by
  simp only [select, except_bind_ok_iff, require_ok_iff, exists_const] at h
  obtain ⟨-, -, -, hselection⟩ := h
  cases hselection
  refine ⟨rfl, nodup_chosen _ _, ?_⟩
  intro task htask
  have hranked := (perm_ranked past selector.tasks roundIndex count).mem_iff.mp (mem_chosen htask)
  exact List.mem_filter.mp hranked

theorem nodup_selectedTaskIds {roundIndex : Int} {count : Nat} {past : SelectionPast}
    {selection : TaskSelection} (h : selector.select roundIndex count past = .ok selection) :
    selection.selectedTaskIds.Nodup := by
  obtain ⟨hids, hnodup, hpool⟩ := selector.mem_tasks_of_select h
  rw [hids]
  refine hnodup.map_on ?_
  intro first hfirst second hsecond hsame
  exact List.inj_on_of_nodup_map selector.distinct_ids (hpool first hfirst).1
    (hpool second hsecond).1 hsame

end FeedbackTaskSelector

end JlensEvolve.Autonomous
