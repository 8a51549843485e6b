import JlensEvolve.SkillLoop.EvidenceComposition
import JlensEvolve.SkillLoop.ExperimentResume

/-!
What a freeze that died leaves for the composition. The folder keeps its
temporary name and a resumed run freezes the cell again, so that the leftover is
an attempt more as soon as it holds an `ATTEMPT.json`.
-/

namespace JlensEvolve.SkillLoop

open Library Contracts Relation

variable {rounded : ℚ → ℚ} {runner : PairedExperimentRunner} {options : RunOptions}
  {evidence after other : CellEvidence} {cell : Cell} {made : MadeCell}

/-! ## Runs beside leftovers -/

/-- A run goes on alike from both. -/
structure Alike (evidence other : CellEvidence) : Prop where
  cells : other.cells = evidence.cells
  contexts : other.contexts = evidence.contexts

theorem Alike.symm (h : Alike evidence other) : Alike other evidence :=
  ⟨h.cells.symm, h.contexts.symm⟩

theorem Alike.advances (h : Alike evidence other)
    (hstep : Advances rounded runner options evidence after) :
    ∃ later, Advances rounded runner options other later ∧ Alike after later := by
  obtain ⟨cell, hnext, rfl⟩ := hstep
  refine ⟨executed runner other cell, ⟨cell, (nextCell_congr h.cells).trans hnext, rfl⟩, ?_⟩
  rcases hmake : makeCell runner evidence cell with ⟨result, between⟩
  have hmade := makeCell_made hmake
  rw [executed, executed, hmake, hmade.elsewhere other h.contexts]
  cases result with
  | error error => exact ⟨h.cells.trans hmade.cells.symm, rfl⟩
  | ok made =>
    refine ⟨?_, rfl⟩
    change other.cells.set _ _ = between.cells.set _ _
    rw [h.cells, hmade.cells]

theorem Alike.walk (h : Alike evidence other)
    (hwalk : ReflTransGen (Advances rounded runner options) evidence after) :
    ∃ later, ReflTransGen (Advances rounded runner options) other later ∧ Alike after later := by
  induction hwalk with
  | refl => exact ⟨other, ReflTransGen.refl, h⟩
  | tail _ hlast ih =>
    obtain ⟨middle, hmiddle, hsame⟩ := ih
    obtain ⟨later, hstep, hlater⟩ := hsame.advances hlast
    exact ⟨later, hmiddle.tail hstep, hlater⟩

theorem Alike.settled (h : Alike evidence other)
    (hsettled : Settled rounded runner options evidence) :
    Settled rounded runner options other := by
  intro last hwalk
  obtain ⟨later, hlater, hsame⟩ := h.symm.walk hwalk
  rw [← hsame.cells, hsettled later hlater, h.cells]

theorem leftovers_of_advances (h : Advances rounded runner options evidence after) :
    after.leftovers = evidence.leftovers := by
  obtain ⟨cell, -, rfl⟩ := h
  rw [executed]
  split
  · rename_i error between hmake
    exact (makeCell_made hmake).leftovers
  · rename_i made between hmake
    exact (makeCell_made hmake).leftovers

theorem leftovers_of_walk
    (h : ReflTransGen (Advances rounded runner options) evidence after) :
    after.leftovers = evidence.leftovers := by
  induction h with
  | refl => rfl
  | tail _ hlast ih => exact (leftovers_of_advances hlast).trans ih

theorem frozen_of_advances (h : Advances rounded runner options evidence after)
    {key : String × String} {folder : CellFolder} (hthere : evidence.cells.get? key = some folder) :
    after.cells.get? key = some folder := by
  obtain ⟨cell, hnext, rfl⟩ := h
  rw [executed]
  split
  · rename_i error between hmake
    rw [(makeCell_made hmake).cells]
    exact hthere
  · rename_i made between hmake
    rw [withCell, Dict.get?_set_of_ne, (makeCell_made hmake).cells]
    · exact hthere
    · intro hkey
      have habsent := (runnable_iff.mp (runnable_of_nextCell hnext)).2.2
      rw [← hkey, hthere] at habsent
      cases habsent

theorem frozen_of_walk (h : ReflTransGen (Advances rounded runner options) evidence after)
    {key : String × String} {folder : CellFolder} (hthere : evidence.cells.get? key = some folder) :
    after.cells.get? key = some folder := by
  induction h with
  | refl => exact hthere
  | tail _ hlast ih => exact frozen_of_advances hlast ih

/-- The folder of a task is there with its cells. -/
def Housed (evidence : CellEvidence) : Prop :=
  ∀ key ∈ evidence.cells.keys, key.1 ∈ evidence.taskFolders

theorem mem_withTaskFolder_iff {taskId : String} {task : EvaluationTask} :
    taskId ∈ (withTaskFolder evidence task).taskFolders ↔
      taskId ∈ evidence.taskFolders ∨ taskId = task.taskId := by
  rw [withTaskFolder]
  split
  · rename_i hthere
    exact ⟨Or.inl, fun h => h.elim id fun hsame => hsame ▸ hthere⟩
  · rw [List.mem_append, List.mem_singleton]

theorem Housed.advances (h : Housed evidence)
    (hstep : Advances rounded runner options evidence after) : Housed after := by
  obtain ⟨cell, -, rfl⟩ := hstep
  rw [executed]
  split
  · rename_i error between hmake
    have hmade := makeCell_made hmake
    rw [Housed, hmade.cells, hmade.taskFolders]
    exact h
  · rename_i made between hmake
    have hmade := makeCell_made hmake
    intro key hkey
    rw [Dict.mem_keys_iff, withCell, Dict.get?_set, hmade.cells] at hkey
    refine mem_withTaskFolder_iff.mpr ?_
    rw [hmade.taskFolders]
    split at hkey
    · rename_i hsame
      rw [hsame]
      exact Or.inr rfl
    · exact Or.inl (h key ((Dict.mem_keys_iff _ _).mpr hkey))

theorem Housed.walk (h : Housed evidence)
    (hwalk : ReflTransGen (Advances rounded runner options) evidence after) : Housed after := by
  induction hwalk with
  | refl => exact h
  | tail _ hlast ih => exact ih.advances hlast

/-! ## The crash -/

/-- The freeze had begun to write `ATTEMPT.json` and had not renamed the folder. -/
def FreezePoint.leavesReport : FreezePoint → Bool
  | .attemptCut | .attemptWhole => true
  | .parent | .files .. | .renamed => false

/-- The folder that is left under the temporary name. -/
def leftoverOf (runner : PairedExperimentRunner) (cell : Cell) (made : MadeCell) :
    FreezePoint → Option CellFolder
  | .parent | .renamed => none
  | .files whole part =>
    let files := made.run.files
    let next := (files[whole]?.bind fun file => part.map fun text => (file.1, text)).toList
    some ⟨writeFiles (files.take whole ++ next), none⟩
  | .attemptCut => some ⟨writeFiles made.run.files, some .cut⟩
  | .attemptWhole => some (frozenFolder runner cell made)

theorem withTemporary_of_plain (hplain : dotted cell.2.conditionId = false) (suffix : String)
    (folder : CellFolder) :
    withTemporary evidence cell suffix folder = { withTaskFolder evidence cell.1 with
      leftovers :=
        evidence.leftovers.set (cell.1.taskId, temporaryName cell.2 suffix) folder } := by
  rw [withTemporary, if_neg (dotted_eq_false_iff.mp hplain).1]

/-- What there is after a crash, the rename apart. -/
structure Interrupted (runner : PairedExperimentRunner) (evidence : CellEvidence) (cell : Cell)
    (made : MadeCell) (suffix : String) (point : FreezePoint) (left : CellEvidence) : Prop where
  alike : Alike evidence left
  folders : ∀ taskId ∈ evidence.taskFolders, taskId ∈ left.taskFolders
  leftovers : left.leftovers = (match leftoverOf runner cell made point with
    | none => evidence.leftovers
    | some folder =>
      evidence.leftovers.set (cell.1.taskId, temporaryName cell.2 suffix) folder)

theorem interruptFreeze_interrupted (hplain : dotted cell.2.conditionId = false) (suffix : String)
    {point : FreezePoint} (hpoint : point ≠ .renamed) :
    Interrupted runner evidence cell made suffix point
      (interruptFreeze runner evidence cell made suffix point) := by
  have hfolders : ∀ taskId ∈ evidence.taskFolders,
      taskId ∈ (withTaskFolder evidence cell.1).taskFolders :=
    fun _ h => mem_withTaskFolder_iff.mpr (Or.inl h)
  cases point with
  | parent =>
    rw [interruptFreeze, if_neg (dotted_eq_false_iff.mp hplain).1]
    exact ⟨⟨rfl, rfl⟩, hfolders, rfl⟩
  | files whole part =>
    rw [interruptFreeze, withTemporary_of_plain hplain]
    exact ⟨⟨rfl, rfl⟩, hfolders, rfl⟩
  | attemptCut =>
    rw [interruptFreeze, withTemporary_of_plain hplain]
    exact ⟨⟨rfl, rfl⟩, hfolders, rfl⟩
  | attemptWhole =>
    rw [interruptFreeze, withTemporary_of_plain hplain]
    exact ⟨⟨rfl, rfl⟩, hfolders, rfl⟩
  | renamed => exact absurd rfl hpoint

/-- Where a resumed run ends: the whole run freezes the same cells, the
interrupted one among them. -/
theorem cells_of_resumed {start whole before between left resumed : CellEvidence}
    (hwalked : ReflTransGen (Advances rounded runner options) start before)
    (hnext : nextCell rounded runner options before = some cell)
    (hmake : makeCell runner before cell = (.ok made, between)) (halike : Alike between left)
    (hresumed : ReflTransGen (Advances rounded runner options) left resumed)
    (hsettled : Settled rounded runner options resumed)
    (hwhole : ReflTransGen (Advances rounded runner options) start whole)
    (hsettledWhole : Settled rounded runner options whole) :
    resumed.cells = whole.cells ∧
      resumed.cells.get? cell.key = some (frozenFolder runner cell made) := by
  have hmade := makeCell_made hmake
  have hfirst : Advances rounded runner options before (withCell runner between cell made) :=
    ⟨cell, hnext, by rw [executed, hmake]⟩
  have hagain : Advances rounded runner options between (withCell runner between cell made) :=
    ⟨cell, (nextCell_congr hmade.cells).trans hnext, by rw [executed, hmade.again between rfl]⟩
  have hfrozen : (withCell runner between cell made).cells.get? cell.key =
      some (frozenFolder runner cell made) := by
    rw [withCell, Dict.get?_set, if_pos rfl]
  obtain ⟨last, hlast, hsame⟩ := halike.symm.walk hresumed
  have hlastSettled := hsame.settled hsettled
  have hon : ReflTransGen (Advances rounded runner options)
      (withCell runner between cell made) last := by
    rcases hlast.cases_head with rfl | ⟨second, hsecond, hrest⟩
    · have hsettledCells := hlastSettled _ (ReflTransGen.single hagain)
      have habsent := (runnable_iff.mp (runnable_of_nextCell hnext)).2.2
      rw [hsettledCells, hmade.cells, habsent] at hfrozen
      cases hfrozen
    · rw [advances_rightUnique hsecond hagain] at hrest
      exact hrest
  have hcells : last.cells = whole.cells :=
    seen_eq_of_settled advances_rightUnique ((hwalked.tail hfirst).trans hon) hwhole hlastSettled
      hsettledWhole
  rw [← hsame.cells]
  exact ⟨hcells, frozen_of_walk hon hfrozen⟩

/-! ## What a composition reads -/

section Compose

variable {roots others : String → CellEvidence} {taskset : EvaluationTaskSet}
  {selection : TargetSelection} {source : EvidenceSource} {task : EvaluationTask}
  {gathered result : Gathered}

def conditionOf (folder : CellFolder) : String :=
  match folder.attempt with
  | some (.whole report) => report.conditionId
  | _ => ""

/-- The cells that the attempts of a task come to. -/
def attemptKeys (evidence : CellEvidence) (taskId : String) : List (String × String) :=
  (attemptsOf evidence taskId).map fun attempt => (taskId, conditionOf attempt.2)

theorem mem_attemptsOf_iff {taskId name : String} {folder : CellFolder} :
    (name, folder) ∈ attemptsOf evidence taskId ↔
      (((taskId, name), folder) ∈ evidence.cells.entries ∨
        ((taskId, name), folder) ∈ evidence.leftovers.entries) ∧
        dotted name = false ∧ folder.attempt.isSome = true := by
  rw [attemptsOf, List.mem_insertionSort, List.mem_map]
  constructor
  · intro h
    obtain ⟨⟨⟨entryTask, entryName⟩, entryFolder⟩, hentry, hsame⟩ := h
    cases hsame
    obtain ⟨hmem, hkept⟩ := List.mem_filter.mp hentry
    simp only [Bool.and_eq_true, decide_eq_true_eq, Bool.not_eq_true'] at hkept
    obtain ⟨⟨rfl, hplain⟩, hattempt⟩ := hkept
    exact ⟨List.mem_append.mp hmem, hplain, hattempt⟩
  · intro h
    obtain ⟨hmem, hplain, hattempt⟩ := h
    refine ⟨((taskId, name), folder), List.mem_filter.mpr ⟨List.mem_append.mpr hmem, ?_⟩, rfl⟩
    simp only [Bool.and_eq_true, decide_eq_true_eq, Bool.not_eq_true']
    exact ⟨⟨trivial, hplain⟩, hattempt⟩

theorem readAttempt_ok {attempt : String × CellFolder}
    (h : readAttempt source task attempt gathered = .ok result) :
    (∃ report, attempt.2.attempt = some (.whole report)) ∧
      result.cells.map ComposedCell.key =
        gathered.cells.map ComposedCell.key ++ [(task.taskId, conditionOf attempt.2)] := by
  simp only [readAttempt, except_bind_ok_iff, require_ok_iff, exists_const] at h
  obtain ⟨report, hload, -, -, -, -, -, hresult⟩ := h
  cases hresult
  rw [loadFrozenAttempt] at hload
  split at hload
  · rename_i found hfound
    simp only [except_bind_ok_iff, require_ok_iff, exists_const] at hload
    obtain ⟨-, -, -, hsame⟩ := hload
    cases hsame
    refine ⟨⟨report, hfound⟩, ?_⟩
    rw [List.map_append, conditionOf, hfound]
    rfl
  · cases hload

theorem readAttempts_ok {attempts : List (String × CellFolder)} :
    ∀ {gathered : Gathered}, readAttempts source task attempts gathered = .ok result →
      (∀ attempt ∈ attempts, ∃ report, attempt.2.attempt = some (.whole report)) ∧
        result.cells.map ComposedCell.key = gathered.cells.map ComposedCell.key ++
          attempts.map fun attempt => (task.taskId, conditionOf attempt.2) := by
  induction attempts with
  | nil =>
    intro gathered h
    cases h
    exact ⟨nofun, (List.append_nil _).symm⟩
  | cons attempt rest ih =>
    intro gathered h
    rw [readAttempts, except_bind_ok_iff] at h
    obtain ⟨middle, hfirst, hrest⟩ := h
    obtain ⟨hwhole, hkeys⟩ := readAttempt_ok hfirst
    obtain ⟨hwholes, hmore⟩ := ih hrest
    refine ⟨List.forall_mem_cons.mpr ⟨hwhole, hwholes⟩, ?_⟩
    rw [hmore, hkeys, List.append_assoc, List.singleton_append, List.map_cons]

/-- All attempts of the task were read, each to a cell of its own. -/
structure ReadIn (evidence : CellEvidence) (taskId : String) (keys : List (String × String)) :
    Prop where
  whole : ∀ attempt ∈ attemptsOf evidence taskId, ∃ report,
    attempt.2.attempt = some (.whole report)
  keys : (attemptKeys evidence taskId).Sublist keys

theorem ReadIn.mono {taskId : String} {keys more : List (String × String)}
    (h : ReadIn evidence taskId keys) (hmore : keys.Sublist more) : ReadIn evidence taskId more :=
  ⟨h.whole, h.keys.trans hmore⟩

theorem readTasks_ok {tasks : List EvaluationTask} :
    ∀ {gathered : Gathered}, readTasks roots source tasks gathered = .ok result →
      (gathered.cells.map ComposedCell.key).Sublist (result.cells.map ComposedCell.key) ∧
        ∀ task ∈ tasks, ReadIn (roots source.experimentRoot) task.taskId
          (result.cells.map ComposedCell.key) := by
  induction tasks with
  | nil =>
    intro gathered h
    cases h
    exact ⟨List.Sublist.refl _, nofun⟩
  | cons task rest ih =>
    intro gathered h
    simp only [readTasks, except_bind_ok_iff, require_ok_iff, exists_const] at h
    obtain ⟨-, -, middle, hfirst, hrest⟩ := h
    obtain ⟨hwhole, hkeys⟩ := readAttempts_ok hfirst
    obtain ⟨hkept, hread⟩ := ih hrest
    rw [hkeys] at hkept
    refine ⟨(List.sublist_append_left _ _).trans hkept, List.forall_mem_cons.mpr ⟨?_, hread⟩⟩
    exact ⟨hwhole, (List.sublist_append_right _ _).trans hkept⟩

theorem readSource_ok (h : readSource roots taskset selection source gathered = .ok result) :
    (gathered.cells.map ComposedCell.key).Sublist (result.cells.map ComposedCell.key) ∧
      ∀ task ∈ cohortTasks taskset source.cohort, ReadIn (roots source.experimentRoot) task.taskId
        (result.cells.map ComposedCell.key) := by
  simp only [readSource, except_bind_ok_iff] at h
  obtain ⟨-, -, after, hafter, hresult⟩ := h
  cases hresult
  have hread := readTasks_ok hafter
  exact hread

theorem readSources_ok {sources : List EvidenceSource} :
    ∀ {gathered : Gathered}, readSources roots taskset selection sources gathered = .ok result →
      (gathered.cells.map ComposedCell.key).Sublist (result.cells.map ComposedCell.key) ∧
        ∀ source ∈ sources, ∀ task ∈ cohortTasks taskset source.cohort,
          ReadIn (roots source.experimentRoot) task.taskId
            (result.cells.map ComposedCell.key) := by
  induction sources with
  | nil =>
    intro gathered h
    cases h
    exact ⟨List.Sublist.refl _, nofun⟩
  | cons source rest ih =>
    intro gathered h
    rw [readSources, except_bind_ok_iff] at h
    obtain ⟨middle, hfirst, hrest⟩ := h
    obtain ⟨hkept, hread⟩ := readSource_ok hfirst
    obtain ⟨hmore, hreadRest⟩ := ih hrest
    refine ⟨hkept.trans hmore, List.forall_mem_cons.mpr ⟨?_, hreadRest⟩⟩
    intro task htask
    exact (hread task htask).mono hmore

theorem mem_sortedSources_iff {sources : List EvidenceSource} :
    source ∈ sortedSources sources ↔ source ∈ sources := by
  rw [sortedSources, List.mem_append, List.mem_filter, List.mem_filter]
  cases source.cohort <;> simp

/-- An accepted composition has read every attempt of its tasks, and no two of
them are one cell. -/
theorem readIn_of_composed {sources : List EvidenceSource} {existing : Option Composition}
    {composition : Composition}
    (h : composeExperimentEvidence roots taskset selection sources existing = .ok composition)
    (hsource : source ∈ sources) (htask : task ∈ cohortTasks taskset source.cohort) :
    ∃ keys, keys.Nodup ∧ ReadIn (roots source.experimentRoot) task.taskId keys := by
  simp only [composeExperimentEvidence, except_bind_ok_iff, require_ok_iff, exists_const] at h
  obtain ⟨-, -, gathered, hgathered, ⟨hnodup, -⟩, -⟩ := h
  exact ⟨_, hnodup, (readSources_ok hgathered).2 source (mem_sortedSources_iff.mpr hsource) task
    htask⟩

/-! ### Evidence that reads alike -/

/-- The task shows the same attempts. -/
structure Shows (evidence other : CellEvidence) (taskId : String) : Prop where
  attempts : attemptsOf other taskId = attemptsOf evidence taskId
  folder : attemptsOf evidence taskId ≠ [] →
    (taskId ∈ other.taskFolders ↔ taskId ∈ evidence.taskFolders)

theorem Shows.refl (evidence : CellEvidence) (taskId : String) : Shows evidence evidence taskId :=
  ⟨rfl, fun _ => Iff.rfl⟩

theorem readTasks_congr {tasks : List EvaluationTask}
    (h : ∀ task ∈ tasks,
      Shows (roots source.experimentRoot) (others source.experimentRoot) task.taskId) :
    ∀ gathered : Gathered, readTasks others source tasks gathered = .ok result ↔
      readTasks roots source tasks gathered = .ok result := by
  induction tasks with
  | nil => exact fun _ => Iff.rfl
  | cons task rest ih =>
    intro gathered
    obtain ⟨hattempts, hfolder⟩ := h task List.mem_cons_self
    have hrest := ih fun other hother => h other (List.mem_cons_of_mem _ hother)
    simp only [readTasks, except_bind_ok_iff, require_ok_iff, exists_const, hattempts, hrest,
      ne_eq, List.length_eq_zero_iff]
    exact and_congr_left fun hsome => hfolder hsome.1

theorem readSources_congr {sources : List EvidenceSource}
    (h : ∀ source ∈ sources, ∀ task ∈ cohortTasks taskset source.cohort,
      Shows (roots source.experimentRoot) (others source.experimentRoot) task.taskId) :
    ∀ gathered : Gathered, readSources others taskset selection sources gathered = .ok result ↔
      readSources roots taskset selection sources gathered = .ok result := by
  induction sources with
  | nil => exact fun _ => Iff.rfl
  | cons source rest ih =>
    intro gathered
    have hfirst : ∀ middle, readSource others taskset selection source gathered = .ok middle ↔
        readSource roots taskset selection source gathered = .ok middle := by
      intro middle
      simp only [readSource, except_bind_ok_iff,
        readTasks_congr (h source List.mem_cons_self)]
    have hrest := ih fun other hother => h other (List.mem_cons_of_mem _ hother)
    simp only [readSources, except_bind_ok_iff, hfirst, hrest]

theorem composeExperimentEvidence_congr {sources : List EvidenceSource}
    {existing : Option Composition} {composition : Composition}
    (h : ∀ source ∈ sources, ∀ task ∈ cohortTasks taskset source.cohort,
      Shows (roots source.experimentRoot) (others source.experimentRoot) task.taskId) :
    composeExperimentEvidence others taskset selection sources existing = .ok composition ↔
      composeExperimentEvidence roots taskset selection sources existing = .ok composition := by
  have hsources : ∀ result, readSources others taskset selection (sortedSources sources)
      Gathered.empty = .ok result ↔
        readSources roots taskset selection (sortedSources sources) Gathered.empty = .ok result :=
    fun _ => readSources_congr (fun source hsource => h source (mem_sortedSources_iff.mp hsource)) _
  simp only [composeExperimentEvidence, except_bind_ok_iff, hsources]

end Compose

/-! ## Composing a resumed experiment -/

/-- A root that no freeze has died in. -/
structure FreshRoot (runner : PairedExperimentRunner) (evidence : CellEvidence) : Prop where
  sound : Sound runner evidence
  housed : Housed evidence
  untouched : evidence.leftovers = Dict.empty

theorem freshRoot_empty (runner : PairedExperimentRunner) :
    FreshRoot runner CellEvidence.empty where
  sound := sound_empty runner
  housed := nofun
  untouched := rfl

theorem dotted_temporaryName (condition : ExperimentCondition) (suffix : String) :
    dotted (temporaryName condition suffix) = false := by
  have hdash : '-' ∈ (temporaryName condition suffix).toList := by
    simp [temporaryName]
  rw [dotted_eq_false_iff]
  constructor
  · intro hsame
    rw [hsame] at hdash
    exact absurd hdash (by decide)
  · intro hsame
    rw [hsame] at hdash
    exact absurd hdash (by decide)

theorem Sound.of_alike (h : Sound runner evidence) (halike : Alike evidence other)
    (hapart : ∀ cell ∈ runner.cells, other.leftovers.get? cell.key = none) :
    Sound runner other where
  loads := by
    intro cell hmem hthere
    rw [halike.cells] at hthere
    obtain ⟨report, hreport, hload⟩ := h.loads cell hmem hthere
    refine ⟨report, ?_, loadCell_of_extends ?_ ?_ hload⟩
    · rw [frozenReport, halike.cells]
      exact hreport
    · have hleft : other.leftovers.get? (cell.1.taskId, cell.2.conditionId) = none :=
        hapart cell hmem
      have hright : evidence.leftovers.get? (cell.1.taskId, cell.2.conditionId) = none :=
        h.apart cell hmem
      rw [CellEvidence.folder?, CellEvidence.folder?, halike.cells, hleft, hright]
    · rw [halike.contexts]
      exact Extends.refl _
  apart := hapart

/-- The names that `mkdtemp` made up are not those of conditions. -/
def NamesApart (runner : PairedExperimentRunner) (call : RunCall) : Prop :=
  ∀ condition ∈ runner.conditions, ∀ number, ∀ other ∈ runner.conditions,
    temporaryName condition (call.suffix number) ≠ other.conditionId

/-- The run after a crash has come to the same cells as a run without one, and
what the crash left lies beside them. -/
structure Recovered (runner : PairedExperimentRunner) (cell : Cell) (point : FreezePoint)
    (temporary : String) (whole resumed : CellEvidence) : Prop where
  cells : resumed.cells = whole.cells
  housed : Housed whole ∧ Housed resumed
  untouched : whole.leftovers = Dict.empty
  left : ∃ made, resumed.cells.get? cell.key = some (frozenFolder runner cell made) ∧
    resumed.leftovers = (match leftoverOf runner cell made point with
      | none => Dict.empty
      | some folder => Dict.empty.set (cell.1.taskId, temporary) folder)

theorem check_of_crashed {call : RunCall} {root : ExperimentRoot} {state : RunState}
    {point : FreezePoint}
    (h : runExperiment rounded runner options call root = (.crashed cell point, state)) :
    options.check runner = .ok () ∧ call.maxCells ≠ some 0 := by
  rw [runExperiment] at h
  split at h
  · cases h
  · rename_i hmax
    cases hcheck : options.check runner with
    | error error =>
      rw [hcheck] at h
      cases h
    | ok _ => exact ⟨rfl, hmax⟩

/-- Where a call died: at the freeze of its next cell. -/
structure DiedAt (rounded : ℚ → ℚ) (runner : PairedExperimentRunner) (options : RunOptions)
    (start : CellEvidence) (cell : Cell) (made : MadeCell) (before between : CellEvidence) :
    Prop where
  walked : ReflTransGen (Advances rounded runner options) start before
  next : nextCell rounded runner options before = some cell
  made : makeCell runner before cell = (.ok made, between)

theorem unlimited_settles (rounded : ℚ → ℚ) {root : ExperimentRoot} (hplain : PlainIds runner)
    (hoptions : options.check runner = .ok ()) (h : Sound runner root.evidence) :
    ReflTransGen (Advances rounded runner options) root.evidence
        (runExperiment rounded runner options .unlimited root).2.evidence ∧
      Settled rounded runner options
        (runExperiment rounded runner options .unlimited root).2.evidence := by
  have hunlimited : RunCall.unlimited.CrashesBetween := fun _ h => nomatch h
  have hmax : RunCall.unlimited.maxCells ≠ some 0 := nofun
  exact ⟨runExperiment_walk rounded .unlimited hplain hoptions h hunlimited,
    (runExperiment_settled rounded .unlimited hplain hoptions h hmax hunlimited (Or.inr rfl)).2⟩

section Recovery

variable {root later : ExperimentRoot} {before between : CellEvidence} {point : FreezePoint}
  {suffix : String} (hplain : PlainIds runner) (hoptions : options.check runner = .ok ())
  (hroot : FreshRoot runner root.evidence)
  (hdied : DiedAt rounded runner options root.evidence cell made before between)

include hplain hoptions hroot hdied

theorem recovered_of_renamed (hlater : later.evidence = withCell runner between cell made) :
    Recovered runner cell .renamed (temporaryName cell.2 suffix)
      (runExperiment rounded runner options .unlimited root).2.evidence
      (runExperiment rounded runner options .unlimited later).2.evidence := by
  have hfirst : Advances rounded runner options before later.evidence :=
    ⟨cell, hdied.next, by rw [executed, hdied.made, hlater]⟩
  have hreached := hdied.walked.tail hfirst
  have hfrozen : later.evidence.cells.get? cell.key = some (frozenFolder runner cell made) := by
    rw [hlater, withCell, Dict.get?_set, if_pos rfl]
  obtain ⟨hwhole, hsettledWhole⟩ := unlimited_settles rounded hplain hoptions hroot.sound
  obtain ⟨hresumed, hsettled⟩ :=
    unlimited_settles rounded hplain hoptions (hroot.sound.walk hreached)
  have hcome := hreached.trans hresumed
  exact {
    cells := seen_eq_of_settled advances_rightUnique hcome hwhole hsettled hsettledWhole
    housed := ⟨hroot.housed.walk hwhole, hroot.housed.walk hcome⟩
    untouched := (leftovers_of_walk hwhole).trans hroot.untouched
    left := ⟨made, frozen_of_walk hresumed hfrozen,
      (leftovers_of_walk hcome).trans hroot.untouched⟩ }

theorem recovered_of_left
    (hleft : Interrupted runner between cell made suffix point later.evidence)
    (hnames : ∀ other ∈ runner.conditions,
      temporaryName cell.2 suffix ≠ other.conditionId) :
    Recovered runner cell point (temporaryName cell.2 suffix)
      (runExperiment rounded runner options .unlimited root).2.evidence
      (runExperiment rounded runner options .unlimited later).2.evidence := by
  have hmade := makeCell_made hdied.made
  have huntouched : between.leftovers = Dict.empty :=
    hmade.leftovers.trans ((leftovers_of_walk hdied.walked).trans hroot.untouched)
  have hleftovers := hleft.leftovers
  rw [huntouched] at hleftovers
  have hsound : Sound runner later.evidence := by
    refine (hmade.sound (hroot.sound.walk hdied.walked)).of_alike hleft.alike
      fun other hother => ?_
    rw [hleftovers]
    split
    · rfl
    · rename_i folder hfolder
      rw [Dict.get?_set_of_ne]
      · rfl
      · intro hkey
        exact hnames other.2 (condition_mem_of_mem_cells hother) (congrArg Prod.snd hkey).symm
  have hhoused : Housed later.evidence := by
    intro key hkey
    rw [hleft.alike.cells, hmade.cells] at hkey
    refine hleft.folders _ ?_
    rw [hmade.taskFolders]
    exact hroot.housed.walk hdied.walked key hkey
  obtain ⟨hwhole, hsettledWhole⟩ := unlimited_settles rounded hplain hoptions hroot.sound
  obtain ⟨hresumed, hsettled⟩ := unlimited_settles rounded hplain hoptions hsound
  obtain ⟨hcells, hfrozen⟩ := cells_of_resumed hdied.walked hdied.next hdied.made hleft.alike
    hresumed hsettled hwhole hsettledWhole
  exact {
    cells := hcells
    housed := ⟨hroot.housed.walk hwhole, hhoused.walk hresumed⟩
    untouched := (leftovers_of_walk hwhole).trans hroot.untouched
    left := ⟨made, hfrozen, (leftovers_of_walk hresumed).trans hleftovers⟩ }

end Recovery

theorem recovered_of_crashed {call : RunCall} {root : ExperimentRoot} {state : RunState}
    {point : FreezePoint} (hplain : PlainIds runner) (hroot : FreshRoot runner root.evidence)
    (hnames : NamesApart runner call)
    (hcrash : runExperiment rounded runner options call root = (.crashed cell point, state)) :
    cell ∈ runner.cells ∧
      ∃ number, Recovered runner cell point (temporaryName cell.2 (call.suffix number))
        (runExperiment rounded runner options .unlimited root).2.evidence
        (runExperiment rounded runner options .unlimited state.toExperimentRoot).2.evidence := by
  obtain ⟨hoptions, hmax⟩ := check_of_crashed hcrash
  have hfollows := runExperiment_follows rounded hplain hoptions hroot.sound hmax
  rw [hcrash] at hfollows
  obtain ⟨before, between, made, number, hwalked, hnext, hmake, hstate, -⟩ := hfollows
  have hmem := mem_of_nextCell hnext
  have hcondition := condition_mem_of_mem_cells hmem
  have hdotted := hplain cell.2 hcondition
  have hdied : DiedAt rounded runner options root.evidence cell made before between :=
    ⟨hwalked, hnext, hmake⟩
  refine ⟨hmem, number, ?_⟩
  by_cases hpoint : point = .renamed
  · subst hpoint
    have hmade := makeCell_made hmake
    have hbetween := hmade.sound (hroot.sound.walk hwalked)
    have habsent : cellExists between cell = false := by
      rw [hbetween.cellExists_eq hplain hmem, hbetween.isSome_frozenReport hmem, hmade.cells,
        (runnable_iff.mp (runnable_of_nextCell hnext)).2.2]
      rfl
    rw [interruptFreeze, freezeCell_eq hdotted habsent] at hstate
    exact recovered_of_renamed hplain hoptions hroot hdied hstate
  · have hleft : Interrupted runner between cell made (call.suffix number) point
        state.evidence := by
      rw [hstate]
      exact interruptFreeze_interrupted hdotted _ hpoint
    exact recovered_of_left hplain hoptions hroot hdied hleft (hnames cell.2 hcondition number)

theorem loadFrozenAttempt_frozenFolder :
    loadFrozenAttempt (frozenFolder runner cell made) = .ok (reportOf runner cell made) := by
  simp only [loadFrozenAttempt, frozenFolder, except_bind_ok_iff, require_ok_iff, exists_const]
  exact ⟨rfl, (), checkArtifacts_written _ _, rfl⟩

theorem isSome_leftoverOf {point : FreezePoint} {folder : CellFolder}
    (h : leftoverOf runner cell made point = some folder) :
    folder.attempt.isSome = point.leavesReport := by
  cases point <;> cases h <;> rfl

/-- Whether the composition takes cells of the task from this root. -/
def Takes (taskset : EvaluationTaskSet) (sources : List EvidenceSource) (experimentRoot : String)
    (taskId : String) : Prop :=
  ∃ source ∈ sources, source.experimentRoot = experimentRoot ∧
    ∃ task ∈ cohortTasks taskset source.cohort, task.taskId = taskId

section Composition

variable {point : FreezePoint} {temporary : String} {whole resumed : CellEvidence}
  (h : Recovered runner cell point temporary whole resumed)

include h

theorem Recovered.shows {taskId : String}
    (hsafe : point.leavesReport = true → cell.1.taskId ≠ taskId) :
    Shows whole resumed taskId := by
  obtain ⟨made, -, hleftovers⟩ := h.left
  have hnone : resumed.leftovers.entries.filter (fun entry =>
      entry.1.1 = taskId && !dotted entry.1.2 && entry.2.attempt.isSome) = [] := by
    rw [hleftovers, List.filter_eq_nil_iff]
    intro entry hentry hkept
    split at hentry
    · cases hentry
    · rename_i folder hfolder
      have hentryEq : entry = ((cell.1.taskId, temporary), folder) := List.mem_singleton.mp hentry
      subst hentryEq
      simp only [Bool.and_eq_true, decide_eq_true_eq] at hkept
      rw [isSome_leftoverOf hfolder] at hkept
      exact hsafe hkept.2 hkept.1.1
  have hempty : whole.leftovers.entries = [] := by
    rw [h.untouched]
    rfl
  have hattempts : attemptsOf resumed taskId = attemptsOf whole taskId := by
    rw [attemptsOf, attemptsOf, List.filter_append, List.filter_append, hnone, hempty, h.cells]
    rfl
  refine ⟨hattempts, fun hsome => ?_⟩
  obtain ⟨⟨name, folder⟩, hmem⟩ := List.exists_mem_of_ne_nil _ hsome
  obtain ⟨hthere, -, -⟩ := mem_attemptsOf_iff.mp hmem
  rw [hempty, or_iff_left List.not_mem_nil] at hthere
  have hkey : (taskId, name) ∈ whole.cells.keys := List.mem_map.mpr ⟨_, hthere, rfl⟩
  have hkeyResumed : (taskId, name) ∈ resumed.cells.keys := by
    rw [h.cells]
    exact hkey
  exact iff_of_true (h.housed.2 _ hkeyResumed) (h.housed.1 _ hkey)

theorem Recovered.not_readIn (hreport : point.leavesReport = true)
    (hplain : dotted cell.2.conditionId = false) (htemporary : dotted temporary = false)
    (hname : temporary ≠ cell.2.conditionId) {keys : List (String × String)}
    (hnodup : keys.Nodup) : ¬ ReadIn resumed cell.1.taskId keys := by
  intro hread
  obtain ⟨made, hfrozen, hleftovers⟩ := h.left
  have hcellMem : (cell.2.conditionId, frozenFolder runner cell made) ∈
      attemptsOf resumed cell.1.taskId :=
    mem_attemptsOf_iff.mpr ⟨Or.inl ((Dict.get?_eq_some_iff _ _ _).mp hfrozen), hplain, rfl⟩
  cases hfolder : leftoverOf runner cell made point with
  | none => cases point <;> cases hfolder <;> cases hreport
  | some folder =>
    have hleftMem : (temporary, folder) ∈ attemptsOf resumed cell.1.taskId := by
      refine mem_attemptsOf_iff.mpr ⟨Or.inr ?_, htemporary, ?_⟩
      · rw [hleftovers, hfolder]
        exact List.mem_singleton_self _
      · rw [isSome_leftoverOf hfolder]
        exact hreport
    obtain ⟨report, hwhole⟩ := hread.whole _ hleftMem
    have hsame : folder = frozenFolder runner cell made := by
      cases point with
      | attemptCut =>
        cases hfolder
        cases hwhole
      | attemptWhole =>
        cases hfolder
        rfl
      | parent => cases hfolder
      | files count part => cases hreport
      | renamed => cases hfolder
    subst hsame
    have hkeys : (attemptKeys resumed cell.1.taskId).Nodup := hread.keys.nodup hnodup
    have hequal := List.inj_on_of_nodup_map hkeys hleftMem hcellMem rfl
    exact hname (congrArg Prod.fst hequal)

theorem Recovered.refused (hreport : point.leavesReport = true)
    (hplain : dotted cell.2.conditionId = false) (htemporary : dotted temporary = false)
    (hname : temporary ≠ cell.2.conditionId) {taskset : EvaluationTaskSet}
    {selection : TargetSelection} {sources : List EvidenceSource} {experimentRoot : String}
    (htakes : Takes taskset sources experimentRoot cell.1.taskId) (roots : String → CellEvidence)
    (existing : Option Composition) (composition : Composition) :
    composeExperimentEvidence (Function.update roots experimentRoot resumed) taskset selection
      sources existing ≠ .ok composition := by
  intro haccepted
  obtain ⟨source, hsource, hhere, task, htask, htaskId⟩ := htakes
  obtain ⟨keys, hnodup, hread⟩ := readIn_of_composed haccepted hsource htask
  rw [hhere, Function.update_self, htaskId] at hread
  exact h.not_readIn hreport hplain htemporary hname hnodup hread

end Composition

/-- A composition takes the root of an experiment that a freeze died in and that
was then run to its end exactly as it takes the root of an uninterrupted run,
unless the freeze died between beginning `ATTEMPT.json` and renaming its folder
and the composition takes the task from this root: then it is never accepted. -/
theorem composed_alike_iff {call : RunCall} {root : ExperimentRoot} {state : RunState}
    {point : FreezePoint} (hplain : PlainIds runner) (hroot : FreshRoot runner root.evidence)
    (hnames : NamesApart runner call)
    (hcrash : runExperiment rounded runner options call root = (.crashed cell point, state))
    (roots : String → CellEvidence) (experimentRoot : String) (taskset : EvaluationTaskSet)
    (selection : TargetSelection) (sources : List EvidenceSource)
    (existing : Option Composition) :
    let whole := (runExperiment rounded runner options .unlimited root).2.evidence
    let resumed :=
      (runExperiment rounded runner options .unlimited state.toExperimentRoot).2.evidence
    let compose (evidence : CellEvidence) := composeExperimentEvidence
      (Function.update roots experimentRoot evidence) taskset selection sources existing
    let safe := ¬ (point.leavesReport = true ∧
      Takes taskset sources experimentRoot cell.1.taskId)
    (safe → ∀ composition, compose resumed = .ok composition ↔ compose whole = .ok composition) ∧
      ∀ composition, compose whole = .ok composition →
        (compose resumed = .ok composition ↔ safe) := by
  intro whole resumed compose safe
  obtain ⟨hmem, number, hrecovered⟩ := recovered_of_crashed hplain hroot hnames hcrash
  have hcondition := condition_mem_of_mem_cells hmem
  have halike : safe → ∀ composition,
      compose resumed = .ok composition ↔ compose whole = .ok composition := by
    intro hsafe composition
    refine composeExperimentEvidence_congr fun source hsource task htask => ?_
    by_cases hhere : source.experimentRoot = experimentRoot
    · rw [hhere, Function.update_self, Function.update_self]
      refine hrecovered.shows fun hreport htaskId => hsafe ⟨hreport, ?_⟩
      exact ⟨source, hsource, hhere, task, htask, htaskId.symm⟩
    · rw [Function.update_of_ne hhere, Function.update_of_ne hhere]
      exact Shows.refl _ _
  refine ⟨halike, fun composition haccepted => ⟨?_, fun hsafe => ?_⟩⟩
  · intro hresumed hunsafe
    exact hrecovered.refused hunsafe.1 (hplain cell.2 hcondition) (dotted_temporaryName _ _)
      (hnames cell.2 hcondition number cell.2 hcondition) hunsafe.2 roots existing composition
      hresumed
  · exact (halike hsafe composition).mpr haccepted

/-! ## One condition, qualified -/

namespace SixTasks

def qualification : String := "3b7e2f6c9a1d4e508f7263b1c0d9e8a7f6b5c4d3e2f1a0b9c8d7e6f5a4b3c2d1"

theorem qualified_unique : ([baseline].map ExperimentCondition.conditionId).Nodup := by
  decide

def qualified : PairedExperimentRunner :=
  { experiment [baseline] qualified_unique with qualificationFingerprint := some qualification }

theorem qualified_plain : PlainIds qualified := by
  intro condition hcondition
  rw [List.mem_singleton.mp hcondition]
  decide

def selection : TargetSelection :=
  ⟨tasks.map fun task => (task.taskId, "selected " ++ task.taskId), qualification⟩

def experimentRoot : String := "/experiments/six"

def sourceOf (cohort : Cohort) : EvidenceSource := ⟨cohort, experimentRoot, taskset, selection⟩

def sources : List EvidenceSource := [sourceOf .feedback, sourceOf .holdout]

/-- The process dies when the first report is whole and its folder not yet renamed. -/
def dyingCall : RunCall := ⟨none, some (0, .attemptWhole), fun _ => "k3x0_v2a"⟩

theorem baseline_plain : dotted baseline.conditionId = false := by
  decide

theorem dyingCall_apart : NamesApart qualified dyingCall := by
  intro condition hcondition number other hother
  rw [List.mem_singleton.mp hcondition, List.mem_singleton.mp hother]
  change temporaryName baseline "k3x0_v2a" ≠ baseline.conditionId
  decide

def qualifiedCell (task : EvaluationTask) : Cell := (task, baseline)

theorem makeCell_qualified (evidence : CellEvidence) (cell : Cell) :
    makeCell qualified evidence cell = (.ok madeCell, evidence) := rfl

/-- What is left when the freeze of the first cell died there. -/
def diedAt (point : FreezePoint) : RunState where
  evidence := interruptFreeze qualified CellEvidence.empty
    (qualifiedCell (task ⟨0, Nat.zero_lt_succ 5⟩)) madeCell "k3x0_v2a" point
  summary := none
  stopped := Dict.empty
  executed := 0

theorem dying_crashes (rounded : ℚ → ℚ) :
    runExperiment rounded qualified everyCell dyingCall emptyRoot =
      (.crashed (qualifiedCell (task 0)) .attemptWhole, diedAt .attemptWhole) := rfl

def frozenCells (cells : List Cell) : CellEvidence :=
  cells.foldl (fun evidence cell => withCell qualified evidence cell madeCell) CellEvidence.empty

theorem frozenCells_snoc (cells : List Cell) (cell : Cell) :
    frozenCells (cells ++ [cell]) = withCell qualified (frozenCells cells) cell madeCell := by
  rw [frozenCells, List.foldl_append]
  rfl

theorem advances_frozenCells (rounded : ℚ → ℚ) {cells : List Cell} {cell : Cell}
    (h : nextCell rounded qualified everyCell (frozenCells cells) = some cell) :
    Advances rounded qualified everyCell (frozenCells cells) (frozenCells (cells ++ [cell])) :=
  ⟨cell, h, by rw [executed, makeCell_qualified, frozenCells_snoc]⟩

theorem nextCell_frozenCells (rounded : ℚ → ℚ) : ∀ count : Fin 7,
    nextCell rounded qualified everyCell (frozenCells (qualified.cells.take count)) =
      qualified.cells[count.val]?
  | 0 | 1 | 2 | 3 | 4 | 5 | 6 => rfl

theorem walk_frozenCells (rounded : ℚ → ℚ) (count : Nat) (h : count ≤ 6) :
    ReflTransGen (Advances rounded qualified everyCell) CellEvidence.empty
      (frozenCells (qualified.cells.take count)) := by
  induction count with
  | zero => exact ReflTransGen.refl
  | succ count ih =>
    have hlength : count < qualified.cells.length := by
      change count < 6
      omega
    have hnext := nextCell_frozenCells rounded ⟨count, by omega⟩
    rw [List.getElem?_eq_getElem hlength] at hnext
    rw [List.take_add_one, List.getElem?_eq_getElem hlength]
    exact (ih (by omega)).tail (advances_frozenCells rounded hnext)

theorem whole_cells (rounded : ℚ → ℚ) :
    (runExperiment rounded qualified everyCell .unlimited emptyRoot).2.evidence.cells =
      (frozenCells qualified.cells).cells := by
  have hempty : Sound qualified emptyRoot.evidence := sound_empty qualified
  have hoptions : everyCell.check qualified = .ok () := rfl
  obtain ⟨hwhole, hsettled⟩ := unlimited_settles rounded qualified_plain hoptions hempty
  exact seen_eq_of_settled advances_rightUnique hwhole (walk_frozenCells rounded 6 le_rfl) hsettled
    (settled_of_nextCell (nextCell_frozenCells rounded 6))

theorem attemptsOf_frozenCells : ∀ n : Fin 6,
    attemptsOf (frozenCells qualified.cells) (task n).taskId =
      [("baseline", frozenFolder qualified (qualifiedCell (task n)) madeCell)]
  | 0 | 1 | 2 | 3 | 4 | 5 => rfl

theorem shows_whole (rounded : ℚ → ℚ) (n : Fin 6) :
    (task n).taskId ∈
        (runExperiment rounded qualified everyCell .unlimited emptyRoot).2.evidence.taskFolders ∧
      attemptsOf (runExperiment rounded qualified everyCell .unlimited emptyRoot).2.evidence
        (task n).taskId =
          [("baseline", frozenFolder qualified (qualifiedCell (task n)) madeCell)] := by
  have hempty : Sound qualified emptyRoot.evidence := sound_empty qualified
  have hoptions : everyCell.check qualified = .ok () := rfl
  have hwalk := (unlimited_settles rounded qualified_plain hoptions hempty).1
  have hcells := whole_cells rounded
  generalize (runExperiment rounded qualified everyCell .unlimited emptyRoot).2.evidence = whole
    at hwalk hcells
  have hleftovers : whole.leftovers = Dict.empty := leftovers_of_walk hwalk
  have hattempts : attemptsOf whole (task n).taskId =
      attemptsOf (frozenCells qualified.cells) (task n).taskId := by
    have hnone : (frozenCells qualified.cells).leftovers = Dict.empty := rfl
    rw [attemptsOf, attemptsOf, hcells, hleftovers, hnone]
  refine ⟨?_, hattempts.trans (attemptsOf_frozenCells n)⟩
  have hhoused : Housed whole := (freshRoot_empty qualified).housed.walk hwalk
  have hmem : ("baseline", frozenFolder qualified (qualifiedCell (task n)) madeCell) ∈
      attemptsOf whole (task n).taskId := by
    rw [hattempts, attemptsOf_frozenCells]
    exact List.mem_singleton_self _
  obtain ⟨hthere, -, -⟩ := mem_attemptsOf_iff.mp hmem
  rw [hleftovers] at hthere
  have hentry := hthere.resolve_right List.not_mem_nil
  exact hhoused _ (List.mem_map.mpr ⟨_, hentry, rfl⟩)

/-- The fingerprints after the first attempt. -/
def baselineOnly : Dict String String := Dict.empty.set "baseline" baseline.fingerprint

theorem readAttempt_qualified {source : EvidenceSource} (hsource : source ∈ sources) (n : Fin 6)
    {gathered : Gathered} (h : gathered.conditionFingerprints = Dict.empty ∨
      gathered.conditionFingerprints = baselineOnly) :
    ∃ result, readAttempt source (task n)
        ("baseline", frozenFolder qualified (qualifiedCell (task n)) madeCell) gathered =
          .ok result ∧
      result.conditionFingerprints = baselineOnly ∧
      result.cells.map ComposedCell.key =
        gathered.cells.map ComposedCell.key ++ [((task n).taskId, "baseline")] := by
  have hexisting : (gathered.conditionFingerprints.get? "baseline").getD baseline.fingerprint =
      baseline.fingerprint ∧
        gathered.conditionFingerprints.set "baseline" baseline.fingerprint = baselineOnly := by
    rcases h with h | h
    · rw [h]
      exact ⟨rfl, rfl⟩
    · rw [h]
      exact ⟨rfl, rfl⟩
  have htaskset : source.taskset = taskset ∧ source.selection = selection := by
    rcases List.mem_pair.mp hsource with rfl | rfl
    · exact ⟨rfl, rfl⟩
    · exact ⟨rfl, rfl⟩
  let report := reportOf qualified (qualifiedCell (task n)) madeCell
  refine ⟨{ gathered with
    conditionFingerprints := gathered.conditionFingerprints.set "baseline" baseline.fingerprint
    cells := gathered.cells ++ [{
      taskId := (task n).taskId
      conditionId := "baseline"
      evidenceSha256 := report.evidenceSha256
      attemptFolder := (source.experimentRoot, (task n).taskId, "baseline")
      structuralValid := false
      failureReason := some "no-diff" }] }, ?_, hexisting.2, ?_⟩
  · simp only [readAttempt, except_bind_ok_iff, require_ok_iff, exists_const]
    refine ⟨report, loadFrozenAttempt_frozenFolder, hexisting.1, ?_, ?_, rfl, rfl, ?_⟩
    · rw [htaskset.1]
      rfl
    · rw [htaskset.2]
      rfl
    · change Except.ok { gathered with
        conditionFingerprints := gathered.conditionFingerprints.set "baseline"
          ((gathered.conditionFingerprints.get? "baseline").getD baseline.fingerprint)
        cells := _ } = _
      rw [hexisting.1]
      rfl
  · rw [List.map_append]
    rfl

/-- What has been gathered after so many tasks. -/
structure GatheredOf (gathered result : Gathered) (numbers : List (Fin 6)) : Prop where
  fingerprints : result.conditionFingerprints = Dict.empty ∨
    result.conditionFingerprints = baselineOnly
  some : numbers ≠ [] → result.conditionFingerprints = baselineOnly
  keys : result.cells.map ComposedCell.key = gathered.cells.map ComposedCell.key ++
    numbers.map fun n => ((task n).taskId, "baseline")

theorem readTasks_qualified {roots : String → CellEvidence} {source : EvidenceSource}
    (hsource : source ∈ sources) (numbers : List (Fin 6))
    (hshown : ∀ n, (task n).taskId ∈ (roots source.experimentRoot).taskFolders ∧
      attemptsOf (roots source.experimentRoot) (task n).taskId =
        [("baseline", frozenFolder qualified (qualifiedCell (task n)) madeCell)]) :
    ∀ gathered : Gathered, (gathered.conditionFingerprints = Dict.empty ∨
        gathered.conditionFingerprints = baselineOnly) →
      ∃ result, readTasks roots source (numbers.map task) gathered = .ok result ∧
        GatheredOf gathered result numbers := by
  induction numbers with
  | nil => exact fun gathered h => ⟨gathered, rfl, h, nofun, (List.append_nil _).symm⟩
  | cons n rest ih =>
    intro gathered h
    obtain ⟨middle, hread, hfingerprints, hkeys⟩ := readAttempt_qualified hsource n h
    obtain ⟨result, hrest, hresult⟩ := ih middle (Or.inr hfingerprints)
    refine ⟨result, ?_, ?_, fun _ => ?_, ?_⟩
    · simp only [List.map_cons, readTasks, (hshown n).2, readAttempts, except_bind_ok_iff,
        require_ok_iff, exists_const]
      exact ⟨(hshown n).1, Nat.one_ne_zero, middle, ⟨middle, hread, rfl⟩, hrest⟩
    · exact hresult.fingerprints
    · cases rest with
      | nil =>
        cases hrest
        exact hfingerprints
      | cons => exact hresult.some (List.cons_ne_nil _ _)
    · rw [hresult.keys, hkeys, List.append_assoc, List.singleton_append, List.map_cons]

theorem cohortTasks_feedback : cohortTasks taskset .feedback = [0, 1, 2].map task := rfl

theorem cohortTasks_holdout : cohortTasks taskset .holdout = [3, 4, 5].map task := rfl

theorem checkTask_qualified {source : EvidenceSource} (hsource : source ∈ sources) (n : Fin 6) :
    checkTask selection source (task n) = .ok () := by
  rcases List.mem_pair.mp hsource with rfl | rfl
  · exact match n with
    | 0 | 1 | 2 | 3 | 4 | 5 => rfl
  · exact match n with
    | 0 | 1 | 2 | 3 | 4 | 5 => rfl

theorem readSource_qualified {roots : String → CellEvidence} {source : EvidenceSource}
    (hsource : source ∈ sources) {numbers : List (Fin 6)}
    (htasks : cohortTasks taskset source.cohort = numbers.map task)
    (hshown : ∀ n, (task n).taskId ∈ (roots source.experimentRoot).taskFolders ∧
      attemptsOf (roots source.experimentRoot) (task n).taskId =
        [("baseline", frozenFolder qualified (qualifiedCell (task n)) madeCell)])
    (gathered : Gathered) (h : gathered.conditionFingerprints = Dict.empty ∨
      gathered.conditionFingerprints = baselineOnly) :
    ∃ result, readSource roots taskset selection source gathered = .ok result ∧
      GatheredOf gathered result numbers := by
  obtain ⟨after, hread, hafter⟩ := readTasks_qualified hsource numbers hshown gathered h
  simp only [readSource, htasks, except_bind_ok_iff]
  refine ⟨{ after with sources := _ }, ⟨(), ?_, after, hread, rfl⟩, hafter.fingerprints,
    hafter.some, hafter.keys⟩
  refine (forM_ok_iff ()).mpr fun task htask => ?_
  obtain ⟨n, -, rfl⟩ := List.mem_map.mp htask
  exact checkTask_qualified hsource n

/-- The root is run to its end and composed. -/
def composed (rounded : ℚ → ℚ) (root : ExperimentRoot) : Except String Composition :=
  composeExperimentEvidence (Function.update (fun _ => CellEvidence.empty) experimentRoot
    (runExperiment rounded qualified everyCell .unlimited root).2.evidence) taskset selection
    sources none

theorem whole_composed (rounded : ℚ → ℚ) :
    ∃ composition, composed rounded emptyRoot = .ok composition := by
  unfold composed
  generalize hroots : Function.update (fun _ => CellEvidence.empty) experimentRoot
    (runExperiment rounded qualified everyCell .unlimited emptyRoot).2.evidence = found
  have hshown : ∀ n, (task n).taskId ∈ (found experimentRoot).taskFolders ∧
      attemptsOf (found experimentRoot) (task n).taskId =
        [("baseline", frozenFolder qualified (qualifiedCell (task n)) madeCell)] := by
    intro n
    rw [← hroots, Function.update_self]
    exact shows_whole rounded n
  obtain ⟨feedback, hfeedback, hfirst⟩ := readSource_qualified (List.mem_pair.mpr (Or.inl rfl))
    cohortTasks_feedback hshown Gathered.empty (Or.inl rfl)
  obtain ⟨both, hboth, hsecond⟩ := readSource_qualified (List.mem_pair.mpr (Or.inr rfl))
    cohortTasks_holdout hshown feedback hfirst.fingerprints
  have hread : readSources found taskset selection (sortedSources sources) Gathered.empty =
      .ok both := by
    have hsorted : sortedSources sources = [sourceOf .feedback, sourceOf .holdout] := rfl
    simp only [hsorted, readSources, except_bind_ok_iff]
    exact ⟨feedback, hfeedback, both, hboth, rfl⟩
  have hkeys : both.cells.map ComposedCell.key =
      tasks.map fun task => (task.taskId, "baseline") := by
    rw [hsecond.keys, hfirst.keys]
    rfl
  have hfingerprints := hsecond.some (List.cons_ne_nil _ _)
  simp only [composeExperimentEvidence, except_bind_ok_iff, require_ok_iff, exists_const, hread,
    Except.ok.injEq, exists_eq_left', hkeys, hfingerprints]
  exact ⟨_, by decide, by decide, by decide,
    fun _ hexisting => absurd hexisting (Option.not_mem_none _), rfl⟩

theorem takes_first : Takes taskset sources experimentRoot (task 0).taskId := by
  refine ⟨sourceOf .feedback, List.mem_cons_self, rfl, task 0, ?_, rfl⟩
  have htasks : cohortTasks taskset (sourceOf .feedback).cohort = [0, 1, 2].map task :=
    cohortTasks_feedback
  rw [htasks]
  exact List.mem_cons_self

theorem recovered_died (rounded : ℚ → ℚ) : ∃ number,
    Recovered qualified (qualifiedCell (task 0)) .attemptWhole
      (temporaryName (qualifiedCell (task 0)).2 (dyingCall.suffix number))
      (runExperiment rounded qualified everyCell .unlimited emptyRoot).2.evidence
      (runExperiment rounded qualified everyCell .unlimited
        (diedAt .attemptWhole).toExperimentRoot).2.evidence := by
  have hfresh : FreshRoot qualified emptyRoot.evidence := freshRoot_empty qualified
  obtain ⟨-, hrecovered⟩ := recovered_of_crashed qualified_plain hfresh dyingCall_apart
    (dying_crashes rounded)
  exact hrecovered

theorem died_refused (rounded : ℚ → ℚ) (composition : Composition) :
    composed rounded (diedAt .attemptWhole).toExperimentRoot ≠ .ok composition := by
  obtain ⟨number, hrecovered⟩ := recovered_died rounded
  have hname : temporaryName baseline (dyingCall.suffix number) ≠ baseline.conditionId :=
    dyingCall_apart baseline List.mem_cons_self number baseline List.mem_cons_self
  exact hrecovered.refused rfl baseline_plain (dotted_temporaryName _ _) hname takes_first _ none
    composition

/-- The process that died with a whole report poisons the root for good. -/
theorem died_not_composed :
    (∃ composition, composed (fun rate => rate) emptyRoot = .ok composition) ∧
      ∀ composition, composed (fun rate => rate) (runExperiment (fun rate => rate) qualified
        everyCell dyingCall emptyRoot).2.toExperimentRoot ≠ .ok composition := by
  rw [dying_crashes]
  exact ⟨whole_composed _, died_refused _⟩

/-- The process dies when all files but the report are there. -/
def harmlessCall : RunCall := ⟨none, some (0, .files 2 none), fun _ => "k3x0_v2a"⟩

theorem harmlessCall_apart : NamesApart qualified harmlessCall := dyingCall_apart

theorem harmless_crashes (rounded : ℚ → ℚ) :
    runExperiment rounded qualified everyCell harmlessCall emptyRoot =
      (.crashed (qualifiedCell (task 0)) (.files 2 none), diedAt (.files 2 none)) := rfl

theorem harmless_composed : ∃ composition,
    composed id (diedAt (.files 2 none)).toExperimentRoot = .ok composition := by
  obtain ⟨composition, haccepted⟩ := whole_composed id
  have hfresh : FreshRoot qualified emptyRoot.evidence := freshRoot_empty qualified
  have halike := (composed_alike_iff qualified_plain hfresh harmlessCall_apart
    (harmless_crashes id) (fun _ => CellEvidence.empty) experimentRoot taskset selection
    sources none).1 fun hunsafe => Bool.false_ne_true hunsafe.1
  exact ⟨composition, (halike composition).mpr haccepted⟩

end SixTasks

end JlensEvolve.SkillLoop
