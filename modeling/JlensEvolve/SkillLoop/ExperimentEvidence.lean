import JlensEvolve.SkillLoop.PairedExperiment

/-!
Evidence that a run can go on from: what is frozen loads, and a freeze keeps it
so. A context that is there stays, so that a cell that is made again is bound to
the same one.
-/

namespace JlensEvolve.SkillLoop

open Library Contracts

variable {rounded : ℚ → ℚ} {runner : PairedExperimentRunner} {options : RunOptions}
  {evidence after : CellEvidence} {cell other : Cell}

theorem task_mem_of_mem_cells (h : cell ∈ runner.cells) : cell.1 ∈ runner.taskset.tasks := by
  obtain ⟨task, htask, hcell⟩ := List.mem_flatMap.mp h
  obtain ⟨condition, -, rfl⟩ := List.mem_map.mp hcell
  exact htask

theorem condition_mem_of_mem_cells (h : cell ∈ runner.cells) : cell.2 ∈ runner.conditions := by
  obtain ⟨task, -, hcell⟩ := List.mem_flatMap.mp h
  obtain ⟨condition, hcondition, rfl⟩ := List.mem_map.mp hcell
  rw [PairedExperimentRunner.conditionsForTask] at hcondition
  split at hcondition
  · exact hcondition
  · exact List.mem_of_mem_filter hcondition

theorem cell_eq_of_key (h : cell ∈ runner.cells) (hother : other ∈ runner.cells)
    (hkey : other.key = cell.key) : other = cell := by
  have htask : other.1 = cell.1 :=
    List.inj_on_of_nodup_map runner.taskset.unique (task_mem_of_mem_cells hother)
      (task_mem_of_mem_cells h) (congrArg Prod.fst hkey)
  have hcondition : other.2 = cell.2 :=
    List.inj_on_of_nodup_map runner.conditions_unique (condition_mem_of_mem_cells hother)
      (condition_mem_of_mem_cells h) (congrArg Prod.snd hkey)
  exact Prod.ext htask hcondition

/-- No condition names the folder of the task or the one above it. -/
def PlainIds (runner : PairedExperimentRunner) : Prop :=
  ∀ condition ∈ runner.conditions, dotted condition.conditionId = false

/-- The report that the folder of a cell holds. -/
def frozenReport (evidence : CellEvidence) (cell : Cell) : Option CellReport :=
  match evidence.cells.get? cell.key with
  | some ⟨_, some (.whole report)⟩ => some report
  | _ => none

/-- What is there of the cells can be loaded, and no leftover is taken for one of them. -/
structure Sound (runner : PairedExperimentRunner) (evidence : CellEvidence) : Prop where
  loads : ∀ cell ∈ runner.cells, (evidence.cells.get? cell.key).isSome →
    ∃ report, frozenReport evidence cell = some report ∧
      loadCell runner evidence cell = .ok report
  apart : ∀ cell ∈ runner.cells, evidence.leftovers.get? cell.key = none

theorem sound_empty (runner : PairedExperimentRunner) : Sound runner CellEvidence.empty where
  loads := by
    intro cell _ hthere
    cases hthere
  apart _ _ := rfl

section Reading

variable (hplain : PlainIds runner) (h : Sound runner evidence)

include h in
theorem Sound.isSome_frozenReport (hmem : cell ∈ runner.cells) :
    (frozenReport evidence cell).isSome = (evidence.cells.get? cell.key).isSome := by
  cases hthere : evidence.cells.get? cell.key with
  | none =>
    rw [frozenReport, hthere]
    rfl
  | some folder =>
    obtain ⟨report, hreport, -⟩ := h.loads cell hmem (by rw [hthere]; rfl)
    rw [hreport]
    rfl

include hplain h in
theorem Sound.cellExists_eq (hmem : cell ∈ runner.cells) :
    cellExists evidence cell = (frozenReport evidence cell).isSome := by
  have hapart : evidence.leftovers.get? (cell.1.taskId, cell.2.conditionId) = none :=
    h.apart cell hmem
  rw [cellExists, hplain cell.2 (condition_mem_of_mem_cells hmem), if_neg Bool.false_ne_true,
    CellEvidence.folder?, hapart, Option.or_none, h.isSome_frozenReport hmem, Cell.key]

include h in
theorem Sound.loadCell_eq (hmem : cell ∈ runner.cells) {report : CellReport}
    (hreport : frozenReport evidence cell = some report) :
    loadCell runner evidence cell = .ok report := by
  have hthere : (evidence.cells.get? cell.key).isSome := by
    rw [← h.isSome_frozenReport hmem, hreport]
    rfl
  obtain ⟨found, hfound, hload⟩ := h.loads cell hmem hthere
  rw [hload, Option.some_injective _ (hfound.symm.trans hreport)]

include hplain h in
theorem Sound.loadCells_eq {cells : List Cell} (hcells : ∀ cell ∈ cells, cell ∈ runner.cells) :
    loadCells runner evidence cells = .ok (cells.filterMap (frozenReport evidence)) := by
  rw [loadCells]
  induction cells with
  | nil => rfl
  | cons cell rest ih =>
    have hmem := hcells cell List.mem_cons_self
    have hrest := ih fun other hother => hcells other (List.mem_cons_of_mem _ hother)
    rw [List.filter_cons, h.cellExists_eq hplain hmem]
    cases hreport : frozenReport evidence cell with
    | none =>
      rw [List.filterMap_cons_none hreport]
      exact hrest
    | some report =>
      rw [List.filterMap_cons_some hreport, Option.isSome_some, if_pos rfl, List.mapM_cons,
        h.loadCell_eq hmem hreport, hrest]
      rfl

end Reading

section Contexts

variable {adapter : StudentAdapter} {source contexts later : Dict (String × String) ContextFile}

/-- What was there is still there. -/
def Extends (contexts later : Dict (String × String) ContextFile) : Prop :=
  ∀ key file, contexts.get? key = some file → later.get? key = some file

theorem Extends.refl (contexts : Dict (String × String) ContextFile) :
    Extends contexts contexts := fun _ _ h => h

theorem Extends.set_absent {key : String × String} (h : contexts.get? key = none)
    (file : ContextFile) : Extends contexts (contexts.set key file) := by
  intro other found hfound
  rw [Dict.get?_set_of_ne]
  · exact hfound
  · intro hsame
    rw [hsame, h] at hfound
    cases hfound

theorem contextFile_ok {file : ContextFile}
    (h : contextFile adapter source cell contexts = .ok (file, later)) :
    later.get? (cell.1.taskId, cell.2.mechanism) = some file ∧ Extends contexts later := by
  rw [contextFile] at h
  split at h
  · rename_i found hfound
    cases h
    exact ⟨hfound, Extends.refl _⟩
  · rename_i hmissing
    split at h
    · rename_i found hfound
      simp only [except_bind_ok_iff] at h
      obtain ⟨_, -, hmade⟩ := h
      cases hmade
      exact ⟨by rw [Dict.get?_set, if_pos rfl], Extends.set_absent hmissing _⟩
    · split at h
      · cases h
      · simp only [except_bind_ok_iff] at h
        obtain ⟨_, -, evidence, -, _, -, hmade⟩ := h
        cases hmade
        exact ⟨by rw [Dict.get?_set, if_pos rfl], Extends.set_absent hmissing _⟩

theorem contextFile_again {file : ContextFile}
    (h : contextFile adapter source cell contexts = .ok (file, later)) :
    contextFile adapter source cell later = .ok (file, later) := by
  rw [contextFile, (contextFile_ok h).1]

/-- A cell that was bound can be loaded with its reference. -/
structure Bound (adapter : StudentAdapter) (source : Dict (String × String) ContextFile)
    (cell : Cell) (contexts later : Dict (String × String) ContextFile)
    (bound : Option (Json × SharedReference)) : Prop where
  keeps : Extends contexts later
  again : bindSharedContext adapter source cell later = .ok (bound, later)
  checked : ∀ pair ∈ bound, ∀ evidence : CellEvidence, evidence.contexts = later →
    checkShared evidence cell pair.2 = .ok ()

theorem bindSharedContext_ok {bound : Option (Json × SharedReference)}
    (h : bindSharedContext adapter source cell contexts = .ok (bound, later)) :
    Bound adapter source cell contexts later bound := by
  have hfirst := h
  rw [bindSharedContext] at h
  split at h
  · rename_i hneither
    cases h
    exact ⟨Extends.refl _, hfirst, nofun⟩
  · rename_i hboth
    simp only [except_bind_ok_iff, require_ok_iff, exists_const] at h
    obtain ⟨hbinds, ⟨file, kept⟩, hfile, frozen, hload, hmade⟩ := h
    cases hmade
    refine ⟨(contextFile_ok hfile).2, ?_, ?_⟩
    · rw [bindSharedContext, if_neg hboth]
      simp only [except_bind_ok_iff, require_ok_iff, exists_const]
      exact ⟨hbinds, (file, kept), contextFile_again hfile, frozen, hload, rfl⟩
    · intro pair hpair evidence hcontexts
      cases hpair
      have hthere := (contextFile_ok hfile).1
      rw [checkShared, hcontexts, hthere]
      simp only [except_bind_ok_iff, require_ok_iff, exists_const]
      exact ⟨trivial, frozen, hload, rfl⟩

theorem checkShared_of_extends (h : Extends evidence.contexts after.contexts)
    {reference : SharedReference} (hchecked : checkShared evidence cell reference = .ok ()) :
    checkShared after cell reference = .ok () := by
  rw [checkShared] at hchecked ⊢
  split at hchecked
  · cases hchecked
  · rename_i file hfile
    rw [h _ _ hfile]
    exact hchecked

end Contexts

/-- What `_run_cell` does before the freeze depends on the contexts alone. -/
structure Made (runner : PairedExperimentRunner) (evidence : CellEvidence) (cell : Cell)
    (result : Except String MadeCell) (after : CellEvidence) : Prop where
  cells : after.cells = evidence.cells
  leftovers : after.leftovers = evidence.leftovers
  taskFolders : after.taskFolders = evidence.taskFolders
  keeps : Extends evidence.contexts after.contexts
  elsewhere : ∀ other : CellEvidence, other.contexts = evidence.contexts →
    makeCell runner other cell = (result, { other with contexts := after.contexts })
  again : ∀ other : CellEvidence, other.contexts = after.contexts →
    makeCell runner other cell = (result, other)
  checked : ∀ made, result = .ok made → ∀ reference ∈ made.shared,
    checkShared after cell reference = .ok ()

theorem makeCell_made {result : Except String MadeCell}
    (h : makeCell runner evidence cell = (result, after)) :
    Made runner evidence cell result after := by
  rw [makeCell] at h
  cases hcheckout : runner.checkout cell.1 with
  | error error =>
    rw [hcheckout] at h
    cases h
    have hother : ∀ other : CellEvidence,
        makeCell runner other cell = (.error error, other) := by
      intro other
      rw [makeCell, hcheckout]
    refine ⟨rfl, rfl, rfl, Extends.refl _, fun other hsame => ?_, fun other _ => hother other,
      nofun⟩
    rw [hother, ← hsame]
  | ok _ =>
    rw [hcheckout] at h
    cases hbind : bindSharedContext (runner.adapters cell.2.mechanism) runner.sharedContextSource
        cell evidence.contexts with
    | error error =>
      simp only [hbind] at h
      cases h
      have hother : ∀ other : CellEvidence, other.contexts = evidence.contexts →
          makeCell runner other cell = (.error error, other) := by
        intro other hsame
        rw [makeCell, hcheckout]
        simp only [hsame, hbind]
      refine ⟨rfl, rfl, rfl, Extends.refl _, fun other hsame => ?_, hother, nofun⟩
      rw [hother other hsame, ← hsame]
    | ok pair =>
      obtain ⟨bound, later⟩ := pair
      have hbound := bindSharedContext_ok hbind
      simp only [hbind] at h
      cases hrun : (runner.adapters cell.2.mechanism).run cell.1 cell.2.revision
          (bound.map Prod.fst) with
      | error error =>
        simp only [hrun] at h
        cases h
        refine ⟨rfl, rfl, rfl, hbound.keeps, fun other hsame => ?_, fun other hsame => ?_,
          nofun⟩
        · rw [makeCell, hcheckout]
          simp only [hsame, hbind, hrun]
        · rw [makeCell, hcheckout]
          have hlater : other.contexts = later := hsame
          simp only [hlater, hbound.again, hrun]
          rw [← hlater]
      | ok run =>
        simp only [hrun] at h
        cases h
        refine ⟨rfl, rfl, rfl, hbound.keeps, fun other hsame => ?_, fun other hsame => ?_, ?_⟩
        · rw [makeCell, hcheckout]
          simp only [hsame, hbind, hrun]
        · rw [makeCell, hcheckout]
          have hlater : other.contexts = later := hsame
          simp only [hlater, hbound.again, hrun]
          rw [← hlater]
        · intro made hmade reference hreference
          cases hmade
          obtain ⟨pair, hpair, rfl⟩ := Option.map_eq_some_iff.mp hreference
          exact hbound.checked pair hpair _ rfl

/-- The evidence with the folder of the cell. -/
def withCell (runner : PairedExperimentRunner) (evidence : CellEvidence) (cell : Cell)
    (made : MadeCell) : CellEvidence :=
  { withTaskFolder evidence cell.1 with
    cells := evidence.cells.set cell.key (frozenFolder runner cell made) }

variable {made : MadeCell}

theorem dotted_eq_false_iff {name : String} : dotted name = false ↔ name ≠ "." ∧ name ≠ ".." := by
  simp [dotted]

theorem freezeCell_eq (hplain : dotted cell.2.conditionId = false)
    (habsent : cellExists evidence cell = false) (suffix : String) :
    freezeCell runner evidence cell made suffix =
      (.ok (reportOf runner cell made), withCell runner evidence cell made) := by
  rw [freezeCell, habsent, if_neg Bool.false_ne_true,
    if_neg (dotted_eq_false_iff.mp hplain).2, withCell]

theorem frozenReport_withCell :
    frozenReport (withCell runner evidence cell made) other =
      if other.key = cell.key then some (reportOf runner cell made)
      else frozenReport evidence other := by
  by_cases hkey : other.key = cell.key
  · rw [frozenReport, withCell, Dict.get?_set, if_pos hkey, if_pos hkey]
    rfl
  · rw [frozenReport, withCell, Dict.get?_set, if_neg hkey, if_neg hkey]
    rfl

theorem checkArtifacts_written (files : Dict String String) (error : String) :
    checkArtifacts files (files.entries.map fun file => (file.1, fileSha256 file.2)) error =
      .ok () := by
  rw [checkArtifacts, forM_ok_iff]
  intro artifact hartifact
  obtain ⟨file, hfile, rfl⟩ := List.mem_map.mp hartifact
  have hthere : files.get? file.1 = some file.2 := (files.get?_eq_some_iff file.1 file.2).mpr hfile
  rw [require_ok_iff, hthere]
  rfl

theorem loadCell_frozenFolder
    (hfolder : evidence.folder? cell.1.taskId cell.2.conditionId =
      some (frozenFolder runner cell made))
    (hshared : ∀ reference ∈ made.shared, checkShared evidence cell reference = .ok ()) :
    loadCell runner evidence cell = .ok (reportOf runner cell made) := by
  have hforM : made.shared.forM (checkShared evidence cell) = .ok () := by
    cases hreference : made.shared with
    | none => rfl
    | some reference => exact hshared reference hreference
  rw [loadCell, hfolder]
  simp only [frozenFolder, except_bind_ok_iff, require_ok_iff, exists_const]
  exact ⟨rfl, rfl, rfl, rfl, rfl, (), checkArtifacts_written _ _, (), hforM, rfl⟩

theorem loadCell_of_extends
    (hfolder : after.folder? cell.1.taskId cell.2.conditionId =
      evidence.folder? cell.1.taskId cell.2.conditionId)
    (hkeeps : Extends evidence.contexts after.contexts) {report : CellReport}
    (hload : loadCell runner evidence cell = .ok report) :
    loadCell runner after cell = .ok report := by
  rw [loadCell] at hload ⊢
  rw [hfolder]
  split at hload
  · rename_i files found hfound
    simp only [except_bind_ok_iff, require_ok_iff, exists_const] at hload ⊢
    obtain ⟨hhash, htaskset, htask, hcondition, hqualified, _, hfiles, _, hshared, hsame⟩ := hload
    refine ⟨hhash, htaskset, htask, hcondition, hqualified, _, hfiles, (), ?_, hsame⟩
    cases hreference : found.sharedContext with
    | none => rfl
    | some reference =>
      rw [hreference] at hshared
      exact checkShared_of_extends hkeeps hshared
  · cases hload

theorem Sound.of_contexts (h : Sound runner evidence) (hcells : after.cells = evidence.cells)
    (hleftovers : after.leftovers = evidence.leftovers)
    (hkeeps : Extends evidence.contexts after.contexts) : Sound runner after where
  loads := by
    intro cell hmem hthere
    rw [hcells] at hthere
    obtain ⟨report, hreport, hload⟩ := h.loads cell hmem hthere
    refine ⟨report, ?_, loadCell_of_extends ?_ hkeeps hload⟩
    · rw [frozenReport, hcells]
      exact hreport
    · rw [CellEvidence.folder?, CellEvidence.folder?, hcells, hleftovers]
  apart := by
    intro cell hmem
    rw [hleftovers]
    exact h.apart cell hmem

theorem Sound.withCell (h : Sound runner evidence) (hmem : cell ∈ runner.cells)
    (hchecked : ∀ reference ∈ made.shared, checkShared evidence cell reference = .ok ()) :
    Sound runner (withCell runner evidence cell made) where
  loads := by
    intro other hother hthere
    rw [frozenReport_withCell]
    split
    · rename_i hkey
      have hsame := cell_eq_of_key hmem hother hkey
      subst hsame
      refine ⟨_, rfl, loadCell_frozenFolder ?_ hchecked⟩
      have hset : (SkillLoop.withCell runner evidence other made).cells.get? other.key =
          some (frozenFolder runner other made) := by
        rw [SkillLoop.withCell, Dict.get?_set, if_pos rfl]
      rw [CellEvidence.folder?, ← Cell.key, hset, Option.some_or]
    · rename_i hkey
      have hset : (SkillLoop.withCell runner evidence cell made).cells.get? other.key =
          evidence.cells.get? other.key := evidence.cells.get?_set_of_ne _ hkey
      rw [hset] at hthere
      obtain ⟨report, hreport, hload⟩ := h.loads other hother hthere
      have hkeeps : Extends evidence.contexts
          (SkillLoop.withCell runner evidence cell made).contexts := Extends.refl _
      refine ⟨report, hreport, loadCell_of_extends ?_ hkeeps hload⟩
      change ((SkillLoop.withCell runner evidence cell made).cells.get? other.key).or
        (evidence.leftovers.get? other.key) = (evidence.cells.get? other.key).or
        (evidence.leftovers.get? other.key)
      rw [hset]
  apart := h.apart

end JlensEvolve.SkillLoop
