import JlensEvolve.Epistasis.CellInvariant
import JlensEvolve.Epistasis.CellFiles

/-!
Which cells a resumed run takes over from the disk. A cell is known again by a
short key over its task id, seed, operators, mode and budget; what the task is
defined as, the style and the model are not part of it.
-/

namespace JlensEvolve.Epistasis

open Library

variable {Records Output : Type}

section Command

variable [BEq Output] (sandbox : Sandbox Records Output) (skipExisting : List String)

/-- The plans of a run, merged in the order in which they are done. -/
def runJobs : List (PlanArgs Records Output) → Dict String CellResult →
    Except SearchError (Dict String CellResult)
  | [], results => .ok results
  | args :: rest, results => do
      let found ← runCellPlan sandbox skipExisting args
      runJobs rest (results.update found)

/-- The cells that `cmd_run` reports on, without `--resume`. -/
def freshRun (jobs : List (PlanArgs Records Output)) : Except SearchError (Dict String CellResult) :=
  runJobs sandbox [] jobs Dict.empty

/-- The same with `--resume`, over the files of the cell directory. -/
def resumedRun (files : List (Option Json)) (jobs : List (PlanArgs Records Output)) :
    Except SearchError (Dict String CellResult) :=
  let loaded := loadCells files
  runJobs sandbox loaded.1 jobs loaded.2

end Command

namespace CellConfig

/-- The parameters the key is taken over. -/
def keyed (config : CellConfig Records Output) : String × Int × List String × String × Int :=
  (config.task.taskId, config.seed, config.operatorIds, config.mode, config.budget)

/-- The parameters the key leaves out. -/
def unkeyed (config : CellConfig Records Output) :
    TaskSpec Records Output × String × Option Transport :=
  (config.task, config.llmStyle, config.model)

theorem eq_of_keyed_unkeyed {first second : CellConfig Records Output}
    (hkeyed : first.keyed = second.keyed) (hunkeyed : first.unkeyed = second.unkeyed) :
    first = second := by
  cases first
  cases second
  simp only [keyed, unkeyed, Prod.mk.injEq] at hkeyed hunkeyed
  obtain ⟨-, rfl, rfl, rfl, rfl⟩ := hkeyed
  obtain ⟨rfl, rfl, rfl⟩ := hunkeyed
  rfl

theorem key_congr {first second : CellConfig Records Output} (h : first.keyed = second.keyed) :
    first.key = second.key := by
  simp only [keyed, Prod.mk.injEq] at h
  obtain ⟨htask, hseed, hids, hmode, hbudget⟩ := h
  rw [key, key, htask, hseed, hids, hmode, hbudget]

theorem key_of_run [BEq Output] {sandbox : Sandbox Records Output}
    {config : CellConfig Records Output} {result : CellResult}
    (h : config.run sandbox = .ok result) : result.key = config.key := by
  rw [run] at h
  split at h
  · rename_i hmode
    obtain ⟨_, -, hattempts⟩ := (except_bind_ok_iff _ _ _).mp h
    obtain ⟨_, -, hresult⟩ := (except_bind_ok_iff _ _ _).mp hattempts
    cases hresult
    rw [key, hmode]
    rfl
  · obtain ⟨_, -, hattempts⟩ := (except_bind_ok_iff _ _ _).mp h
    obtain ⟨_, -, hresult⟩ := (except_bind_ok_iff _ _ _).mp hattempts
    cases hresult
    rfl

end CellConfig

def cellFiles (cells : List (CellConfig Records Output × CellResult)) : List (Option Json) :=
  cells.map fun cell => some cell.2.toFullDict

/-- A planned cell is passed over because of the file of this cell. -/
def Reused (result : CellResult) (planned : CellConfig Records Output) : Prop :=
  planned.key ∈ (loadCells [some result.toFullDict]).1

theorem loadCells_cellFiles (cells : List (CellConfig Records Output × CellResult)) :
    (loadCells (cellFiles cells)).2 =
      (cells.map Prod.snd).foldl (fun results result => results.set result.key result)
        Dict.empty := by
  simp only [loadCells, cellFiles]
  generalize (Dict.empty : Dict String CellResult) = results
  induction cells generalizing results with
  | nil => rfl
  | cons cell rest ih =>
    simp only [List.map_cons, List.foldl_cons, fromFullDict_toFullDict]
    exact ih _

theorem reused_iff (result : CellResult) (planned : CellConfig Records Output) :
    Reused result planned ↔ planned.key = result.key := by
  have hloaded := loadCells_cellFiles [(planned, result)]
  simp only [cellFiles, List.map_cons, List.map_nil, List.foldl_cons, List.foldl_nil] at hloaded
  rw [Reused, show (loadCells [some result.toFullDict]).1 =
    (loadCells [some result.toFullDict]).2.keys from rfl, hloaded, Dict.mem_keys_iff, Dict.get?_set]
  by_cases h : planned.key = result.key <;> simp [h]

theorem get?_loadCells {cells : List (CellConfig Records Output × CellResult)} {key : String} :
    ∀ {result : CellResult}, (loadCells (cellFiles cells)).2.get? key = some result →
      ∃ cell ∈ cells, cell.2 = result ∧ cell.2.key = key := by
  rw [loadCells_cellFiles]
  induction cells using List.reverseRecOn with
  | nil =>
    intro result h
    cases h
  | append_singleton cells last ih =>
    intro result h
    rw [List.map_append, List.map_singleton, List.foldl_append, List.foldl_cons, List.foldl_nil,
      Dict.get?_set] at h
    split at h
    · rename_i hkey
      exact ⟨last, by simp, Option.some.inj h, hkey.symm⟩
    · obtain ⟨cell, hcell, hresult⟩ := ih h
      exact ⟨cell, List.mem_append_left _ hcell, hresult⟩

section Runs

variable [BEq Output] {sandbox : Sandbox Records Output} {skipExisting : List String}

theorem runCells_skip (skipExisting : List String) (cells : List (CellConfig Records Output)) :
    ∀ {part full after : Dict String CellResult},
      (∀ key, key ∉ skipExisting → part.get? key = full.get? key) →
      runCells sandbox [] cells full = .ok after →
        ∃ resumed, runCells sandbox skipExisting cells part = .ok resumed ∧
          (∀ key, key ∉ skipExisting → resumed.get? key = after.get? key) ∧
          ∀ key ∈ skipExisting, resumed.get? key = part.get? key := by
  induction cells with
  | nil =>
    intro part full after hsame h
    cases h
    exact ⟨part, rfl, hsame, fun _ _ => rfl⟩
  | cons config rest ih =>
    intro part full after hsame h
    rw [runCells, if_neg List.not_mem_nil, except_bind_ok_iff] at h
    obtain ⟨result, hresult, h⟩ := h
    by_cases hskip : config.key ∈ skipExisting
    · rw [runCells, if_pos hskip]
      refine ih ?_ h
      intro key hkey
      have hother : key ≠ config.key := by
        rintro rfl
        exact hkey hskip
      rw [Dict.get?_set_of_ne _ _ hother]
      exact hsame key hkey
    · have hstep : ∀ key, key ∉ skipExisting →
          (part.set config.key result).get? key = (full.set config.key result).get? key := by
        intro key hkey
        rw [Dict.get?_set, Dict.get?_set, hsame key hkey]
      obtain ⟨resumed, hresumed, hrest, hkept⟩ := ih hstep h
      refine ⟨resumed, ?_, hrest, ?_⟩
      · rw [runCells, if_neg hskip]
        exact (except_bind_ok_iff _ _ _).mpr ⟨result, hresult, hresumed⟩
      · intro key hkey
        have hother : key ≠ config.key := by
          rintro rfl
          exact hskip hkey
        rw [hkept key hkey, Dict.get?_set_of_ne _ _ hother]

/-- A key is bound to the result of a cell that has it. -/
def Bound (sandbox : Sandbox Records Output) (cells : List (CellConfig Records Output))
    (results : Dict String CellResult) (key : String) : Prop :=
  ∃ config ∈ cells, config.key = key ∧ ∃ result, config.run sandbox = .ok result ∧
    results.get? key = some result

theorem bound_runCells (cells : List (CellConfig Records Output)) :
    ∀ {results after : Dict String CellResult}, runCells sandbox [] cells results = .ok after →
      ∀ key, Bound sandbox cells after key ∨
        after.get? key = results.get? key ∧ ∀ config ∈ cells, config.key ≠ key := by
  induction cells with
  | nil =>
    intro results after h key
    cases h
    exact Or.inr ⟨rfl, fun config hconfig => nomatch hconfig⟩
  | cons config rest ih =>
    intro results after h key
    rw [runCells, if_neg List.not_mem_nil, except_bind_ok_iff] at h
    obtain ⟨result, hresult, h⟩ := h
    rcases ih h key with ⟨other, hother, hbound⟩ | ⟨hkept, habsent⟩
    · exact Or.inl ⟨other, List.mem_cons_of_mem _ hother, hbound⟩
    · by_cases hkey : config.key = key
      · refine Or.inl ⟨config, List.mem_cons_self, hkey, result, hresult, ?_⟩
        rw [hkept, hkey, Dict.get?_set_self]
      · refine Or.inr ⟨hkept.trans (Dict.get?_set_of_ne _ _ fun h => hkey h.symm), ?_⟩
        intro other hother
        rcases List.mem_cons.mp hother with rfl | hother
        · exact hkey
        · exact habsent other hother

theorem runJobs_skip (jobs : List (PlanArgs Records Output)) :
    ∀ {part full after : Dict String CellResult},
      (∀ key, key ∉ skipExisting → part.get? key = full.get? key) →
      runJobs sandbox [] jobs full = .ok after →
        ∃ resumed, runJobs sandbox skipExisting jobs part = .ok resumed ∧
          (∀ key, key ∉ skipExisting → resumed.get? key = after.get? key) ∧
          ∀ key ∈ skipExisting, resumed.get? key = part.get? key := by
  induction jobs with
  | nil =>
    intro part full after hsame h
    cases h
    exact ⟨part, rfl, hsame, fun _ _ => rfl⟩
  | cons args rest ih =>
    intro part full after hsame h
    rw [runJobs, except_bind_ok_iff] at h
    obtain ⟨found, hfound, h⟩ := h
    have hempty : ∀ key, key ∉ skipExisting → (Dict.empty : Dict String CellResult).get? key =
        Dict.empty.get? key := fun _ _ => rfl
    obtain ⟨few, hfew, hothers, hnone⟩ := runCells_skip skipExisting args.planned hempty hfound
    have hstep : ∀ key, key ∉ skipExisting →
        (part.update few).get? key = (full.update found).get? key := by
      intro key hkey
      rw [Dict.get?_update, Dict.get?_update, hothers key hkey, hsame key hkey]
    obtain ⟨resumed, hresumed, hrest, hkept⟩ := ih hstep h
    refine ⟨resumed, (except_bind_ok_iff _ _ _).mpr ⟨few, hfew, hresumed⟩, hrest, ?_⟩
    intro key hkey
    rw [hkept key hkey, Dict.get?_update, hnone key hkey]
    rfl

theorem bound_runJobs (jobs : List (PlanArgs Records Output)) :
    ∀ {results after : Dict String CellResult}, runJobs sandbox [] jobs results = .ok after →
      ∀ key, Bound sandbox (jobs.flatMap PlanArgs.planned) after key ∨
        after.get? key = results.get? key ∧
          ∀ config ∈ jobs.flatMap PlanArgs.planned, config.key ≠ key := by
  induction jobs with
  | nil =>
    intro results after h key
    cases h
    exact Or.inr ⟨rfl, fun config hconfig => nomatch hconfig⟩
  | cons args rest ih =>
    intro results after h key
    rw [runJobs, except_bind_ok_iff] at h
    obtain ⟨found, hfound, h⟩ := h
    rw [List.flatMap_cons]
    rcases ih h key with ⟨other, hother, hbound⟩ | ⟨hkept, habsent⟩
    · exact Or.inl ⟨other, List.mem_append_right _ hother, hbound⟩
    · rw [Dict.get?_update] at hkept
      rcases bound_runCells args.planned hfound key with
        ⟨config, hconfig, hkey, result, hrun, hbound⟩ | ⟨hempty, hnew⟩
      · refine Or.inl ⟨config, List.mem_append_left _ hconfig, hkey, result, hrun, ?_⟩
        rw [hkept, hbound]
        rfl
      · rw [hempty] at hkept
        refine Or.inr ⟨hkept, ?_⟩
        intro config hconfig
        rcases List.mem_append.mp hconfig with hfirst | hlater
        · exact hnew config hfirst
        · exact habsent config hlater

end Runs

/-- A planned cell takes over a stored one only where every parameter is the
same. -/
def ReusedOnlyIfSame (cells : List (CellConfig Records Output × CellResult))
    (jobs : List (PlanArgs Records Output)) : Prop :=
  ∀ cell ∈ cells, ∀ planned ∈ jobs.flatMap PlanArgs.planned, Reused cell.2 planned →
    cell.1 = planned

/-- The resumed run answers under every planned key as a fresh run does. -/
def SameResults [BEq Output] (sandbox : Sandbox Records Output)
    (cells : List (CellConfig Records Output × CellResult)) (jobs : List (PlanArgs Records Output)) :
    Prop :=
  ∀ fresh, freshRun sandbox jobs = .ok fresh →
    ∃ resumed, resumedRun sandbox (cellFiles cells) jobs = .ok resumed ∧
      ∀ planned ∈ jobs.flatMap PlanArgs.planned, resumed.get? planned.key = fresh.get? planned.key

/-- Two cells that agree in the five parameters of the key agree in the others,
and two that do not have different keys. -/
def KeyDistinguishes (stored planned : CellConfig Records Output) : Prop :=
  (stored.keyed = planned.keyed → stored.unkeyed = planned.unkeyed) ∧
    (stored.keyed ≠ planned.keyed → stored.key ≠ planned.key)

variable [BEq Output] {sandbox : Sandbox Records Output}

theorem reusedOnlyIfSame_iff {cells : List (CellConfig Records Output × CellResult)}
    (hcells : ∀ cell ∈ cells, cell.1.run sandbox = .ok cell.2)
    (jobs : List (PlanArgs Records Output)) :
    ReusedOnlyIfSame cells jobs ↔ ∀ cell ∈ cells, ∀ planned ∈ jobs.flatMap PlanArgs.planned,
      KeyDistinguishes cell.1 planned := by
  have hreused : ∀ cell ∈ cells, ∀ planned : CellConfig Records Output,
      Reused cell.2 planned ↔ cell.1.key = planned.key := by
    intro cell hcell planned
    rw [reused_iff, CellConfig.key_of_run (hcells cell hcell), eq_comm]
  constructor
  · intro h cell hcell planned hplanned
    have hsame := fun hkey => h cell hcell planned hplanned ((hreused cell hcell planned).mpr hkey)
    constructor
    · intro hkeyed
      rw [hsame (CellConfig.key_congr hkeyed)]
    · intro hdiffers hkey
      exact hdiffers (congrArg CellConfig.keyed (hsame hkey))
  · intro h cell hcell planned hplanned hreuse
    obtain ⟨hagree, hapart⟩ := h cell hcell planned hplanned
    have hkeyed : cell.1.keyed = planned.keyed := by
      by_contra hdiffers
      exact hapart hdiffers ((hreused cell hcell planned).mp hreuse)
    exact CellConfig.eq_of_keyed_unkeyed hkeyed (hagree hkeyed)

theorem sameResults_of_reusedOnlyIfSame {cells : List (CellConfig Records Output × CellResult)}
    (hcells : ∀ cell ∈ cells, cell.1.run sandbox = .ok cell.2)
    {jobs : List (PlanArgs Records Output)} (h : ReusedOnlyIfSame cells jobs) :
    SameResults sandbox cells jobs := by
  intro fresh hfresh
  have hskip : ∀ key, key ∉ (loadCells (cellFiles cells)).1 →
      (loadCells (cellFiles cells)).2.get? key = (Dict.empty : Dict String CellResult).get? key :=
    fun key hkey => (Dict.get?_eq_none_iff _ _).mpr hkey
  obtain ⟨resumed, hresumed, hothers, hloaded⟩ := runJobs_skip jobs hskip hfresh
  refine ⟨resumed, hresumed, ?_⟩
  intro planned hplanned
  by_cases hkey : planned.key ∈ (loadCells (cellFiles cells)).1
  · obtain ⟨result, hresult⟩ : ∃ result,
        (loadCells (cellFiles cells)).2.get? planned.key = some result :=
      Option.isSome_iff_exists.mp ((Dict.mem_keys_iff _ _).mp hkey)
    obtain ⟨cell, hcell, hsecond, hcellKey⟩ := get?_loadCells hresult
    rcases bound_runJobs jobs hfresh planned.key with
      ⟨config, hconfig, hsameKey, found, hrun, hbound⟩ | ⟨-, habsent⟩
    · have hreused : Reused cell.2 config := by
        rw [reused_iff, hsameKey, hcellKey]
      have hsame := h cell hcell config hconfig hreused
      have hfound : found = result := by
        have hstored := hcells cell hcell
        rw [hsame, hrun, hsecond] at hstored
        exact Except.ok.inj hstored
      rw [hloaded planned.key hkey, hresult, hbound, hfound]
    · exact absurd rfl (habsent planned hplanned)
  · exact hothers planned.key hkey

/-- Resuming is faithful exactly where the key tells the stored cells from the
planned ones: no planned cell agrees with a stored one in the five parameters of
the key and differs in the definition of the task, the style or the model, and
no two different keys have the same digest. -/
theorem resume_identity_iff {cells : List (CellConfig Records Output × CellResult)}
    (hcells : ∀ cell ∈ cells, cell.1.run sandbox = .ok cell.2)
    (jobs : List (PlanArgs Records Output)) :
    (ReusedOnlyIfSame cells jobs ∧ SameResults sandbox cells jobs) ↔
      ∀ cell ∈ cells, ∀ planned ∈ jobs.flatMap PlanArgs.planned,
        KeyDistinguishes cell.1 planned := by
  rw [← reusedOnlyIfSame_iff hcells jobs]
  exact ⟨And.left, fun h => ⟨h, sameResults_of_reusedOnlyIfSame hcells h⟩⟩

/-- A runtime in which every program loads and passes every case. -/
def acceptingSandbox : Sandbox Unit Unit where
  load _ := some fun _ => some ()
  dump _ := none
  transform operatorId source _ := ⟨operatorId, source, false, false, none⟩

theorem nodup_cases (ids : List String) (h : ids.Nodup) :
    ((ids.map fun id => (⟨id, "basic", (), ()⟩ : EvalCase Unit Unit)).map (·.id)).Nodup := by
  rw [List.map_map]
  exact (List.map_id ids).symm ▸ h

theorem nodup_oneCase : ["basic_rows"].Nodup := List.nodup_singleton _

/-- The synthetic task of number 0, generated with these cases. -/
def syntheticTask (ids : List String) (h : ids.Nodup) : TaskSpec Unit Unit where
  taskId := "synthetic-000"
  taskFamily := "synthetic"
  schema := ⟨"account", "value", "state", "settled", none, none, 2⟩
  initialSource := ""
  publicCases := ids.map fun id => ⟨id, "basic", (), ()⟩
  holdoutCases := []
  mechanisms := ["status", "amount"]
  distinct_ids := nodup_cases ids h

/-- The cell without operators, of that task. -/
def emptyCell (ids : List String) (h : ids.Nodup) : CellConfig Unit Unit :=
  ⟨syntheticTask ids h, 0, [], "deterministic", 8, "scaffold", none⟩

def syntheticArgs (ids : List String) (h : ids.Nodup) : PlanArgs Unit Unit :=
  ⟨syntheticTask ids h, 0, 8, "deterministic", "scaffold", none⟩

theorem emptyCell_run (ids : List String) (h : ids.Nodup) :
    ∃ result, (emptyCell ids h).run acceptingSandbox = .ok result := by
  have hsupported : (emptyCell ids h).cellCall.Supported := by
    refine ⟨Or.inl rfl, ?_⟩
    intro id hid
    cases hid
  exact CellCall.runCell_supported acceptingSandbox hsupported

theorem emptyCell_planned (ids : List String) (h : ids.Nodup) :
    emptyCell ids h ∈ [syntheticArgs ids h].flatMap PlanArgs.planned := by
  refine List.mem_flatMap.mpr ⟨syntheticArgs ids h, List.mem_singleton.mpr rfl, ?_⟩
  have hspec : (⟨"B", [], false⟩ : CellSpec) ∈ dedupeSpecs (planCellSpecs (syntheticTask ids h)) := by
    have hfirst : ∃ rest, dedupeSpecs (planCellSpecs (syntheticTask ids h)) =
        (⟨"B", [], false⟩ : CellSpec) :: rest := ⟨_, rfl⟩
    obtain ⟨rest, hrest⟩ := hfirst
    rw [hrest]
    exact List.mem_cons_self
  exact List.mem_map.mpr ⟨_, hspec, rfl⟩

/-- The task was generated with one case when its cell was stored, and with none
when the run is resumed. -/
theorem redefined_task_reused :
    ∃ cells : List (CellConfig Unit Unit × CellResult),
      (∀ cell ∈ cells, cell.1.run acceptingSandbox = .ok cell.2) ∧
        ¬ (ReusedOnlyIfSame cells [syntheticArgs [] List.nodup_nil] ∧
          SameResults acceptingSandbox cells [syntheticArgs [] List.nodup_nil]) := by
  obtain ⟨result, hresult⟩ := emptyCell_run ["basic_rows"] nodup_oneCase
  refine ⟨[(emptyCell ["basic_rows"] nodup_oneCase, result)], ?_, ?_⟩
  · intro cell hcell
    rw [List.mem_singleton.mp hcell]
    exact hresult
  · intro h
    have hreused : Reused result (emptyCell [] List.nodup_nil) := by
      rw [reused_iff, CellConfig.key_of_run hresult]
      rfl
    have hsame := h.1 _ List.mem_cons_self _ (emptyCell_planned [] List.nodup_nil) hreused
    have hcases := congrArg (fun config : CellConfig Unit Unit =>
      config.task.publicCases.length) hsame
    exact absurd hcases Nat.one_ne_zero

theorem resume_identity_iff_stored :
    ∃ result, (emptyCell [] List.nodup_nil).run acceptingSandbox = .ok result ∧
      ((ReusedOnlyIfSame [(emptyCell [] List.nodup_nil, result)]
          [syntheticArgs [] List.nodup_nil] ∧
        SameResults acceptingSandbox [(emptyCell [] List.nodup_nil, result)]
          [syntheticArgs [] List.nodup_nil]) ↔
        ∀ cell ∈ [(emptyCell [] List.nodup_nil, result)],
          ∀ planned ∈ [syntheticArgs [] List.nodup_nil].flatMap PlanArgs.planned,
            KeyDistinguishes cell.1 planned) := by
  obtain ⟨result, hresult⟩ := emptyCell_run [] List.nodup_nil
  refine ⟨result, hresult, resume_identity_iff ?_ _⟩
  intro cell hcell
  rw [List.mem_singleton.mp hcell]
  exact hresult

end JlensEvolve.Epistasis
