import JlensEvolve.Library.Resumption
import JlensEvolve.SkillLoop.ExperimentEvidence

/-!
A run that is split over calls. What the next cell is follows from the cells
that are frozen: a mechanism that was stopped gets no more cells, so that its
gate says the same again, and a cell that was passed over is passed over again.
Every call is a walk along one deterministic sequence of freezes.
-/

namespace JlensEvolve.SkillLoop

open Library Contracts Relation

variable {rounded : ℚ → ℚ} {runner : PairedExperimentRunner} {options : RunOptions}
  {evidence after : CellEvidence} {cell other : Cell} {made : MadeCell}

/-! ## The gate -/

/-- What the gate of a mechanism says about the cells that are there. -/
def verdict (rounded : ℚ → ℚ) (runner : PairedExperimentRunner) (options : RunOptions)
    (evidence : CellEvidence) (mechanism : String) : Option StoppedMechanism :=
  options.futilityMinCells.bind fun minimumCells => futility rounded options minimumCells
    ((countedCells runner options mechanism).filterMap (frozenReport evidence))

/-- What is known of the stopped mechanisms is what the gates say. -/
def InStep (rounded : ℚ → ℚ) (runner : PairedExperimentRunner) (options : RunOptions)
    (evidence : CellEvidence) (stopped : Dict String StoppedMechanism) : Prop :=
  ∀ mechanism, stopped.get? mechanism = verdict rounded runner options evidence mechanism

theorem mem_cells_of_counted {mechanism : String}
    (h : cell ∈ countedCells runner options mechanism) :
    cell ∈ runner.cells := List.mem_of_mem_filter h

theorem mechanism_of_counted {mechanism : String}
    (h : cell ∈ countedCells runner options mechanism) :
    cell.2.mechanism = mechanism := by
  have hkept := (List.mem_filter.mp h).2
  rw [Bool.and_eq_true, Bool.and_eq_true] at hkept
  exact of_decide_eq_true hkept.1.1

theorem verdict_congr {mechanism : String} (hcells : ∀ cell ∈ runner.cells,
      cell.2.mechanism = mechanism → frozenReport after cell = frozenReport evidence cell) :
    verdict rounded runner options after mechanism =
      verdict rounded runner options evidence mechanism := by
  have hsame : (countedCells runner options mechanism).filterMap (frozenReport after) =
      (countedCells runner options mechanism).filterMap (frozenReport evidence) :=
    List.filterMap_congr fun cell hcell =>
      hcells cell (mem_cells_of_counted hcell) (mechanism_of_counted hcell)
  rw [verdict, hsame, verdict]

theorem Sound.applyFutilityGate_eq (h : Sound runner evidence) (hplain : PlainIds runner)
    (mechanism : String) (stopped : Dict String StoppedMechanism) :
    applyFutilityGate rounded runner options evidence mechanism stopped =
      .ok (match verdict rounded runner options evidence mechanism with
        | none => stopped
        | some reason => stopped.set mechanism reason) := by
  rw [applyFutilityGate, verdict]
  cases options.futilityMinCells with
  | none => rfl
  | some minimumCells =>
    have hload : loadCells runner evidence (countedCells runner options mechanism) = .ok _ :=
      h.loadCells_eq hplain fun cell hcell => mem_cells_of_counted hcell
    rw [hload]
    change (match futility rounded options minimumCells
      ((countedCells runner options mechanism).filterMap (frozenReport evidence)) with
      | none => Except.ok stopped
      | some reason => Except.ok (stopped.set mechanism reason)) = _
    rw [Option.bind_some]
    cases futility rounded options minimumCells
      ((countedCells runner options mechanism).filterMap (frozenReport evidence)) <;> rfl

theorem verdict_of_not_mem (hoptions : options.check runner = .ok ()) {mechanism : String}
    (h : mechanism ∉ mechanisms runner) :
    verdict rounded runner options evidence mechanism = none := by
  have hnone : countedCells runner options mechanism = [] := by
    rw [countedCells, List.filter_eq_nil_iff]
    intro cell hcell hkept
    rw [Bool.and_eq_true, Bool.and_eq_true] at hkept
    refine h ?_
    rw [mechanisms, List.mem_insertionSort, List.mem_dedup]
    exact List.mem_map.mpr
      ⟨cell.2, condition_mem_of_mem_cells hcell, of_decide_eq_true hkept.1.1⟩
  rw [verdict, hnone, List.filterMap_nil]
  simp only [RunOptions.check, except_bind_ok_iff, require_ok_iff, exists_const] at hoptions
  obtain ⟨-, -, hminimum, -⟩ := hoptions
  cases hfutility : options.futilityMinCells with
  | none => rfl
  | some minimumCells =>
    have htwo : 2 ≤ minimumCells := hminimum minimumCells hfutility
    have hfew : ([] : List CellReport).length < minimumCells := by
      rw [List.length_nil]
      omega
    rw [Option.bind_some, futility, if_pos hfew]

variable (rounded options) in
theorem Sound.gates_eq (h : Sound runner evidence) (hplain : PlainIds runner)
    (names : List String) : ∀ stopped : Dict String StoppedMechanism,
      (∀ mechanism, stopped.get? mechanism = none ∨
        stopped.get? mechanism = verdict rounded runner options evidence mechanism) →
      ∃ after, names.foldlM (fun stopped mechanism =>
          applyFutilityGate rounded runner options evidence mechanism stopped) stopped = .ok after ∧
        ∀ mechanism, after.get? mechanism =
          if mechanism ∈ names then verdict rounded runner options evidence mechanism
          else stopped.get? mechanism := by
  induction names with
  | nil =>
    intro stopped _
    exact ⟨stopped, rfl, fun mechanism => (if_neg List.not_mem_nil).symm⟩
  | cons name rest ih =>
    intro stopped hstopped
    rw [List.foldlM_cons, h.applyFutilityGate_eq hplain]
    cases hverdict : verdict rounded runner options evidence name with
    | none =>
      obtain ⟨after, hrun, hafter⟩ := ih stopped hstopped
      refine ⟨after, hrun, fun mechanism => ?_⟩
      rw [hafter]
      by_cases hname : mechanism = name
      · subst hname
        rw [if_pos List.mem_cons_self, hverdict]
        rcases hstopped mechanism with hnone | hsome
        · rw [hnone, ite_self]
        · rw [hsome, hverdict, ite_self]
      · simp only [List.mem_cons, hname, false_or]
    | some reason =>
      obtain ⟨after, hrun, hafter⟩ := ih (stopped.set name reason) (by
        intro mechanism
        rw [Dict.get?_set]
        split
        · rename_i hname
          exact Or.inr (by rw [hname, hverdict])
        · exact hstopped mechanism)
      refine ⟨after, hrun, fun mechanism => ?_⟩
      rw [hafter, Dict.get?_set]
      by_cases hname : mechanism = name
      · subst hname
        rw [if_pos rfl, if_pos List.mem_cons_self, hverdict, ite_self]
      · simp only [List.mem_cons, hname, false_or, if_false]

variable (rounded) in
theorem Sound.startGates_inStep (h : Sound runner evidence) (hplain : PlainIds runner)
    (hoptions : options.check runner = .ok ()) :
    ∃ stopped, startGates rounded runner options evidence = .ok stopped ∧
      InStep rounded runner options evidence stopped := by
  obtain ⟨stopped, hgates, hstopped⟩ := h.gates_eq rounded options hplain
    (mechanisms runner) Dict.empty fun _ => Or.inl rfl
  refine ⟨stopped, hgates, fun mechanism => ?_⟩
  rw [hstopped]
  split
  · rfl
  · rename_i habsent
    rw [verdict_of_not_mem hoptions habsent]
    rfl

/-! ## The next cell -/

section Advances

variable (rounded : ℚ → ℚ) (runner : PairedExperimentRunner) (options : RunOptions)

/-- The run would execute the cell when it comes to it. -/
def runnable (evidence : CellEvidence) (cell : Cell) : Bool :=
  selected options cell &&
    (verdict rounded runner options evidence cell.2.mechanism).isNone &&
    (evidence.cells.get? cell.key).isNone

def nextCell (evidence : CellEvidence) : Option Cell :=
  runner.cells.find? (runnable rounded runner options evidence)

def executed (evidence : CellEvidence) (cell : Cell) : CellEvidence :=
  match makeCell runner evidence cell with
  | (.error _, after) => after
  | (.ok made, after) => withCell runner after cell made

def Advances (evidence after : CellEvidence) : Prop :=
  ∃ cell, nextCell rounded runner options evidence = some cell ∧
    executed runner evidence cell = after

end Advances

theorem advances_rightUnique : Relator.RightUnique (Advances rounded runner options) := by
  intro evidence first second hfirst hsecond
  obtain ⟨cell, hcell, rfl⟩ := hfirst
  obtain ⟨other, hother, rfl⟩ := hsecond
  rw [Option.some_injective _ (hcell.symm.trans hother)]

theorem runnable_iff :
    runnable rounded runner options evidence cell = true ↔ selected options cell = true ∧
      verdict rounded runner options evidence cell.2.mechanism = none ∧
      evidence.cells.get? cell.key = none := by
  rw [runnable, Bool.and_eq_true, Bool.and_eq_true, Option.isNone_iff_eq_none,
    Option.isNone_iff_eq_none, and_assoc]

theorem mem_of_nextCell (h : nextCell rounded runner options evidence = some cell) :
    cell ∈ runner.cells := List.mem_of_find?_eq_some h

theorem runnable_of_nextCell (h : nextCell rounded runner options evidence = some cell) :
    runnable rounded runner options evidence cell = true := List.find?_some h

theorem verdict_congr_cells (h : after.cells = evidence.cells) (mechanism : String) :
    verdict rounded runner options after mechanism =
      verdict rounded runner options evidence mechanism :=
  verdict_congr fun cell _ _ => by rw [frozenReport, h, frozenReport]

theorem nextCell_congr (h : after.cells = evidence.cells) :
    nextCell rounded runner options after = nextCell rounded runner options evidence := by
  have hrunnable : runnable rounded runner options after =
      runnable rounded runner options evidence := by
    funext cell
    rw [runnable, runnable, verdict_congr_cells h, h]
  rw [nextCell, hrunnable, nextCell]

theorem Made.sound {result : Except String MadeCell} (h : Made runner evidence cell result after)
    (hsound : Sound runner evidence) : Sound runner after :=
  hsound.of_contexts h.cells h.leftovers h.keeps

theorem Sound.advances (h : Sound runner evidence)
    (hstep : Advances rounded runner options evidence after) : Sound runner after := by
  obtain ⟨cell, hcell, rfl⟩ := hstep
  rw [executed]
  split
  · rename_i error between hmake
    exact (makeCell_made hmake).sound h
  · rename_i made between hmake
    have hmade := makeCell_made hmake
    exact (hmade.sound h).withCell (mem_of_nextCell hcell) (hmade.checked made rfl)

theorem Sound.walk (h : Sound runner evidence)
    (hwalk : ReflTransGen (Advances rounded runner options) evidence after) :
    Sound runner after := by
  induction hwalk with
  | refl => exact h
  | tail _ hlast ih => exact ih.advances hlast

/-- The cells that are frozen change no more. -/
abbrev Settled (rounded : ℚ → ℚ) (runner : PairedExperimentRunner) (options : RunOptions)
    (evidence : CellEvidence) : Prop :=
  SettledIn (Advances rounded runner options) CellEvidence.cells evidence

theorem settled_of_nextCell (h : nextCell rounded runner options evidence = none) :
    Settled rounded runner options evidence := by
  refine settledIn_of_stuck fun other hstep => ?_
  obtain ⟨cell, hcell, -⟩ := hstep
  rw [h] at hcell
  cases hcell

theorem settled_of_raise {error : String}
    (hnext : nextCell rounded runner options evidence = some cell)
    (hmake : makeCell runner evidence cell = (.error error, after)) :
    Settled rounded runner options after := by
  have hmade := makeCell_made hmake
  refine settledIn_of_fixed fun other hstep => ?_
  obtain ⟨again, hagain, rfl⟩ := hstep
  rw [nextCell_congr hmade.cells, hnext] at hagain
  cases hagain
  rw [executed, hmade.again after rfl]

theorem verdict_withCell (hmem : cell ∈ runner.cells) (hcells : after.cells = evidence.cells)
    {mechanism : String} (h : mechanism ≠ cell.2.mechanism) :
    verdict rounded runner options (withCell runner after cell made) mechanism =
      verdict rounded runner options evidence mechanism := by
  refine verdict_congr fun other hother hsame => ?_
  rw [frozenReport_withCell, if_neg]
  · rw [frozenReport, hcells, frozenReport]
  · intro hkey
    rw [cell_eq_of_key hmem hother hkey] at hsame
    exact h hsame.symm

theorem runnable_of_withCell (hmem : cell ∈ runner.cells) (hcells : after.cells = evidence.cells)
    (hgoing : runnable rounded runner options evidence cell = true)
    (h : runnable rounded runner options (withCell runner after cell made) other = true) :
    runnable rounded runner options evidence other = true ∧ other ≠ cell := by
  rw [runnable_iff] at h hgoing ⊢
  obtain ⟨hselected, hverdict, habsent⟩ := h
  have hkey : other.key ≠ cell.key := by
    intro hkey
    rw [withCell, Dict.get?_set, if_pos hkey] at habsent
    cases habsent
  have hnone : verdict rounded runner options evidence other.2.mechanism = none := by
    by_cases hmechanism : other.2.mechanism = cell.2.mechanism
    · rw [hmechanism]
      exact hgoing.2.1
    · rw [← hverdict, verdict_withCell hmem hcells hmechanism]
  refine ⟨⟨hselected, hnone, ?_⟩, fun hsame => hkey (congrArg Cell.key hsame)⟩
  rw [withCell, Dict.get?_set, if_neg hkey] at habsent
  rw [← hcells]
  exact habsent

/-! ## Executing a cell -/

theorem InStep.withCell {stopped : Dict String StoppedMechanism}
    (h : InStep rounded runner options evidence stopped) (hmem : cell ∈ runner.cells)
    (hcells : after.cells = evidence.cells)
    (hgoing : stopped.get? cell.2.mechanism = none) :
    InStep rounded runner options (withCell runner after cell made)
      (match verdict rounded runner options (withCell runner after cell made)
          cell.2.mechanism with
        | none => stopped
        | some reason => stopped.set cell.2.mechanism reason) := by
  intro mechanism
  by_cases hmechanism : mechanism = cell.2.mechanism
  · subst hmechanism
    split
    · rename_i hnone
      rw [hnone, hgoing]
    · rename_i reason hsome
      rw [hsome, Dict.get?_set, if_pos rfl]
  · rw [verdict_withCell hmem hcells hmechanism, ← h mechanism]
    split
    · rfl
    · rw [Dict.get?_set_of_ne _ _ hmechanism]

theorem nextCell_of_complete {stopped : Dict String StoppedMechanism} {summary : Summary}
    (hplain : PlainIds runner) (h : Sound runner evidence)
    (hsummary : summarize runner evidence stopped = .ok summary)
    (hcomplete : summary.complete = true) :
    nextCell rounded runner options evidence = none := by
  rw [summarize, h.loadCells_eq hplain fun cell hcell => hcell] at hsummary
  cases hsummary
  have hall : (runner.cells.filterMap (frozenReport evidence)).length = runner.cells.length :=
    of_decide_eq_true hcomplete
  rw [List.filterMap_length_eq_length] at hall
  refine List.find?_eq_none.mpr fun cell hcell hrunnable => ?_
  have hthere := h.isSome_frozenReport hcell
  rw [hall cell hcell, (runnable_iff.mp hrunnable).2.2] at hthere
  cases hthere

theorem Sound.summarize_ok (h : Sound runner evidence) (hplain : PlainIds runner)
    (stopped : Dict String StoppedMechanism) :
    ∃ summary, summarize runner evidence stopped = .ok summary := by
  rw [summarize, h.loadCells_eq hplain fun cell hcell => hcell]
  exact ⟨_, rfl⟩

theorem complete_of_writeSummary {existing : Option Summary} {summary : Summary} {error : String}
    (h : writeSummary existing summary = .error error) : summary.complete = true := by
  unfold writeSummary at h
  split at h
  · assumption
  · cases h

/-- How a call can end that had executed so many cells at this evidence. -/
def Follows (rounded : ℚ → ℚ) (runner : PairedExperimentRunner) (options : RunOptions)
    (call : RunCall) (start : CellEvidence) (before : Nat) : RunEnding × RunState → Prop
  | (.finished _, state) =>
    ReflTransGen (Advances rounded runner options) start state.evidence ∧
      InStep rounded runner options state.evidence state.stopped ∧
      state.executed + start.cells.size = before + state.evidence.cells.size ∧
      ((∀ limit ∈ call.maxCells, state.executed < limit) →
        Settled rounded runner options state.evidence)
  | (.raised _, state) =>
    ReflTransGen (Advances rounded runner options) start state.evidence ∧
      InStep rounded runner options state.evidence state.stopped ∧
      state.executed + start.cells.size = before + state.evidence.cells.size ∧
      Settled rounded runner options state.evidence
  | (.crashed cell point, state) => ∃ evidence between made number,
      ReflTransGen (Advances rounded runner options) start evidence ∧
        nextCell rounded runner options evidence = some cell ∧
        makeCell runner evidence cell = (.ok made, between) ∧
        state.evidence =
          interruptFreeze runner between cell made (call.suffix number) point ∧
        call.crash.map Prod.snd = some point ∧ (point = .renamed → state.executed ≠ 0)

theorem Follows.head {call : RunCall} {before : Nat} {ended : RunEnding × RunState}
    (hstep : Advances rounded runner options evidence after)
    (hsize : after.cells.size = evidence.cells.size + 1)
    (h : Follows rounded runner options call after (before + 1) ended) :
    Follows rounded runner options call evidence before ended := by
  obtain ⟨ending, state⟩ := ended
  cases ending with
  | finished summary =>
    obtain ⟨hwalk, hinStep, hcount, hsettled⟩ := h
    exact ⟨hwalk.head hstep, hinStep, by omega, hsettled⟩
  | raised error =>
    obtain ⟨hwalk, hinStep, hcount, hsettled⟩ := h
    exact ⟨hwalk.head hstep, hinStep, by omega, hsettled⟩
  | crashed cell point =>
    obtain ⟨last, between, made, number, hwalk, hrest⟩ := h
    exact ⟨last, between, made, number, hwalk.head hstep, hrest⟩

/-- What a cell that was frozen in a call leaves the rest of it. -/
structure Went (rounded : ℚ → ℚ) (runner : PairedExperimentRunner) (options : RunOptions)
    (cell : Cell) (state later : RunState) : Prop where
  step : Advances rounded runner options state.evidence later.evidence
  inStep : InStep rounded runner options later.evidence later.stopped
  executed : later.executed = state.executed + 1
  size : later.evidence.cells.size = state.evidence.cells.size + 1
  runnable : ∀ other ∈ runner.cells,
    SkillLoop.runnable rounded runner options later.evidence other = true →
      SkillLoop.runnable rounded runner options state.evidence other = true ∧ other ≠ cell

def Executes (rounded : ℚ → ℚ) (runner : PairedExperimentRunner) (options : RunOptions)
    (call : RunCall) (cell : Cell) (state : RunState) :
    Except (RunEnding × RunState) RunState → Prop
  | .error ended => Follows rounded runner options call state.evidence state.executed ended
  | .ok later => Went rounded runner options cell state later

section Execute

variable {call : RunCall} {state : RunState}

theorem crash_of_crashIn {number : Nat} {point : FreezePoint}
    (h : call.crashIn number = some point) : call.crash.map Prod.snd = some point := by
  obtain ⟨crash, hcrash, hpoint⟩ := Option.bind_eq_some_iff.mp h
  rw [hcrash]
  split at hpoint
  · exact hpoint
  · cases hpoint

variable (call) in
theorem executeCell_follows (hplain : PlainIds runner) (h : Sound runner state.evidence)
    (hstep : InStep rounded runner options state.evidence state.stopped)
    (hnext : nextCell rounded runner options state.evidence = some cell) :
    Executes rounded runner options call cell state
      (executeCell rounded runner options call cell state) := by
  have hmem := mem_of_nextCell hnext
  have hdotted := hplain cell.2 (condition_mem_of_mem_cells hmem)
  have hrunnable := runnable_of_nextCell hnext
  have hgoing : state.stopped.get? cell.2.mechanism = none := by
    rw [hstep, (runnable_iff.mp hrunnable).2.1]
  rw [executeCell]
  rcases hresult : makeCell runner state.evidence cell with ⟨result, between⟩
  have hmade := makeCell_made hresult
  have hbetween := hmade.sound h
  cases result with
  | error error =>
    have hwalked : Advances rounded runner options state.evidence between :=
      ⟨cell, hnext, by rw [executed, hresult]⟩
    refine ⟨ReflTransGen.single hwalked, fun mechanism => ?_, ?_,
      settled_of_raise hnext hresult⟩
    · rw [verdict_congr_cells hmade.cells]
      exact hstep mechanism
    · change state.executed + _ = state.executed + between.cells.size
      rw [hmade.cells]
  | ok made =>
    cases hcrash : call.crashIn state.executed with
    | some point =>
      refine ⟨state.evidence, between, made, state.executed, ReflTransGen.refl,
        hnext, hresult, rfl, crash_of_crashIn hcrash, fun hpoint => ?_⟩
      change (if point = .renamed then state.executed + 1 else state.executed) ≠ 0
      rw [if_pos hpoint]
      omega
    | none =>
      have habsent : cellExists between cell = false := by
        rw [hbetween.cellExists_eq hplain hmem, hbetween.isSome_frozenReport hmem,
          hmade.cells, (runnable_iff.mp hrunnable).2.2]
        rfl
      have hfrozen := hbetween.withCell hmem (hmade.checked made rfl)
      have hwalked : Advances rounded runner options state.evidence
          (withCell runner between cell made) :=
        ⟨cell, hnext, by rw [executed, hresult]⟩
      simp only [freezeCell_eq hdotted habsent]
      rw [afterFreeze]
      simp only [hfrozen.applyFutilityGate_eq hplain]
      obtain ⟨summary, hsummary⟩ := hfrozen.summarize_ok hplain
        (match verdict rounded runner options (withCell runner between cell made)
          cell.2.mechanism with
        | none => state.stopped
        | some reason => state.stopped.set cell.2.mechanism reason)
      have hlater : InStep rounded runner options (withCell runner between cell made) _ :=
        hstep.withCell hmem hmade.cells hgoing
      have hsize : (withCell runner between cell made).cells.size =
          state.evidence.cells.size + 1 := by
        rw [withCell, Dict.size, Dict.entries_set_of_absent, List.length_append, hmade.cells]
        · rfl
        · rw [hmade.cells]
          exact (Dict.get?_eq_none_iff _ _).mp (runnable_iff.mp hrunnable).2.2
      simp only [hsummary]
      cases hwritten : writeSummary state.summary summary with
      | error error =>
        refine ⟨ReflTransGen.single hwalked, hlater, ?_, settled_of_nextCell
          (nextCell_of_complete hplain hfrozen hsummary (complete_of_writeSummary hwritten))⟩
        change state.executed + 1 + _ = state.executed + _
        rw [hsize]
        omega
      | ok kept =>
        exact {
          step := hwalked
          inStep := hlater
          executed := rfl
          size := hsize
          runnable := fun other _ hother =>
            runnable_of_withCell hmem hmade.cells hrunnable hother }

theorem below_iff {maxCells : Option Nat} {count : Nat} :
    maxCells.any (· ≤ count) = false ↔ ∀ limit ∈ maxCells, count < limit := by
  cases maxCells with
  | none => exact ⟨fun _ _ => nofun, fun _ => rfl⟩
  | some limit => simp

/-- The walk over the cells that are left: those before them are not runnable
any more, unless the call has executed all that it may. -/
theorem runCells_follows (hplain : PlainIds runner) (rest : List Cell) :
    ∀ (passed : List Cell) (state : RunState), runner.cells = passed ++ rest →
      Sound runner state.evidence →
      InStep rounded runner options state.evidence state.stopped →
      ((∀ limit ∈ call.maxCells, state.executed < limit) →
        ∀ cell ∈ passed, runnable rounded runner options state.evidence cell ≠ true) →
      Follows rounded runner options call state.evidence state.executed
        (runCells rounded runner options call rest state) := by
  induction rest with
  | nil =>
    intro passed state hcells h hstep hpassed
    rw [List.append_nil] at hcells
    obtain ⟨summary, hsummary⟩ := h.summarize_ok hplain state.stopped
    simp only [runCells, hsummary]
    cases hwritten : writeSummary state.summary summary with
    | error error =>
      exact ⟨ReflTransGen.refl, hstep, rfl, settled_of_nextCell
        (nextCell_of_complete hplain h hsummary (complete_of_writeSummary hwritten))⟩
    | ok kept =>
      refine ⟨ReflTransGen.refl, hstep, rfl, fun hlimit => settled_of_nextCell ?_⟩
      rw [← hcells] at hpassed
      exact List.find?_eq_none.mpr (hpassed hlimit)
  | cons cell rest ih =>
    intro passed state hcells h hstep hpassed
    have hmem : cell ∈ runner.cells := by
      rw [hcells]
      exact List.mem_append_right _ List.mem_cons_self
    have hsnoc : runner.cells = (passed ++ [cell]) ++ rest := by
      rw [hcells, List.append_assoc, List.singleton_append]
    have hskip : ((∀ limit ∈ call.maxCells, state.executed < limit) →
        runnable rounded runner options state.evidence cell ≠ true) →
        Follows rounded runner options call state.evidence state.executed
          (runCells rounded runner options call rest state) := by
      intro hcell
      refine ih (passed ++ [cell]) state hsnoc h hstep fun hlimit other hother => ?_
      rcases List.mem_append.mp hother with hother | hother
      · exact hpassed hlimit other hother
      · rw [List.mem_singleton.mp hother]
        exact hcell hlimit
    rw [runCells]
    split
    · -- filtered or stopped
      rename_i hover
      refine hskip fun _ hrunnable => ?_
      obtain ⟨hselected, hverdict, -⟩ := runnable_iff.mp hrunnable
      rw [hselected, hstep, hverdict] at hover
      cases hover
    · rename_i hover
      rw [Bool.or_eq_true, not_or, Bool.not_eq_true', Bool.not_eq_false, Bool.not_eq_true,
        Option.isSome_eq_false_iff, Option.isNone_iff_eq_none] at hover
      split
      · -- frozen before
        rename_i hthere
        rw [h.cellExists_eq hplain hmem, Option.isSome_iff_exists] at hthere
        obtain ⟨report, hreport⟩ := hthere
        rw [h.loadCell_eq hmem hreport]
        refine hskip fun _ hrunnable => ?_
        have hsome := h.isSome_frozenReport hmem
        rw [hreport, (runnable_iff.mp hrunnable).2.2] at hsome
        cases hsome
      · rename_i habsent
        split
        · -- the limit is reached
          rename_i hlimit
          refine hskip fun hbelow => ?_
          rw [below_iff.mpr hbelow] at hlimit
          cases hlimit
        · rename_i hlimit
          have hbelow := below_iff.mp (Bool.not_eq_true _ ▸ hlimit)
          have hrunnable : runnable rounded runner options state.evidence cell = true := by
            rw [Bool.not_eq_true, h.cellExists_eq hplain hmem, h.isSome_frozenReport hmem,
              Option.isSome_eq_false_iff, Option.isNone_iff_eq_none] at habsent
            exact runnable_iff.mpr ⟨hover.1, (hstep _).symm.trans hover.2, habsent⟩
          have hnext : nextCell rounded runner options state.evidence = some cell := by
            rw [nextCell, hcells, List.find?_append,
              List.find?_eq_none.mpr (hpassed hbelow), Option.none_or,
              List.find?_cons_of_pos hrunnable]
          have hexecuted := executeCell_follows call hplain h hstep hnext
          cases hlater : executeCell rounded runner options call cell state with
          | error ended =>
            rw [hlater] at hexecuted
            exact hexecuted
          | ok later =>
            rw [hlater] at hexecuted
            refine Follows.head hexecuted.step hexecuted.size ?_
            rw [← hexecuted.executed]
            refine ih (passed ++ [cell]) later hsnoc (h.advances hexecuted.step)
              hexecuted.inStep fun _ other hother hagain => ?_
            have hmember : other ∈ runner.cells := by
              rw [hsnoc]
              exact List.mem_append_left _ hother
            obtain ⟨hbefore, hne⟩ := hexecuted.runnable other hmember hagain
            rcases List.mem_append.mp hother with hother | hother
            · exact hpassed hbelow other hother hbefore
            · exact hne (List.mem_singleton.mp hother)

end Execute

section Calls

variable {call last : RunCall} {calls : List RunCall} {root : ExperimentRoot}

/-- The call dies, if it dies, when it has just frozen a cell. -/
def RunCall.CrashesBetween (call : RunCall) : Prop := ∀ crash ∈ call.crash, crash.2 = .renamed

theorem runExperiment_refused {error : String} (hoptions : options.check runner = .error error)
    (call : RunCall) (root : ExperimentRoot) :
    (runExperiment rounded runner options call root).2 = ⟨root, Dict.empty, 0⟩ := by
  rw [runExperiment]
  split
  · rfl
  · rw [hoptions]

variable (rounded) in
theorem runExperiment_follows (hplain : PlainIds runner) (hoptions : options.check runner = .ok ())
    (h : Sound runner root.evidence) (hmax : call.maxCells ≠ some 0) :
    Follows rounded runner options call root.evidence 0
      (runExperiment rounded runner options call root) := by
  obtain ⟨stopped, hgates, hstopped⟩ := h.startGates_inStep rounded hplain hoptions
  rw [runExperiment, if_neg hmax, hoptions]
  simp only [hgates]
  exact runCells_follows hplain runner.cells [] ⟨root, stopped, 0⟩ rfl h hstopped
    fun _ _ => nofun

theorem Follows.walk_of_renamed {before : Nat} {start : CellEvidence} {state : RunState}
    (hplain : PlainIds runner) (h : Sound runner start)
    (hfollows : Follows rounded runner options call start before (.crashed cell .renamed, state)) :
    ReflTransGen (Advances rounded runner options) start state.evidence := by
  obtain ⟨evidence, between, made, number, hwalk, hnext, hmake, hstate, -⟩ := hfollows
  have hmem := mem_of_nextCell hnext
  have hmade := makeCell_made hmake
  have hbetween := hmade.sound (h.walk hwalk)
  have habsent : cellExists between cell = false := by
    rw [hbetween.cellExists_eq hplain hmem, hbetween.isSome_frozenReport hmem, hmade.cells,
      (runnable_iff.mp (runnable_of_nextCell hnext)).2.2]
    rfl
  refine hwalk.tail ⟨cell, hnext, ?_⟩
  rw [executed, hmake, hstate, interruptFreeze,
    freezeCell_eq (hplain cell.2 (condition_mem_of_mem_cells hmem)) habsent]

variable (rounded call) in
theorem runExperiment_walk (hplain : PlainIds runner) (hoptions : options.check runner = .ok ())
    (h : Sound runner root.evidence) (hcrash : call.CrashesBetween) :
    ReflTransGen (Advances rounded runner options) root.evidence
      (runExperiment rounded runner options call root).2.evidence := by
  by_cases hmax : call.maxCells = some 0
  · rw [runExperiment, if_pos hmax]
  · have hfollows := runExperiment_follows rounded hplain hoptions h hmax
    generalize runExperiment rounded runner options call root = ended at hfollows ⊢
    obtain ⟨ending, state⟩ := ended
    cases ending with
    | finished summary => exact hfollows.1
    | raised error => exact hfollows.1
    | crashed cell point =>
      have hpoint : point = .renamed := by
        obtain ⟨-, -, -, -, -, -, -, -, hpoint, -⟩ := hfollows
        obtain ⟨crash, hmem, rfl⟩ := Option.map_eq_some_iff.mp hpoint
        exact hcrash crash hmem
      subst hpoint
      exact hfollows.walk_of_renamed hplain h

variable (rounded) in
theorem rootAfter_walk (hplain : PlainIds runner) (hoptions : options.check runner = .ok ())
    (h : Sound runner root.evidence) (hcalls : ∀ call ∈ calls, call.CrashesBetween) :
    ReflTransGen (Advances rounded runner options) root.evidence
      (rootAfter rounded runner options root calls).evidence := by
  induction calls generalizing root with
  | nil => exact ReflTransGen.refl
  | cons call rest ih =>
    have hfirst := runExperiment_walk rounded call hplain hoptions h
      (hcalls call List.mem_cons_self)
    exact hfirst.trans (ih (h.walk hfirst) fun other hother =>
      hcalls other (List.mem_cons_of_mem _ hother))

variable (rounded call) in
theorem runExperiment_settled (hplain : PlainIds runner)
    (hoptions : options.check runner = .ok ()) (h : Sound runner root.evidence)
    (hmax : call.maxCells ≠ some 0) (hcrash : call.CrashesBetween)
    (hidle : (runExperiment rounded runner options call root).2.executed = 0 ∨ call = .unlimited) :
    InStep rounded runner options (runExperiment rounded runner options call root).2.evidence
        (runExperiment rounded runner options call root).2.stopped ∧
      Settled rounded runner options
        (runExperiment rounded runner options call root).2.evidence := by
  have hfollows := runExperiment_follows rounded hplain hoptions h hmax
  generalize runExperiment rounded runner options call root = ended at hfollows hidle ⊢
  obtain ⟨ending, state⟩ := ended
  cases ending with
  | finished summary =>
    refine ⟨hfollows.2.1, hfollows.2.2.2 fun limit hlimit => ?_⟩
    rcases hidle with hnone | rfl
    · rw [hnone]
      exact Nat.pos_of_ne_zero fun hzero => hmax (hlimit.trans (congrArg some hzero))
    · cases hlimit
  | raised error => exact ⟨hfollows.2.1, hfollows.2.2.2⟩
  | crashed cell point =>
    obtain ⟨-, -, -, -, -, -, -, -, hpoint, hexecuted⟩ := hfollows
    obtain ⟨crash, hmem, rfl⟩ := Option.map_eq_some_iff.mp hpoint
    rcases hidle with hnone | rfl
    · exact absurd hnone (hexecuted (hcrash crash hmem))
    · cases hmem

/-- Work that was split over calls ends like one call. -/
theorem split_run_eq_whole_run (hplain : PlainIds runner) (h : Sound runner root.evidence)
    (hcalls : ∀ call ∈ calls, call.CrashesBetween) (hlast : last.CrashesBetween)
    (hmax : last.maxCells ≠ some 0)
    (hidle : (runExperiment rounded runner options last
      (rootAfter rounded runner options root calls)).2.executed = 0) :
    let resumed := (runExperiment rounded runner options last
      (rootAfter rounded runner options root calls)).2
    let whole := (runExperiment rounded runner options .unlimited root).2
    resumed.evidence.cells = whole.evidence.cells ∧
      ∀ mechanism, resumed.stopped.get? mechanism = whole.stopped.get? mechanism := by
  intro resumed whole
  cases hoptions : options.check runner with
  | error error =>
      have hsame : rootAfter rounded runner options root calls = root := by
        clear hcalls hidle
        induction calls with
        | nil => rfl
        | cons call rest ih =>
            rw [rootAfter, Library.run, List.foldl_cons,
              congrArg RunState.toExperimentRoot (runExperiment_refused hoptions call root)]
            exact ih
      rw [show resumed = ⟨root, Dict.empty, 0⟩ by
          rw [← hsame]; exact runExperiment_refused hoptions last _,
        show whole = ⟨root, Dict.empty, 0⟩ from runExperiment_refused hoptions .unlimited root]
      exact ⟨rfl, fun _ => rfl⟩
  | ok _ =>
      have hwalked := rootAfter_walk rounded hplain hoptions h hcalls
      have hlater := h.walk hwalked
      have hresumed := hwalked.trans
        (runExperiment_walk rounded last hplain hoptions hlater hlast)
      have hwhole := runExperiment_walk rounded .unlimited hplain hoptions h
        (fun _ hcrash => nomatch hcrash)
      obtain ⟨hstopped, hsettled⟩ := runExperiment_settled rounded last hplain hoptions hlater
        hmax hlast (Or.inl hidle)
      obtain ⟨hstoppedWhole, hsettledWhole⟩ := runExperiment_settled rounded
        .unlimited hplain hoptions h nofun (fun _ hcrash => nomatch hcrash) (Or.inr rfl)
      have hcells : resumed.evidence.cells = whole.evidence.cells :=
        seen_eq_of_settled advances_rightUnique hresumed hwhole hsettled hsettledWhole
      refine ⟨hcells, fun mechanism => ?_⟩
      rw [hstopped mechanism, hstoppedWhole mechanism]
      exact verdict_congr_cells hcells mechanism

variable (call) in
theorem executed_eq_zero_of_settled (hplain : PlainIds runner)
    (hoptions : options.check runner = .ok ()) (h : Sound runner root.evidence)
    (hsettled : Settled rounded runner options root.evidence) (hmax : call.maxCells ≠ some 0)
    (hcrash : call.crash = none) :
    (runExperiment rounded runner options call root).2.executed = 0 := by
  have hfollows := runExperiment_follows rounded hplain hoptions h hmax
  generalize runExperiment rounded runner options call root = ended at hfollows ⊢
  obtain ⟨ending, state⟩ := ended
  cases ending with
  | finished summary =>
    obtain ⟨hwalk, -, hcount, -⟩ := hfollows
    rw [hsettled _ hwalk, Nat.zero_add] at hcount
    exact Nat.add_eq_right.mp hcount
  | raised error =>
    obtain ⟨hwalk, -, hcount, -⟩ := hfollows
    rw [hsettled _ hwalk, Nat.zero_add] at hcount
    exact Nat.add_eq_right.mp hcount
  | crashed cell point =>
    obtain ⟨-, -, -, -, -, -, -, -, hpoint, -⟩ := hfollows
    rw [hcrash] at hpoint
    cases hpoint

theorem executed_after_unlimited (hplain : PlainIds runner)
    (hoptions : options.check runner = .ok ()) (h : Sound runner root.evidence)
    (hcalls : ∀ call ∈ calls, call.CrashesBetween) :
    (runExperiment rounded runner options .unlimited
      (rootAfter rounded runner options root (calls ++ [.unlimited]))).2.executed = 0 := by
  have hmax : RunCall.unlimited.maxCells ≠ some 0 := nofun
  have hwhole : RunCall.unlimited.CrashesBetween := fun _ hcrash => nomatch hcrash
  have hbefore := h.walk (rootAfter_walk rounded hplain hoptions h hcalls)
  rw [rootAfter, Library.run_append]
  refine executed_eq_zero_of_settled .unlimited hplain hoptions ?_ ?_ hmax rfl
  · exact hbefore.walk (runExperiment_walk rounded .unlimited hplain hoptions hbefore hwhole)
  · exact (runExperiment_settled rounded .unlimited hplain hoptions hbefore hmax hwhole
      (Or.inr rfl)).2

end Calls

/-! ## Conditions that name a folder -/

section Dotted

variable {dottedCell : Cell}

theorem loadCell_error_of_dotted
    (hnever : evidence.folder? dottedCell.1.taskId dottedCell.2.conditionId = none) :
    loadCell runner evidence dottedCell = .error "experiment cell evidence is unreadable" := by
  rw [loadCell, hnever]

theorem summarize_error_of_dotted (hmem : dottedCell ∈ runner.cells)
    (hthere : cellExists evidence dottedCell = true)
    (hnever : evidence.folder? dottedCell.1.taskId dottedCell.2.conditionId = none)
    (stopped : Dict String StoppedMechanism) :
    ∃ error, summarize runner evidence stopped = .error error := by
  cases hsummary : summarize runner evidence stopped with
  | error error => exact ⟨error, rfl⟩
  | ok summary =>
    rw [summarize, except_bind_ok_iff] at hsummary
    obtain ⟨reports, hreports, -⟩ := hsummary
    obtain ⟨report, hload⟩ := mapM_ok_mem hreports (List.mem_filter.mpr ⟨hmem, hthere⟩)
    rw [loadCell_error_of_dotted hnever] at hload
    cases hload

theorem executeCell_raises_of_dotted {call : RunCall} {state : RunState}
    (hfutility : options.futilityMinCells = none) (hcrash : call.crash = none)
    (hmake : makeCell runner state.evidence cell = (.ok made, after))
    (hplain : dotted cell.2.conditionId = false) (habsent : cellExists after cell = false)
    (hmem : dottedCell ∈ runner.cells)
    (hthere : cellExists (withCell runner after cell made) dottedCell = true)
    (hnever : (withCell runner after cell made).folder? dottedCell.1.taskId
      dottedCell.2.conditionId = none) :
    ∃ error, executeCell rounded runner options call cell state =
      .error (.raised error, { state with
        evidence := withCell runner after cell made, executed := state.executed + 1 }) := by
  obtain ⟨error, hsummary⟩ := summarize_error_of_dotted hmem hthere hnever state.stopped
  refine ⟨error, ?_⟩
  rw [executeCell, hmake]
  simp only [RunCall.crashIn, hcrash, Option.bind_none, freezeCell_eq hplain habsent, afterFreeze,
    applyFutilityGate, hfutility, hsummary]

section Loop

variable {call : RunCall} {state : RunState} {rest : List Cell}
  (hselected : selected options cell = true)
  (hgoing : (state.stopped.get? cell.2.mechanism).isSome = false)

include hselected hgoing

theorem runCells_of_loaded (hthere : cellExists state.evidence cell = true) {report : CellReport}
    (hload : loadCell runner state.evidence cell = .ok report) :
    runCells rounded runner options call (cell :: rest) state =
      runCells rounded runner options call rest state := by
  rw [runCells, hselected, hgoing, Bool.not_true, Bool.or_self, if_neg Bool.false_ne_true,
    if_pos hthere, hload]

theorem runCells_of_unloaded (hthere : cellExists state.evidence cell = true) {error : String}
    (hload : loadCell runner state.evidence cell = .error error) :
    runCells rounded runner options call (cell :: rest) state = (.raised error, state) := by
  rw [runCells, hselected, hgoing, Bool.not_true, Bool.or_self, if_neg Bool.false_ne_true,
    if_pos hthere, hload]

theorem runCells_of_ended (habsent : cellExists state.evidence cell = false)
    (hlimit : call.maxCells = none) {ended : RunEnding × RunState}
    (hexecute : executeCell rounded runner options call cell state = .error ended) :
    runCells rounded runner options call (cell :: rest) state = ended := by
  rw [runCells, hselected, hgoing, Bool.not_true, Bool.or_self, if_neg Bool.false_ne_true,
    habsent, if_neg Bool.false_ne_true, hlimit, Option.any_none, if_neg Bool.false_ne_true,
    hexecute]

end Loop

end Dotted

/-! ## Six tasks -/

namespace SixTasks

def taskName : Fin 6 → String
  | 0 => "t1"
  | 1 => "t2"
  | 2 => "t3"
  | 3 => "t4"
  | 4 => "t5"
  | 5 => "t6"

theorem taskName_valid : ∀ n, isEvaluationIdentifier (taskName n) = true := by
  decide

def task (n : Fin 6) : EvaluationTask where
  taskId := taskName n
  cohort := if n < 3 then .feedback else .holdout
  fingerprint := "fingerprint of " ++ taskName n
  id_valid := taskName_valid n

def tasks : List EvaluationTask := (List.finRange 6).map task

theorem tasks_feedback : 3 ≤ tasks.countP fun task => task.cohort = .feedback := by
  decide

theorem tasks_holdout : 3 ≤ tasks.countP fun task => task.cohort = .holdout := by
  decide

theorem tasks_unique : (tasks.map EvaluationTask.taskId).Nodup := by
  decide

def taskset : EvaluationTaskSet := ⟨"six", tasks, "six tasks", tasks_feedback, tasks_holdout,
  tasks_unique⟩

def revision : LoopRevision where
  schemaVersion := .int 1
  skillId := "skill"
  revisionId := "skill-r001"
  parentRevisionId := none
  sourceRound := 1
  protocol := "protocol"
  skillText := "text"
  promptTemplate := "prompt"
  evalNote := "note"

theorem mechanism_valid : isText "structured" = true := by
  decide

def condition (conditionId : String) (teaching : TeachingArm)
    (h : isConditionId conditionId = true) : ExperimentCondition :=
  ⟨conditionId, "structured", teaching, revision, "fingerprint of " ++ conditionId, h,
    mechanism_valid⟩

theorem baseline_valid : isConditionId "baseline" = true := by
  decide

theorem taught_valid : isConditionId "taught" = true := by
  decide

theorem here_valid : isConditionId "." = true := by
  decide

def baseline : ExperimentCondition := condition "baseline" .baseline baseline_valid

def taught : ExperimentCondition := condition "taught" .taught taught_valid

def here : ExperimentCondition := condition "." .taught here_valid

def attempt : StudentRun := ⟨"no edit", "", false, some "no-diff", [], none, []⟩

def madeCell : MadeCell := ⟨attempt, none⟩

def adapter : StudentAdapter := ⟨none, false, fun _ _ _ => .ok attempt⟩

def experiment (conditions : List ExperimentCondition)
    (h : (conditions.map ExperimentCondition.conditionId).Nodup) : PairedExperimentRunner where
  taskset := taskset
  adapters _ := adapter
  conditions := conditions
  conditions_unique := h
  qualificationFingerprint := none
  mechanismRoutes := none
  sharedContextSource := Dict.empty
  preflight := .ok ()
  checkout _ := .ok ()

def everyCell : RunOptions := ⟨none, none, none, 0⟩

def emptyRoot : ExperimentRoot := ⟨CellEvidence.empty, none⟩

theorem paired_unique : ([baseline, taught].map ExperimentCondition.conditionId).Nodup := by
  decide

def paired : PairedExperimentRunner := experiment [baseline, taught] paired_unique

theorem paired_plain : PlainIds paired := by
  intro condition hcondition
  rcases List.mem_pair.mp hcondition with rfl | rfl
  · decide
  · decide

/-- One cell, then the rest, then nothing. -/
theorem paired_split :
    (runExperiment id paired everyCell .unlimited (rootAfter id paired everyCell
        emptyRoot ([⟨some 1, none, fun _ => ""⟩] ++ [.unlimited]))).2.evidence.cells =
      (runExperiment id paired everyCell .unlimited emptyRoot).2.evidence.cells := by
  have hempty : Sound paired emptyRoot.evidence := sound_empty paired
  have hwhole : RunCall.unlimited.CrashesBetween := fun _ hcrash => nomatch hcrash
  have hone : ∀ call ∈ [(⟨some 1, none, fun _ => ""⟩ : RunCall)], call.CrashesBetween := by
    intro call hcall
    rw [List.mem_singleton.mp hcall]
    exact fun _ hcrash => nomatch hcrash
  have hmax : RunCall.unlimited.maxCells ≠ some 0 := nofun
  refine (split_run_eq_whole_run paired_plain hempty ?_ hwhole hmax
    (executed_after_unlimited paired_plain rfl hempty hone)).1
  intro call hcall
  rcases List.mem_append.mp hcall with hcall | hcall
  · exact hone call hcall
  · rw [List.mem_singleton.mp hcall]
    exact hwhole

/-! ### A condition that names the folder of the task -/

theorem dotted_unique : ([baseline, taught, here].map ExperimentCondition.conditionId).Nodup := by
  decide

def dottedExperiment : PairedExperimentRunner := experiment [baseline, taught, here] dotted_unique

def firstCell : Cell := (task 0, baseline)

def secondCell : Cell := (task 0, taught)

def dottedCell : Cell := (task 0, here)

def cellsLeft : List Cell :=
  (tasks.drop 1).flatMap fun task => [baseline, taught, here].map (task, ·)

theorem dotted_cells :
    dottedExperiment.cells = firstCell :: secondCell :: dottedCell :: cellsLeft := rfl

theorem makeCell_dotted (evidence : CellEvidence) (cell : Cell) :
    makeCell dottedExperiment evidence cell = (.ok madeCell, evidence) := rfl

def oneFrozen : CellEvidence := withCell dottedExperiment CellEvidence.empty firstCell madeCell

def twoFrozen : CellEvidence := withCell dottedExperiment oneFrozen secondCell madeCell

theorem oneFrozen_dotted : cellExists oneFrozen dottedCell = true ∧
    oneFrozen.folder? dottedCell.1.taskId dottedCell.2.conditionId = none := ⟨rfl, rfl⟩

theorem twoFrozen_dotted : cellExists twoFrozen dottedCell = true ∧
    twoFrozen.folder? dottedCell.1.taskId dottedCell.2.conditionId = none := ⟨rfl, rfl⟩

theorem oneFrozen_there : cellExists oneFrozen firstCell = true := rfl

theorem twoFrozen_there : cellExists twoFrozen firstCell = true ∧
    cellExists twoFrozen secondCell = true := ⟨rfl, rfl⟩

theorem loadCell_oneFrozen :
    loadCell dottedExperiment oneFrozen firstCell =
      .ok (reportOf dottedExperiment firstCell madeCell) :=
  loadCell_frozenFolder rfl nofun

theorem loadCell_twoFrozen :
    loadCell dottedExperiment twoFrozen firstCell =
        .ok (reportOf dottedExperiment firstCell madeCell) ∧
      loadCell dottedExperiment twoFrozen secondCell =
        .ok (reportOf dottedExperiment secondCell madeCell) :=
  ⟨loadCell_frozenFolder rfl nofun, loadCell_frozenFolder rfl nofun⟩

theorem runExperiment_dotted (rounded : ℚ → ℚ) (evidence : CellEvidence) :
    runExperiment rounded dottedExperiment everyCell .unlimited ⟨evidence, none⟩ =
      runCells rounded dottedExperiment everyCell .unlimited dottedExperiment.cells
        ⟨⟨evidence, none⟩, Dict.empty, 0⟩ := rfl

theorem dotted_mem : dottedCell ∈ dottedExperiment.cells := by
  rw [dotted_cells]
  exact List.mem_cons_of_mem _ (List.mem_cons_of_mem _ List.mem_cons_self)

section Calls

variable (rounded : ℚ → ℚ)

theorem runCells_past {evidence : CellEvidence} {cell : Cell} (rest : List Cell)
    (hthere : cellExists evidence cell = true) {report : CellReport}
    (hload : loadCell dottedExperiment evidence cell = .ok report) :
    runCells rounded dottedExperiment everyCell .unlimited (cell :: rest)
        ⟨⟨evidence, none⟩, Dict.empty, 0⟩ =
      runCells rounded dottedExperiment everyCell .unlimited rest
        ⟨⟨evidence, none⟩, Dict.empty, 0⟩ :=
  runCells_of_loaded rfl rfl hthere hload

theorem first_call : ∃ error,
    runExperiment rounded dottedExperiment everyCell .unlimited emptyRoot =
      (.raised error, ⟨⟨oneFrozen, none⟩, Dict.empty, 1⟩) := by
  have hexecute : ∃ error, executeCell rounded dottedExperiment everyCell .unlimited firstCell
      ⟨emptyRoot, Dict.empty, 0⟩ = .error (.raised error, ⟨⟨oneFrozen, none⟩, Dict.empty, 1⟩) :=
    executeCell_raises_of_dotted rfl rfl (makeCell_dotted CellEvidence.empty firstCell) rfl rfl
      dotted_mem oneFrozen_dotted.1 oneFrozen_dotted.2
  obtain ⟨error, herror⟩ := hexecute
  refine ⟨error, ?_⟩
  rw [emptyRoot, runExperiment_dotted, dotted_cells]
  exact runCells_of_ended rfl rfl rfl rfl herror

theorem second_call : ∃ error,
    runExperiment rounded dottedExperiment everyCell .unlimited ⟨oneFrozen, none⟩ =
      (.raised error, ⟨⟨twoFrozen, none⟩, Dict.empty, 1⟩) := by
  have hexecute : ∃ error, executeCell rounded dottedExperiment everyCell .unlimited secondCell
      ⟨⟨oneFrozen, none⟩, Dict.empty, 0⟩ =
        .error (.raised error, ⟨⟨twoFrozen, none⟩, Dict.empty, 1⟩) :=
    executeCell_raises_of_dotted rfl rfl (makeCell_dotted oneFrozen secondCell) rfl rfl
      dotted_mem twoFrozen_dotted.1 twoFrozen_dotted.2
  obtain ⟨error, herror⟩ := hexecute
  refine ⟨error, ?_⟩
  rw [runExperiment_dotted, dotted_cells]
  rw [runCells_past rounded _ oneFrozen_there loadCell_oneFrozen]
  exact runCells_of_ended rfl rfl rfl rfl herror

theorem third_call : ∃ error,
    runExperiment rounded dottedExperiment everyCell .unlimited ⟨twoFrozen, none⟩ =
      (.raised error, ⟨⟨twoFrozen, none⟩, Dict.empty, 0⟩) := by
  refine ⟨"experiment cell evidence is unreadable", ?_⟩
  rw [runExperiment_dotted, dotted_cells]
  rw [runCells_past rounded _ twoFrozen_there.1 loadCell_twoFrozen.1,
    runCells_past rounded _ twoFrozen_there.2 loadCell_twoFrozen.2]
  exact runCells_of_unloaded rfl rfl twoFrozen_dotted.1
    (loadCell_error_of_dotted twoFrozen_dotted.2)

theorem rootAfter_dotted :
    rootAfter rounded dottedExperiment everyCell emptyRoot [.unlimited, .unlimited] =
      ⟨twoFrozen, none⟩ := by
  obtain ⟨firstError, hfirst⟩ := first_call rounded
  obtain ⟨secondError, hsecond⟩ := second_call rounded
  rw [rootAfter, Library.run, List.foldl_cons, List.foldl_cons, List.foldl_nil, hfirst, hsecond]

theorem resumed_dotted :
    (runExperiment rounded dottedExperiment everyCell .unlimited (rootAfter rounded
      dottedExperiment everyCell emptyRoot [.unlimited, .unlimited])).2 =
        ⟨⟨twoFrozen, none⟩, Dict.empty, 0⟩ := by
  obtain ⟨thirdError, hthird⟩ := third_call rounded
  rw [rootAfter_dotted, hthird]

theorem whole_dotted :
    (runExperiment rounded dottedExperiment everyCell .unlimited emptyRoot).2 =
      ⟨⟨oneFrozen, none⟩, Dict.empty, 1⟩ := by
  obtain ⟨firstError, hfirst⟩ := first_call rounded
  rw [hfirst]

theorem secondCell_mem : secondCell.key ∈ twoFrozen.cells.keys := by
  decide

theorem secondCell_not_mem : secondCell.key ∉ oneFrozen.cells.keys := by
  decide

end Calls

/-- Split over calls the work freezes a cell that one call does not. -/
theorem dotted_split :
    let rounded := fun rate => rate
    let calls := [RunCall.unlimited, .unlimited]
    let resumed := runExperiment rounded dottedExperiment everyCell .unlimited
      (rootAfter rounded dottedExperiment everyCell emptyRoot calls)
    let whole := runExperiment rounded dottedExperiment everyCell .unlimited emptyRoot
    resumed.2.executed = 0 ∧ secondCell.key ∈ resumed.2.evidence.cells.keys ∧
      secondCell.key ∉ whole.2.evidence.cells.keys := by
  have hresumed := resumed_dotted fun rate => rate
  have hwhole := whole_dotted fun rate => rate
  dsimp only
  rw [hresumed, hwhole]
  exact ⟨rfl, secondCell_mem, secondCell_not_mem⟩

end SixTasks

end JlensEvolve.SkillLoop
