import JlensEvolve.Epistasis.Search

/-!
What a search cell returns. The best program is only ever replaced by an
accepted candidate that passes more cases; such a candidate did load, so its
metrics name every case, and acceptance then means that no case was lost.
-/

namespace JlensEvolve.Epistasis

open Library

variable {Records Output : Type} [BEq Output] (sandbox : Sandbox Records Output)
  {task : TaskSpec Records Output}

/-- Whatever the first program passes, the second passes. -/
def Keeps (task : TaskSpec Records Output) (parent candidate : String) : Prop :=
  ∀ case ∈ task.publicCases, passes sandbox parent case = true →
    passes sandbox candidate case = true

theorem loads_of_passed_pos {source : String}
    (h : 0 < (task.scoreSource sandbox source).passedCases) :
    ∃ solve, sandbox.load source = some solve := by
  rw [TaskSpec.scoreSource, scoreTaskSource] at h
  cases hload : sandbox.load source with
  | none => simp [hload] at h
  | some solve => exact ⟨solve, rfl⟩

theorem loads_of_passes {source : String} {case : EvalCase Records Output}
    (h : passes sandbox source case = true) : ∃ solve, sandbox.load source = some solve := by
  rw [passes] at h
  cases hload : sandbox.load source with
  | none => simp [hload] at h
  | some solve => exact ⟨solve, rfl⟩

theorem get?_scoreSource {source : String} {solve : Records → Option Output}
    (hload : sandbox.load source = some solve) {case : EvalCase Records Output}
    (hcase : case ∈ task.publicCases) :
    (admissionMetrics (task.scoreSource sandbox source)).get? (caseKey case.id) =
      some (if passes sandbox source case then 1 else 0) := by
  have hpasses : passes sandbox source case = casePassed solve case := by
    rw [passes, hload]
  have hscore : task.scoreSource sandbox source = scoreCases solve task.publicCases := by
    rw [TaskSpec.scoreSource, scoreTaskSource, hload]
  have hdistinct : ((scoreCases solve task.publicCases).caseResults.map (·.id)).Nodup := by
    rw [scoreCases, List.map_map]
    exact task.distinct_ids
  have hrow : (⟨case.id, casePassed solve case⟩ : CaseResult) ∈
      (scoreCases solve task.publicCases).caseResults :=
    List.mem_map.mpr ⟨case, hcase, rfl⟩
  rw [hscore, hpasses]
  exact get?_admissionMetrics hdistinct hrow

theorem metric_scoreSource {source : String} {solve : Records → Option Output}
    (hload : sandbox.load source = some solve) {case : EvalCase Records Output}
    (hcase : case ∈ task.publicCases) :
    metric (admissionMetrics (task.scoreSource sandbox source)) (caseKey case.id) =
      if passes sandbox source case then 1 else 0 := by
  rw [metric, get?_scoreSource sandbox hload hcase, Option.getD_some]

theorem caseKey_mem_keys {source : String} {solve : Records → Option Output}
    (hload : sandbox.load source = some solve) {case : EvalCase Records Output}
    (hcase : case ∈ task.publicCases) :
    caseKey case.id ∈ (admissionMetrics (task.scoreSource sandbox source)).keys.filter
      (startsWith · casePrefix) := by
  refine List.mem_filter.mpr ⟨?_, startsWith_caseKey case.id⟩
  by_contra habsent
  have hnone := (Dict.get?_eq_none_iff _ _).mpr habsent
  rw [get?_scoreSource sandbox hload hcase] at hnone
  cases hnone

theorem keeps_of_not_regressed {parent candidate : String} {solve : Records → Option Output}
    (hload : sandbox.load candidate = some solve) {keys : List String}
    (hkeys : ∀ case ∈ task.publicCases, caseKey case.id ∈ keys)
    (h : regressed (admissionMetrics (task.scoreSource sandbox candidate))
      (admissionMetrics (task.scoreSource sandbox parent)) keys = []) :
    Keeps sandbox task parent candidate := by
  intro case hcase hparent
  obtain ⟨run, hrun⟩ := loads_of_passes sandbox hparent
  have hkept := List.filter_eq_nil_iff.mp h _ (hkeys case hcase)
  rw [metric_scoreSource sandbox hload hcase, metric_scoreSource sandbox hrun hcase, hparent]
    at hkept
  by_contra hfails
  apply hkept
  rw [if_neg hfails]
  decide

/-- What holds of a search after any number of iterations. -/
structure SearchState.Sound (task : TaskSpec Records Output) (state : SearchState) : Prop where
  bestPassed_eq : (task.scoreSource sandbox state.bestSource).passedCases = state.bestPassed
  keeps : Keeps sandbox task task.initialSource state.bestSource
  rising : (state.events.map (·.parentPassed) ++ [state.bestPassed]).Pairwise (· ≤ ·)
  improved : (task.scoreSource sandbox task.initialSource).passedCases + state.improvedCount ≤
    state.bestPassed

theorem sound_initialState (task : TaskSpec Records Output) :
    (initialState sandbox task).Sound sandbox task where
  bestPassed_eq := rfl
  keeps := fun _ _ h => h
  rising := List.pairwise_singleton _ _
  improved := le_rfl

theorem rising_concat {counts : List Nat} {best next : Nat}
    (h : (counts ++ [best]).Pairwise (· ≤ ·)) (hle : best ≤ next) :
    (counts ++ [best] ++ [next]).Pairwise (· ≤ ·) := by
  refine List.pairwise_append.mpr ⟨h, List.pairwise_singleton _ _, ?_⟩
  intro count hcount last hlast
  rw [List.mem_singleton.mp hlast]
  rcases List.mem_append.mp hcount with hearlier | hbest
  · exact ((List.pairwise_append.mp h).2.2 count hearlier best List.mem_cons_self).trans hle
  · rw [List.mem_singleton.mp hbest]
    exact hle

namespace SearchState

variable {sandbox} {state : SearchState}

theorem Sound.unscored (h : state.Sound sandbox task) (changed : Bool) {event : AttemptEvent}
    (hevent : event.parentPassed = state.bestPassed) :
    ((state.unscored changed).record event).Sound sandbox task := by
  have hrising : (state.events.map (·.parentPassed) ++ [event.parentPassed] ++
      [state.bestPassed]).Pairwise (· ≤ ·) := by
    rw [hevent]
    exact rising_concat h.rising le_rfl
  rw [← List.map_singleton (f := AttemptEvent.parentPassed), ← List.map_append] at hrising
  cases changed
  · exact ⟨h.bestPassed_eq, h.keeps, hrising, h.improved⟩
  · exact ⟨h.bestPassed_eq, h.keeps, hrising, h.improved⟩

/-- A candidate was scored. It matters only whether it takes the place of the
best program: then it is accepted and passes more cases. -/
theorem Sound.scored (h : state.Sound sandbox task) {candidate : String} {accepted : Bool}
    (hkeeps : accepted = true →
      state.bestPassed < (task.scoreSource sandbox candidate).passedCases →
        Keeps sandbox task state.bestSource candidate)
    {event : AttemptEvent} (hevent : event.parentPassed = state.bestPassed) :
    ((state.scored candidate (task.scoreSource sandbox candidate).passedCases
      (task.scoreSource sandbox state.bestSource).passedCases accepted).record event).Sound
        sandbox task := by
  have hrising : ∀ next, state.bestPassed ≤ next →
      ((state.events ++ [event]).map (·.parentPassed) ++ [next]).Pairwise (· ≤ ·) := by
    intro next hle
    rw [List.map_append, List.map_singleton, hevent]
    exact rising_concat h.rising hle
  rw [h.bestPassed_eq]
  by_cases hreplaced : accepted = true ∧
      state.bestPassed < (task.scoreSource sandbox candidate).passedCases
  · have hkept := hkeeps hreplaced.1 hreplaced.2
    have himproved := h.improved
    refine ⟨?_, ?_, ?_, ?_⟩ <;>
      simp only [SearchState.record, SearchState.scored, if_pos hreplaced]
    · exact fun case hcase hinitial => hkept case hcase (h.keeps case hcase hinitial)
    · exact hrising _ hreplaced.2.le
    · omega
  · refine ⟨?_, ?_, ?_, ?_⟩ <;>
      simp only [SearchState.record, SearchState.scored, if_neg hreplaced]
    · exact h.bestPassed_eq
    · exact h.keeps
    · exact hrising _ le_rfl
    · exact h.improved

end SearchState

namespace CellCall

variable {sandbox} {call : CellCall Records Output} {generator : Generator}

theorem sound_assessed {state : SearchState} (h : state.Sound sandbox call.task)
    {policy : AdmissionPolicy} (hpolicy : policy.protectedMetricPrefix = casePrefix)
    (iteration : Nat) (proposal : Proposal) :
    (call.assessed sandbox iteration policy state proposal).2.Sound sandbox call.task ∧
      (call.assessed sandbox iteration policy state proposal).1.protectedMetricPrefix =
        casePrefix := by
  obtain ⟨changed, postconditionOk, reason, candidate⟩ := proposal
  cases candidate with
  | none => exact ⟨h.unscored changed h.bestPassed_eq, hpolicy⟩
  | some candidate =>
    cases changed with
    | false => exact ⟨h.unscored false h.bestPassed_eq, hpolicy⟩
    | true =>
      refine ⟨h.scored ?_ h.bestPassed_eq,
        (policy.protectedMetricPrefix_assessAndRegister ..).trans hpolicy⟩
      intro haccepted hmore
      obtain ⟨solve, hload⟩ := loads_of_passed_pos sandbox (Nat.zero_lt_of_lt hmore)
      refine keeps_of_not_regressed sandbox hload ?_
        (policy.kept_of_accepted sandbox haccepted)
      intro case hcase
      rw [hpolicy, protectedKeys]
      exact (List.mem_insertionSort _).mpr (caseKey_mem_keys sandbox hload hcase)

theorem sound_attempts (iterations : Nat) :
    ∀ {policy : AdmissionPolicy} {state : SearchState},
      call.attempts sandbox generator iterations = .ok (policy, state) →
        state.Sound sandbox call.task ∧ policy.protectedMetricPrefix = casePrefix := by
  induction iterations with
  | zero =>
    intro policy state h
    cases h
    exact ⟨sound_initialState sandbox call.task, rfl⟩
  | succ iterations ih =>
    intro policy state h
    rw [attempts, except_bind_ok_iff] at h
    obtain ⟨⟨before, earlier⟩, hbefore, hattempt⟩ := h
    obtain ⟨composed, -, hafter⟩ := (except_bind_ok_iff _ _ _).mp hattempt
    obtain ⟨hsound, hpolicy⟩ := ih hbefore
    have hstep := sound_assessed hsound hpolicy (iterations + 1)
      (call.propose generator (iterations + 1) earlier.bestSource composed)
    rw [Except.ok.inj hafter] at hstep
    exact hstep

variable (sandbox) (generator) in
theorem attempts_known (hknown : ∀ id ∈ call.operatorIds, id ∈ allOperatorIds) (iterations : Nat) :
    ∃ policy state, call.attempts sandbox generator iterations = .ok (policy, state) := by
  induction iterations with
  | zero => exact ⟨_, _, rfl⟩
  | succ iterations ih =>
    obtain ⟨policy, state, hbefore⟩ := ih
    obtain ⟨composed, hcomposed⟩ :=
      applyOperators_known sandbox state.bestSource call.task.schema hknown
    let after := call.assessed sandbox (iterations + 1) policy state
      (call.propose generator (iterations + 1) state.bestSource composed)
    refine ⟨after.1, after.2, (except_bind_ok_iff _ _ _).mpr ⟨(policy, state), hbefore, ?_⟩⟩
    exact (except_bind_ok_iff _ _ _).mpr ⟨composed, hcomposed, rfl⟩

/-- The arguments that `run_cell` takes. -/
def Supported (call : CellCall Records Output) : Prop :=
  (call.mode = "deterministic" ∨
    call.mode = "llm" ∧ call.model ≠ none ∧
      (call.llmStyle = "scaffold" ∨ call.llmStyle = "free")) ∧
  ∀ id ∈ call.operatorIds, id ∈ allOperatorIds

omit [BEq Output] in
theorem generator_supported (h : call.Supported) : ∃ generator, call.generator = .ok generator := by
  obtain ⟨hmode, -⟩ := h
  rcases hmode with hmode | ⟨hmode, hmodel, hstyle⟩
  · exact ⟨.deterministic, by simp [CellCall.generator, hmode]⟩
  · obtain ⟨model, hmodel⟩ := Option.ne_none_iff_exists'.mp hmodel
    rcases hstyle with hstyle | hstyle
    · exact ⟨.scaffold model, by simp [CellCall.generator, hmode, hmodel, hstyle]⟩
    · exact ⟨.free model, by simp [CellCall.generator, hmode, hmodel, hstyle]⟩

end CellCall

namespace LineageCall

variable {sandbox} {call : LineageCall Records Output}

theorem sound_assessed {state : SearchState} (h : state.Sound sandbox call.task)
    (iteration : Nat) (composed : ComposeResult) :
    (call.assessed sandbox iteration state composed).Sound sandbox call.task := by
  rw [assessed]
  split
  · refine h.scored ?_ h.bestPassed_eq
    intro haccepted hmore
    obtain ⟨solve, hload⟩ := loads_of_passed_pos sandbox (Nat.zero_lt_of_lt hmore)
    refine keeps_of_not_regressed sandbox hload
      (fun case hcase => caseKey_mem_keys sandbox hload hcase) ?_
    by_contra hlost
    simp [hlost] at haccepted
  · exact h.unscored false h.bestPassed_eq

theorem sound_attempts (iterations : Nat) :
    ∀ {state : SearchState}, call.attempts sandbox iterations = .ok state →
      state.Sound sandbox call.task := by
  induction iterations with
  | zero =>
    intro state h
    cases h
    exact sound_initialState sandbox call.task
  | succ iterations ih =>
    intro state h
    rw [attempts, except_bind_ok_iff] at h
    obtain ⟨earlier, hbefore, hattempt⟩ := h
    obtain ⟨composed, -, hafter⟩ := (except_bind_ok_iff _ _ _).mp hattempt
    cases hafter
    exact sound_assessed (ih hbefore) (iterations + 1) composed

/-- The arguments that `run_lineage_cell` takes. -/
def Supported (call : LineageCall Records Output) : Prop :=
  call.operatorOrder ≠ [] ∧ ∀ id ∈ call.operatorOrder, id ∈ allOperatorIds

theorem operatorAt_mem (h : call.operatorOrder ≠ []) (iteration : Nat) :
    call.operatorAt iteration ∈ call.operatorOrder := by
  have hturn : (iteration - 1) % call.operatorOrder.length < call.operatorOrder.length :=
    Nat.mod_lt _ (List.length_pos_iff.mpr h)
  rw [operatorAt, List.getD_eq_getElem?_getD, List.getElem?_eq_getElem hturn]
  exact List.getElem_mem hturn

variable (sandbox) in
theorem attempts_supported (h : call.Supported) (iterations : Nat) :
    ∃ state, call.attempts sandbox iterations = .ok state := by
  induction iterations with
  | zero => exact ⟨_, rfl⟩
  | succ iterations ih =>
    obtain ⟨state, hbefore⟩ := ih
    have hknown : ∀ id ∈ [call.operatorAt (iterations + 1)], id ∈ allOperatorIds := by
      intro id hid
      rw [List.mem_singleton.mp hid]
      exact h.2 _ (operatorAt_mem h.1 (iterations + 1))
    obtain ⟨composed, hcomposed⟩ :=
      applyOperators_known sandbox state.bestSource call.task.schema hknown
    refine ⟨call.assessed sandbox (iterations + 1) state composed,
      (except_bind_ok_iff _ _ _).mpr ⟨state, hbefore, ?_⟩⟩
    exact (except_bind_ok_iff _ _ _).mpr ⟨composed, hcomposed, rfl⟩

end LineageCall

/-- The evidence of a cell is right: the best program passes every public case
that the initial one passes, its count is the one reported, the best count never
fell, and each improvement counted gained a case. -/
structure CellResult.Sound (task : TaskSpec Records Output) (result : CellResult) : Prop where
  keeps : Keeps sandbox task task.initialSource result.bestSource
  bestPassed_eq : result.bestPassed =
    task.publicCases.countP (passes sandbox result.bestSource)
  initialPassed_eq : result.initialPassed =
    task.publicCases.countP (passes sandbox task.initialSource)
  rising : (result.events.map (·.parentPassed) ++ [result.bestPassed]).Pairwise (· ≤ ·)
  improved : (result.improvedCount : Int) ≤ result.bestPassed - result.initialPassed

theorem SearchState.Sound.result {state : SearchState} (h : state.Sound sandbox task)
    {result : CellResult} (hsource : result.bestSource = state.bestSource)
    (hpassed : result.bestPassed = state.bestPassed) (hevents : result.events = state.events)
    (hcount : result.improvedCount = state.improvedCount)
    (hinitial : result.initialPassed =
      (task.scoreSource sandbox task.initialSource).passedCases) :
    result.Sound sandbox task where
  keeps := by
    rw [hsource]
    exact h.keeps
  bestPassed_eq := by
    rw [hpassed, hsource, ← h.bestPassed_eq]
    exact passedCases_scoreTaskSource sandbox state.bestSource task.publicCases
  initialPassed_eq := by
    rw [hinitial]
    exact passedCases_scoreTaskSource sandbox task.initialSource task.publicCases
  rising := by
    rw [hevents, hpassed]
    exact h.rising
  improved := by
    have himproved := h.improved
    omega

theorem CellCall.sound_of_runCell {call : CellCall Records Output} {result : CellResult}
    (h : call.runCell sandbox = .ok result) : result.Sound sandbox call.task := by
  obtain ⟨generator, -, hrun⟩ := (except_bind_ok_iff _ _ _).mp h
  obtain ⟨⟨policy, state⟩, hattempts, hresult⟩ := (except_bind_ok_iff _ _ _).mp hrun
  cases hresult
  exact (sound_attempts call.budget.toNat hattempts).1.result sandbox rfl rfl rfl rfl rfl

theorem LineageCall.sound_of_runLineageCell {call : LineageCall Records Output}
    {result : CellResult} (h : call.runLineageCell sandbox = .ok result) :
    result.Sound sandbox call.task := by
  obtain ⟨_, -, hrun⟩ := (except_bind_ok_iff _ _ _).mp h
  obtain ⟨state, hattempts, hresult⟩ := (except_bind_ok_iff _ _ _).mp hrun
  cases hresult
  exact (sound_attempts call.budget.toNat hattempts).result sandbox rfl rfl rfl rfl rfl

theorem CellCall.runCell_supported {call : CellCall Records Output} (h : call.Supported) :
    ∃ result, call.runCell sandbox = .ok result := by
  obtain ⟨generator, hgenerator⟩ := generator_supported h
  obtain ⟨policy, state, hattempts⟩ := attempts_known sandbox generator h.2 call.budget.toNat
  exact ⟨_, (except_bind_ok_iff _ _ _).mpr ⟨generator, hgenerator,
    (except_bind_ok_iff _ _ _).mpr ⟨(policy, state), hattempts, rfl⟩⟩⟩

theorem LineageCall.runLineageCell_supported {call : LineageCall Records Output}
    (h : call.Supported) : ∃ result, call.runLineageCell sandbox = .ok result := by
  obtain ⟨state, hattempts⟩ := attempts_supported sandbox h call.budget.toNat
  exact ⟨_, (except_bind_ok_iff _ _ _).mpr ⟨(), (require_ok_iff _ _ _).mpr h.1,
    (except_bind_ok_iff _ _ _).mpr ⟨state, hattempts, rfl⟩⟩⟩

/-- Both kinds of cell return sound evidence. What they return instead is an
error about arguments outside those they support. -/
theorem cells_sound (call : CellCall Records Output) (lineage : LineageCall Records Output) :
    (match call.runCell sandbox with
      | .ok result => result.Sound sandbox call.task
      | .error _ => ¬ call.Supported) ∧
    match lineage.runLineageCell sandbox with
      | .ok result => result.Sound sandbox lineage.task
      | .error _ => ¬ lineage.Supported := by
  constructor
  · split
    · rename_i result hrun
      exact CellCall.sound_of_runCell sandbox hrun
    · rename_i error hrun
      intro hsupported
      obtain ⟨result, hresult⟩ := CellCall.runCell_supported sandbox hsupported
      cases hrun.symm.trans hresult
  · split
    · rename_i result hrun
      exact LineageCall.sound_of_runLineageCell sandbox hrun
    · rename_i error hrun
      intro hsupported
      obtain ⟨result, hresult⟩ := LineageCall.runLineageCell_supported sandbox hsupported
      cases hrun.symm.trans hresult

end JlensEvolve.Epistasis
