import JlensEvolve.Library.Dict
import JlensEvolve.Library.Effect

/-!
The record-cleaning tasks of the epistasis experiments and how a program text is
scored on their cases. What Python itself does with a program text (load it,
parse it, rewrite its syntax tree) is a parameter; everything the repository
computes from that is here.
-/

namespace JlensEvolve.Epistasis

open Library

structure TaskSchema where
  identityField : String
  valueField : String
  statusField : String
  acceptedStatus : String
  currencyField : Option String
  acceptedCurrency : Option String
  roundDecimals : Nat

structure OpResult where
  operatorId : String
  source : String
  changed : Bool
  postconditionOk : Bool
  error : Option String

/-- The parts of the Python runtime the search rests on. A loaded program maps
the records of a case to its canonical output, `none` when it raises or returns
something else. -/
structure Sandbox (Records Output : Type) where
  /-- `load_candidate`: `none` when the text is refused or does not load. -/
  load : String → Option (Records → Option Output)
  /-- `ast.dump(ast.parse(source))`: `none` for a `SyntaxError`. -/
  dump : String → Option String
  /-- One of the four rewrites of `_APPLY`, by its id. -/
  transform : String → String → TaskSchema → OpResult

structure EvalCase (Records Output : Type) where
  id : String
  group : String
  records : Records
  expected : Output

variable {Records Output : Type}

/-- A task. The ids of its public cases are distinct: the generator adds no id
twice, and the lists written out in the evaluator cores repeat none. -/
structure TaskSpec (Records Output : Type) where
  taskId : String
  taskFamily : String
  schema : TaskSchema
  initialSource : String
  publicCases : List (EvalCase Records Output)
  holdoutCases : List (EvalCase Records Output)
  mechanisms : List String
  distinct_ids : (publicCases.map (·.id)).Nodup

/-- One row of `case_results`; what else it holds is only reported. -/
structure CaseResult where
  id : String
  passed : Bool

/-- What the search reads of the metrics. `evaluator_valid` is the float 0.0 or
1.0, and so is every metric built from these. -/
structure Metrics where
  passedCases : Nat
  caseResults : List CaseResult
  evaluatorValid : Int

variable [BEq Output]

/-- `actual == case["expected"]`. -/
def casePassed (solve : Records → Option Output) (case : EvalCase Records Output) : Bool :=
  solve case.records == some case.expected

def scoreCases (solve : Records → Option Output) (cases : List (EvalCase Records Output)) :
    Metrics :=
  let results := cases.map fun case => (⟨case.id, casePassed solve case⟩ : CaseResult)
  ⟨results.countP (·.passed), results, 1⟩

def scoreTaskSource (sandbox : Sandbox Records Output) (source : String)
    (cases : List (EvalCase Records Output)) : Metrics :=
  match sandbox.load source with
  | none => ⟨0, [], 0⟩
  | some solve => scoreCases solve cases

/-- Whether a program text passes a case: a text that does not load passes none. -/
def passes (sandbox : Sandbox Records Output) (source : String)
    (case : EvalCase Records Output) : Bool :=
  match sandbox.load source with
  | none => false
  | some solve => casePassed solve case

theorem passedCases_scoreTaskSource (sandbox : Sandbox Records Output) (source : String)
    (cases : List (EvalCase Records Output)) :
    (scoreTaskSource sandbox source cases).passedCases = cases.countP (passes sandbox source) := by
  unfold scoreTaskSource passes
  cases sandbox.load source with
  | none => simp
  | some solve =>
    simp only [scoreCases, List.countP_map]
    rfl

namespace TaskSpec

def scoreSource (task : TaskSpec Records Output) (sandbox : Sandbox Records Output)
    (source : String) : Metrics :=
  scoreTaskSource sandbox source task.publicCases

def scoreHoldout (task : TaskSpec Records Output) (sandbox : Sandbox Records Output)
    (source : String) : Metrics :=
  scoreTaskSource sandbox source task.holdoutCases

end TaskSpec

def casePrefix : String := "case_"

def caseKey (id : String) : String := casePrefix ++ id

/-- `key.startswith(start)`. -/
def startsWith (key start : String) : Bool := start.toList.isPrefixOf key.toList

def admissionMetrics (metrics : Metrics) : Dict String Int :=
  metrics.caseResults.foldl
    (fun out row => out.set (caseKey row.id) (if row.passed then 1 else 0))
    (Dict.empty.set "evaluator_valid" metrics.evaluatorValid)

theorem startsWith_caseKey (id : String) : startsWith (caseKey id) casePrefix = true := by
  rw [startsWith, caseKey, String.toList_append]
  exact List.isPrefixOf_iff_prefix.mpr (List.prefix_append _ _)

theorem caseKey_injective {first second : String} (h : caseKey first = caseKey second) :
    first = second := by
  have hlists := congrArg String.toList h
  rw [caseKey, caseKey, String.toList_append, String.toList_append] at hlists
  exact String.toList_injective (List.append_cancel_left hlists)

theorem get?_foldl_of_absent {key : String} (rows : List CaseResult) :
    ∀ (out : Dict String Int), (∀ row ∈ rows, caseKey row.id ≠ key) →
      (rows.foldl (fun out row => out.set (caseKey row.id) (if row.passed then 1 else 0))
        out).get? key = out.get? key := by
  induction rows with
  | nil =>
    intro out _
    rfl
  | cons row rest ih =>
    intro out h
    rw [List.foldl_cons, ih _ fun other hother => h other (List.mem_cons_of_mem _ hother)]
    exact Dict.get?_set_of_ne out _ (h row List.mem_cons_self).symm

theorem get?_admissionMetrics {metrics : Metrics}
    (hdistinct : (metrics.caseResults.map (·.id)).Nodup) {row : CaseResult}
    (hrow : row ∈ metrics.caseResults) :
    (admissionMetrics metrics).get? (caseKey row.id) = some (if row.passed then 1 else 0) := by
  obtain ⟨before, after, hrows⟩ := List.append_of_mem hrow
  rw [hrows, List.map_append, List.map_cons] at hdistinct
  have hafter : row.id ∉ after.map (·.id) :=
    (List.nodup_cons.mp hdistinct.of_append_right).1
  rw [admissionMetrics, hrows, List.foldl_append, List.foldl_cons, get?_foldl_of_absent]
  · exact Dict.get?_set_self _ _ _
  · intro other hother hsame
    exact hafter (List.mem_map.mpr ⟨other, hother, caseKey_injective hsame⟩)

end JlensEvolve.Epistasis

/-!
The four operators and their composition: applied one after the other, up to the
first that changes nothing or fails its own probe.
-/

namespace JlensEvolve.Epistasis

open Library

variable {Records Output : Type}

/-- The `ValueError`s of the search and of the operators. -/
inductive SearchError where
  | value (message : String)
deriving DecidableEq

/-- `MECHANISMS` and `OPERATOR_IDS`, paired as `_OPERATOR_BY_MECHANISM` pairs
them. -/
def operatorByMechanism : List (String × String) :=
  [("status", "canonicalize_status"), ("amount", "reject_invalid_amounts"),
    ("identity", "normalize_identity"), ("empty", "drop_empty_identity")]

/-- `OPERATOR_IDS`. -/
def allOperatorIds : List String := operatorByMechanism.map Prod.snd

structure ComposeResult where
  source : String
  ok : Bool
  reason : String
  operatorIds : List String
  results : List OpResult

def applyOperator (sandbox : Sandbox Records Output) (source operatorId : String)
    (schema : TaskSchema) : Except SearchError OpResult := do
  require (operatorId ∈ allOperatorIds) (.value ("unknown operator: " ++ operatorId))
  return sandbox.transform operatorId source schema

/-- The loop of `apply_operators` from `current` on, the operators in `results`
applied. -/
def applyRest (sandbox : Sandbox Records Output) (schema : TaskSchema) (all : List String) :
    List String → String → List OpResult → Except SearchError ComposeResult
  | [], current, results => .ok ⟨current, true, "ok", all, results⟩
  | operatorId :: rest, current, results => do
      let result ← applyOperator sandbox current operatorId schema
      if !result.changed then
        return ⟨current, false, operatorId ++ ":no-op", all, results ++ [result]⟩
      else if !result.postconditionOk then
        return ⟨current, false, operatorId ++ ":postcondition", all, results ++ [result]⟩
      else applyRest sandbox schema all rest result.source (results ++ [result])

def applyOperators (sandbox : Sandbox Records Output) (source : String) (ids : List String)
    (schema : TaskSchema) : Except SearchError ComposeResult :=
  applyRest sandbox schema ids ids source []

/-- `composed.results and composed.results[-1].changed`. -/
def ComposeResult.lastChanged (composed : ComposeResult) : Bool :=
  match composed.results.getLast? with
  | none => false
  | some result => result.changed

theorem applyOperator_known (sandbox : Sandbox Records Output) (source : String)
    {operatorId : String} (schema : TaskSchema) (h : operatorId ∈ allOperatorIds) :
    applyOperator sandbox source operatorId schema =
      .ok (sandbox.transform operatorId source schema) := by
  simp [applyOperator, require, h]

theorem applyOperators_known (sandbox : Sandbox Records Output) (source : String)
    {ids : List String} (schema : TaskSchema) (h : ∀ id ∈ ids, id ∈ allOperatorIds) :
    ∃ composed, applyOperators sandbox source ids schema = .ok composed := by
  suffices hrest : ∀ (all rest : List String) (current : String) (results : List OpResult),
      (∀ id ∈ rest, id ∈ allOperatorIds) →
        ∃ composed, applyRest sandbox schema all rest current results = .ok composed from
    hrest ids ids source [] h
  intro all rest
  induction rest with
  | nil =>
    intro current results _
    exact ⟨_, rfl⟩
  | cons operatorId rest ih =>
    intro current results hknown
    have hrest : ∀ id ∈ rest, id ∈ allOperatorIds := fun id hid =>
      hknown id (List.mem_cons_of_mem _ hid)
    rw [applyRest, applyOperator_known sandbox current schema (hknown _ List.mem_cons_self)]
    simp only [bind, Except.bind]
    split
    · exact ⟨_, rfl⟩
    · split
      · exact ⟨_, rfl⟩
      · exact ih _ _ hrest

end JlensEvolve.Epistasis
