import Mathlib.Algebra.Order.Ring.Rat
import JlensEvolve.Epistasis.AdmissionPolicy

/-!
The admission guard of an OpenEvolve database. The metrics of a program are what
an evaluator reported, so a value can be missing, infinite, not a number or
nothing `float` reads; the guard wraps the `add` of the database and asks the
admission policy before a program becomes selectable.
-/

namespace JlensEvolve.Epistasis

open Library

variable {Records Output : Type}

/-- What `float` makes of a reported value. -/
inductive Metric where
  | finite (value : ℚ)
  | infinite (negative : Bool)
  | nan
  | refused
  deriving DecidableEq

namespace Metric

/-- `float(value)`. -/
def float : Metric → Except String Metric
  | .refused => .error "float() argument must be a string or a real number"
  | metric => .ok metric

/-- `value >= 1.0`. -/
def whole : Metric → Bool
  | .finite value => decide (1 ≤ value)
  | .infinite negative => !negative
  | .nan | .refused => false

/-- `value < 1.0`, which a NaN is not either. -/
def belowOne : Metric → Bool
  | .finite value => decide (value < 1)
  | .infinite negative => negative
  | .nan | .refused => false

theorem float_ok_iff {metric read : Metric} :
    metric.float = .ok read ↔ read = metric ∧ metric ≠ .refused := by
  cases metric with
  | refused => simp [float]
  | finite value => simp [float, eq_comm]
  | infinite negative => simp [float, eq_comm]
  | nan => simp [float, eq_comm]

theorem whole_of_not_belowOne {metric : Metric} (hbelow : metric.belowOne = false)
    (hnan : metric ≠ .nan) (hrefused : metric ≠ .refused) : metric.whole = true := by
  cases metric with
  | finite value =>
    rw [belowOne, decide_eq_false_iff_not, not_lt] at hbelow
    exact decide_eq_true hbelow
  | infinite negative => simpa [whole, belowOne] using hbelow
  | nan => exact absurd rfl hnan
  | refused => exact absurd rfl hrefused

theorem whole_intCast (value : Int) : (finite value).whole = decide (1 ≤ value) := by
  rw [whole, decide_eq_decide]
  exact_mod_cast Iff.rfl

theorem belowOne_intCast (value : Int) : (finite value).belowOne = decide (value < 1) := by
  rw [belowOne, decide_eq_decide]
  exact_mod_cast Iff.rfl

end Metric

abbrev ReportedMetrics := Dict String Metric

namespace ReportedMetrics

/-- `metrics.get(key, default)`. -/
def value (metrics : ReportedMetrics) (key : String) (default : ℚ) : Metric :=
  (metrics.get? key).getD (.finite default)

/-- The metric keys with a given beginning, sorted. -/
def protectedKeys (metrics : ReportedMetrics) (start : String) : List String :=
  (metrics.keys.filter (startsWith · start)).insertionSort (· ≤ ·)

theorem mem_protectedKeys {metrics : ReportedMetrics} {start key : String} :
    key ∈ metrics.protectedKeys start ↔
      (∃ metric, metrics.get? key = some metric) ∧ startsWith key start = true := by
  rw [protectedKeys, List.mem_insertionSort, List.mem_filter, Dict.mem_keys_iff,
    Option.isSome_iff_exists]

def behaviorSignature (metrics : ReportedMetrics) (start : String) : Except String String := do
  let values ← (metrics.protectedKeys start).mapM fun key => do
    let read ← (metrics.value key 0).float
    pure (key ++ "=" ++ if read.whole then "1" else "0")
  pure (sha256 (String.intercalate "|" values))

/-- Whether a protected key is one of the `regressed`; the metric of the child
is read only when the metric of the parent is whole. -/
def regressedCase (metrics parent : ReportedMetrics) (key : String) : Except String Bool := do
  let before ← (parent.value key 0).float
  if before.whole then do
    let after ← (metrics.value key 0).float
    pure after.belowOne
  else pure false

/-- Whether a protected key is one of the `gained`. -/
def gainedCase (metrics parent : ReportedMetrics) (key : String) : Except String Bool := do
  let before ← (parent.value key 0).float
  if before.belowOne then do
    let after ← (metrics.value key 0).float
    pure after.whole
  else pure false

/-- `tuple(key for key in keys if test)`, where the test may raise. -/
def casesWhere (test : String → Except String Bool) : List String → Except String (List String)
  | [] => .ok []
  | key :: rest => do
    let kept ← test key
    let others ← casesWhere test rest
    pure (if kept then key :: others else others)

theorem casesWhere_ok_iff {test : String → Except String Bool} {keys : List String} :
    (∃ kept, casesWhere test keys = .ok kept) ↔ ∀ key ∈ keys, ∃ kept, test key = .ok kept := by
  induction keys with
  | nil => simp [casesWhere]
  | cons key rest ih =>
    rw [List.forall_mem_cons, ← ih]
    simp only [casesWhere, except_bind_ok_iff]
    constructor
    · rintro ⟨kept, here, htest, others, hothers, -⟩
      exact ⟨⟨here, htest⟩, others, hothers⟩
    · rintro ⟨⟨here, htest⟩, others, hothers⟩
      exact ⟨_, here, htest, others, hothers, rfl⟩

theorem casesWhere_nil_iff {test : String → Except String Bool} {keys : List String} :
    casesWhere test keys = .ok [] ↔ ∀ key ∈ keys, test key = .ok false := by
  induction keys with
  | nil => simp [casesWhere]
  | cons key rest ih =>
    rw [List.forall_mem_cons, ← ih]
    simp only [casesWhere, except_bind_ok_iff]
    constructor
    · rintro ⟨here, htest, others, hothers, hkept⟩
      cases here with
      | true => cases hkept
      | false =>
        cases hkept
        exact ⟨htest, hothers⟩
    · rintro ⟨htest, hothers⟩
      exact ⟨false, htest, [], hothers, rfl⟩

theorem casesWhere_of_forall {test : String → Except String Bool} {holds : String → Bool}
    {keys : List String} (h : ∀ key ∈ keys, test key = .ok (holds key)) :
    casesWhere test keys = .ok (keys.filter holds) := by
  induction keys with
  | nil => rfl
  | cons key rest ih =>
    obtain ⟨hhere, hrest⟩ := List.forall_mem_cons.mp h
    rw [casesWhere, hhere, ih hrest, List.filter_cons]
    rfl

theorem regressedCase_of_read {metrics parent : ReportedMetrics} {key : String}
    (hparent : parent.value key 0 ≠ .refused) (hchild : metrics.value key 0 ≠ .refused) :
    metrics.regressedCase parent key =
      .ok ((parent.value key 0).whole && (metrics.value key 0).belowOne) := by
  simp only [regressedCase, Metric.float_ok_iff.mpr ⟨rfl, hparent⟩,
    Metric.float_ok_iff.mpr ⟨rfl, hchild⟩]
  cases hwhole : (parent.value key 0).whole with
  | true => simp [hwhole, bind, Except.bind, pure, Except.pure]
  | false => simp [hwhole, bind, Except.bind, pure, Except.pure]

theorem gainedCase_of_read {metrics parent : ReportedMetrics} {key : String}
    (hparent : parent.value key 0 ≠ .refused) (hchild : metrics.value key 0 ≠ .refused) :
    metrics.gainedCase parent key =
      .ok ((parent.value key 0).belowOne && (metrics.value key 0).whole) := by
  simp only [gainedCase, Metric.float_ok_iff.mpr ⟨rfl, hparent⟩,
    Metric.float_ok_iff.mpr ⟨rfl, hchild⟩]
  cases hbelow : (parent.value key 0).belowOne with
  | true => simp [hbelow, bind, Except.bind, pure, Except.pure]
  | false => simp [hbelow, bind, Except.bind, pure, Except.pure]

/-- The metrics of an epistasis cell, as an evaluator reports them. -/
structure Reports (reported : ReportedMetrics) (metrics : Dict String Int) : Prop where
  keys_eq : reported.keys = metrics.keys
  get?_eq : ∀ key, reported.get? key = (metrics.get? key).map fun value => .finite value

theorem Reports.value_eq {reported : ReportedMetrics} {metrics : Dict String Int}
    (h : Reports reported metrics) (key : String) (default : Int) :
    reported.value key default = .finite ((metrics.get? key).getD default : Int) := by
  rw [value, h.get?_eq]
  cases metrics.get? key with
  | none => rfl
  | some found => rfl

theorem Reports.protectedKeys_eq {reported : ReportedMetrics} {metrics : Dict String Int}
    (h : Reports reported metrics) (start : String) :
    reported.protectedKeys start = Epistasis.protectedKeys metrics start := by
  rw [protectedKeys, Epistasis.protectedKeys, h.keys_eq]

theorem behaviorSignature_of_reports {reported : ReportedMetrics} {metrics : Dict String Int}
    (h : Reports reported metrics) (start : String) :
    reported.behaviorSignature start = .ok (Epistasis.behaviorSignature metrics start) := by
  have hvalues : ∀ keys : List String, keys.mapM (fun key => do
        let read ← (reported.value key 0).float
        pure (key ++ "=" ++ if read.whole then "1" else "0")) =
      (Except.ok (keys.map fun key =>
        key ++ "=" ++ if 1 ≤ (metrics.get? key).getD 0 then "1" else "0") :
          Except String (List String)) := by
    intro keys
    induction keys with
    | nil => rfl
    | cons key rest ih =>
      have hvalue : reported.value key 0 = .finite ((metrics.get? key).getD 0 : Int) := by
        exact_mod_cast h.value_eq key 0
      rw [List.mapM_cons, ih, hvalue]
      simp only [Metric.float, bind, Except.bind, pure, Except.pure, Metric.whole_intCast,
        decide_eq_true_eq, List.map_cons]
  rw [behaviorSignature, hvalues, h.protectedKeys_eq]
  rfl

end ReportedMetrics

namespace AdmissionPolicy

variable (policy : AdmissionPolicy) (sandbox : Sandbox Records Output)

/-- What `assess_and_register` finds in reported metrics, before anything is
registered. A value that `float` refuses ends the call. -/
def assessReported (source : String) (metrics : ReportedMetrics) (parentMetrics : Option ReportedMetrics) :
    Except String AdmissionDecision := do
  let hashes := sourceFingerprints sandbox source
  let signature ← metrics.behaviorSignature policy.protectedMetricPrefix
  let keys := metrics.protectedKeys policy.protectedMetricPrefix
  let parent := parentMetrics.getD Dict.empty
  let lost ← ReportedMetrics.casesWhere (metrics.regressedCase parent) keys
  let gained ← ReportedMetrics.casesWhere (metrics.gainedCase parent) keys
  let valid ← (metrics.value "evaluator_valid" 1).float
  let reasons :=
    (if valid.belowOne then ["evaluator_rejected"] else []) ++
    (if lost ≠ [] then ["parent_regression"] else []) ++
    policy.noveltyReasons hashes.1 hashes.2 signature
  pure ⟨reasons.isEmpty, reasons, lost, gained, hashes.1, hashes.2, signature⟩

/-- `assess_and_register` on reported metrics. -/
def assessAndRegisterReported (source : String) (metrics : ReportedMetrics)
    (parentMetrics : Option ReportedMetrics) : Except String (AdmissionDecision × AdmissionPolicy) := do
  let decision ← policy.assessReported sandbox source metrics parentMetrics
  pure (decision, if decision.accepted then policy.register decision else policy)

theorem assessReported_of_reports {reported reportedParent : ReportedMetrics}
    {metrics parent : Dict String Int} (h : ReportedMetrics.Reports reported metrics)
    (hparent : ReportedMetrics.Reports reportedParent parent) (source : String) :
    policy.assessReported sandbox source reported (some reportedParent) =
      .ok (policy.assess sandbox source metrics (some parent)) := by
  have hread : ∀ key, reported.value key 0 = .finite (metric metrics key : ℚ) := by
    intro key
    exact_mod_cast h.value_eq key 0
  have hreadParent : ∀ key, reportedParent.value key 0 = .finite (metric parent key : ℚ) := by
    intro key
    exact_mod_cast hparent.value_eq key 0
  have hlost : ∀ key ∈ reported.protectedKeys policy.protectedMetricPrefix,
      reported.regressedCase reportedParent key =
        .ok (decide (1 ≤ metric parent key ∧ metric metrics key < 1)) := by
    intro key _
    rw [ReportedMetrics.regressedCase_of_read (by rw [hreadParent]; exact Metric.noConfusion)
      (by rw [hread]; exact Metric.noConfusion), hread, hreadParent, Metric.whole_intCast,
      Metric.belowOne_intCast, Bool.decide_and]
  have hgained : ∀ key ∈ reported.protectedKeys policy.protectedMetricPrefix,
      reported.gainedCase reportedParent key =
        .ok (decide (metric parent key < 1 ∧ 1 ≤ metric metrics key)) := by
    intro key _
    rw [ReportedMetrics.gainedCase_of_read (by rw [hreadParent]; exact Metric.noConfusion)
      (by rw [hread]; exact Metric.noConfusion), hread, hreadParent, Metric.whole_intCast,
      Metric.belowOne_intCast, Bool.decide_and]
  have hvalid : (reported.value "evaluator_valid" 1).float =
      .ok (.finite (((metrics.get? "evaluator_valid").getD 1 : Int) : ℚ)) := by
    have hone := h.value_eq "evaluator_valid" 1
    rw [Int.cast_one] at hone
    rw [hone]
    rfl
  have hlost' := ReportedMetrics.casesWhere_of_forall hlost
  have hgained' := ReportedMetrics.casesWhere_of_forall hgained
  rw [h.protectedKeys_eq] at hlost' hgained'
  simp only [assessReported, ReportedMetrics.behaviorSignature_of_reports h, Option.getD_some,
    h.protectedKeys_eq, hlost', hgained', hvalid, bind, Except.bind, pure, Except.pure,
    Metric.belowOne_intCast, decide_eq_true_eq]
  rfl

end AdmissionPolicy

structure Program where
  id : String
  code : String
  parentId : Option String
  metrics : ReportedMetrics
  /-- `metadata["admission"]`. -/
  admission : Option AdmissionDecision
  iterationFound : Int
  /-- `metadata["island"]`. -/
  island : Option Int

structure ProgramDatabase where
  programs : Dict String Program
  lastIteration : Int
  islands : Nat

/-- A guard and the database it is installed on. -/
structure OpenEvolveAdmissionGuard where
  policy : AdmissionPolicy
  indexedProgramIds : List String
  database : ProgramDatabase

/-- What the guard calls but does not own: the `add` of the unwrapped database,
and whether `_record_event` returns. -/
structure OpenEvolve where
  originalAdd : ProgramDatabase → Program → Option Int → Option Int → ProgramDatabase
  recordEvent : Program → Option Program → AdmissionDecision → Option Int → Except String Unit

namespace OpenEvolveAdmissionGuard

variable (sandbox : Sandbox Records Output) (runtime : OpenEvolve)

/-- A program of a loaded checkpoint enters the policy unless it was refused. A
program that carries no decision counts as accepted. -/
def registerExisting (program : Program) : EStateM String OpenEvolveAdmissionGuard Unit := do
  if (program.admission.map (·.accepted)).getD true then do
    let guard ← get
    let registered ←
      check (guard.policy.assessAndRegisterReported sandbox program.code program.metrics none)
    set { guard with policy := registered.2 }
  else pure ()

/-- `_sync_existing`, over the items of `database.programs`. -/
def syncExisting : List (String × Program) → EStateM String OpenEvolveAdmissionGuard Unit
  | [] => pure ()
  | (programId, program) :: rest => do
    let guard ← get
    if programId ∈ guard.indexedProgramIds then syncExisting rest
    else do
      registerExisting sandbox program
      modify fun state => { state with indexedProgramIds := programId :: state.indexedProgramIds }
      syncExisting rest

/-- The program that the guard compares a new one with. -/
def parentOf (database : ProgramDatabase) (program : Program) : Option Program :=
  match program.parentId with
  | none => none
  | some parentId => if parentId = "" then none else database.programs.get? parentId

/-- `program.metadata["island"] = target_island % len(database.islands)`. -/
def placed (database : ProgramDatabase) (program : Program) :
    Option Int → Except String Program
  | none => .ok program
  | some targetIsland =>
    if database.islands = 0 then .error "integer modulo by zero"
    else .ok { program with island := some (targetIsland % database.islands) }

/-- The iteration a refused program is recorded under. -/
def foundAt (program : Program) : Option Int → Program
  | none => program
  | some iteration => { program with iterationFound := iteration }

/-- The branch of `guarded_add` for a refused program: it stays in the database
for the trace and enters no island. -/
def keepForTrace (database : ProgramDatabase) (program : Program) (iteration : Option Int)
    (targetIsland : Option Int) : Except String (ProgramDatabase × Program) := do
  let kept ← placed database (foundAt program iteration) targetIsland
  let reached := match iteration with
    | none => database.lastIteration
    | some found => max database.lastIteration found
  pure (⟨database.programs.set kept.id kept, reached, database.islands⟩, kept)

/-- `guarded_add`. It returns the program object, which the call has marked with
its decision. -/
def guardedAdd (program : Program) (iteration targetIsland : Option Int) :
    EStateM String OpenEvolveAdmissionGuard Program := do
  let started ← get
  syncExisting sandbox started.database.programs.entries
  let guard ← get
  let parent := parentOf guard.database program
  let registered ← check (guard.policy.assessAndRegisterReported sandbox program.code
    program.metrics (parent.map (·.metrics)))
  modify fun state => { state with policy := registered.2 }
  let marked := { program with admission := some registered.1 }
  check (runtime.recordEvent marked parent registered.1 iteration)
  modify fun state => { state with indexedProgramIds := program.id :: state.indexedProgramIds }
  if registered.1.accepted then do
    modify fun state => { state with
      database := runtime.originalAdd guard.database marked iteration targetIsland }
    pure marked
  else do
    let kept ← check (keepForTrace guard.database marked iteration targetIsland)
    modify fun state => { state with database := kept.1 }
    pure kept.2

end OpenEvolveAdmissionGuard

end JlensEvolve.Epistasis
