import JlensEvolve.Epistasis.AdmissionGuard
import JlensEvolve.Library.Hoare

/-!
What an accepted program keeps of its parent. The policy compares the protected
cases that the child reports, so a case that the child does not report, or
reports as a NaN, is lost without a word; where every passed case of the parent
is measured in the child, passed cases are kept along every accepted lineage.
-/

namespace JlensEvolve.Epistasis

open Library

variable {Records Output : Type}

/-- Every protected case that passes in the parent passes in the child. -/
def NoneLost (start : String) (parent child : ReportedMetrics) : Prop :=
  ∀ key, startsWith key start = true → (parent.value key 0).whole = true →
    (child.value key 0).whole = true

/-- Every protected case that passes in the parent has a number in the child. -/
def Measured (start : String) (parent child : ReportedMetrics) : Prop :=
  ∀ key, startsWith key start = true → (parent.value key 0).whole = true →
    ∃ metric, child.get? key = some metric ∧ metric ≠ .nan

/-- The metrics alone give the policy no reason to refuse the child: what it
reads are numbers, the evaluator did not reject it, and no protected case that
it reports fell below one. -/
structure Presentable (start : String) (parent child : ReportedMetrics) : Prop where
  child_read : ∀ key ∈ child.protectedKeys start, child.value key 0 ≠ .refused
  parent_read : ∀ key ∈ child.protectedKeys start, parent.value key 0 ≠ .refused
  valid_read : child.value "evaluator_valid" 1 ≠ .refused
  valid : (child.value "evaluator_valid" 1).belowOne = false
  kept : ∀ key ∈ child.protectedKeys start, (parent.value key 0).whole = true →
    (child.value key 0).belowOne = false

theorem NoneLost.trans {start : String} {oldest older newer : ReportedMetrics}
    (h : NoneLost start oldest older) (h' : NoneLost start older newer) :
    NoneLost start oldest newer := by
  intro key hkey hwhole
  exact h' key hkey (h key hkey hwhole)

namespace ReportedMetrics

theorem read_of_regressedCase {metrics parent : ReportedMetrics} {key : String} {lost : Bool}
    (h : metrics.regressedCase parent key = .ok lost) : parent.value key 0 ≠ .refused := by
  rw [regressedCase, except_bind_ok_iff] at h
  obtain ⟨before, hbefore, -⟩ := h
  exact (Metric.float_ok_iff.mp hbefore).2

theorem behaviorSignature_ok_iff {metrics : ReportedMetrics} {start : String} :
    (∃ signature, metrics.behaviorSignature start = .ok signature) ↔
      ∀ key ∈ metrics.protectedKeys start, metrics.value key 0 ≠ .refused := by
  constructor
  · rintro ⟨signature, h⟩ key hkey
    rw [behaviorSignature, except_bind_ok_iff] at h
    obtain ⟨values, hvalues, -⟩ := h
    obtain ⟨value, hvalue⟩ := mapM_ok_mem hvalues hkey
    rw [except_bind_ok_iff] at hvalue
    obtain ⟨read, hread, -⟩ := hvalue
    exact (Metric.float_ok_iff.mp hread).2
  · intro hread
    obtain ⟨values, hvalues⟩ := mapM_ok_of_forall fun key hkey =>
      (⟨_, by rw [Metric.float_ok_iff.mpr ⟨rfl, hread key hkey⟩]; rfl⟩ :
        ∃ text, (do
          let read ← (metrics.value key 0).float
          pure (key ++ "=" ++ if read.whole then "1" else "0")) = Except.ok text)
    refine ⟨sha256 (String.intercalate "|" values), ?_⟩
    rw [behaviorSignature, except_bind_ok_iff]
    exact ⟨values, hvalues, rfl⟩

end ReportedMetrics

namespace AdmissionPolicy

variable {policy : AdmissionPolicy} {sandbox : Sandbox Records Output} {source : String}
variable {parent child : ReportedMetrics}

theorem presentable_of_accepted {decision : AdmissionDecision}
    (h : policy.assessReported sandbox source child (some parent) = .ok decision)
    (haccepted : decision.accepted = true) :
    Presentable policy.protectedMetricPrefix parent child := by
  simp only [assessReported, except_bind_ok_iff, Option.getD_some] at h
  obtain ⟨signature, hsignature, lost, hlost, gained, -, valid, hvalid, hdecision⟩ := h
  cases hdecision
  simp only [List.isEmpty_iff, List.append_eq_nil_iff] at haccepted
  obtain ⟨⟨hvalidReason, hlostReason⟩, -⟩ := haccepted
  obtain ⟨rfl, hvalidRead⟩ := Metric.float_ok_iff.mp hvalid
  have hread := ReportedMetrics.behaviorSignature_ok_iff.mp ⟨signature, hsignature⟩
  have hnone : lost = [] := by
    by_contra hsome
    rw [if_pos hsome] at hlostReason
    cases hlostReason
  subst hnone
  have hkeys := ReportedMetrics.casesWhere_nil_iff.mp hlost
  refine ⟨hread, fun key hkey => ReportedMetrics.read_of_regressedCase (hkeys key hkey),
    hvalidRead, ?_, ?_⟩
  · cases hbelow : (child.value "evaluator_valid" 1).belowOne with
    | false => rfl
    | true =>
      rw [if_pos hbelow] at hvalidReason
      cases hvalidReason
  · intro key hkey hwhole
    have hcase := hkeys key hkey
    rw [ReportedMetrics.regressedCase_of_read
      (ReportedMetrics.read_of_regressedCase hcase) (hread key hkey), hwhole] at hcase
    exact Except.ok.inj hcase

theorem accepted_of_presentable
    (hpresentable : Presentable policy.protectedMetricPrefix parent child)
    (hnovel : ∀ signature, child.behaviorSignature policy.protectedMetricPrefix = .ok signature →
      policy.noveltyReasons (sourceFingerprints sandbox source).1
        (sourceFingerprints sandbox source).2 signature = []) :
    ∃ decision, policy.assessReported sandbox source child (some parent) = .ok decision ∧
      decision.accepted = true := by
  obtain ⟨signature, hsignature⟩ :=
    ReportedMetrics.behaviorSignature_ok_iff.mpr hpresentable.child_read
  have hregressed := fun key hkey => ReportedMetrics.regressedCase_of_read
    (hpresentable.parent_read key hkey) (hpresentable.child_read key hkey)
  have hlost : ReportedMetrics.casesWhere (child.regressedCase parent)
      (child.protectedKeys policy.protectedMetricPrefix) = .ok [] := by
    rw [ReportedMetrics.casesWhere_nil_iff]
    intro key hkey
    rw [hregressed key hkey]
    cases hwhole : (parent.value key 0).whole with
    | false => rfl
    | true => rw [hpresentable.kept key hkey hwhole, Bool.and_false]
  obtain ⟨gained, hgained⟩ := ReportedMetrics.casesWhere_ok_iff.mpr fun key hkey =>
    ⟨_, ReportedMetrics.gainedCase_of_read (hpresentable.parent_read key hkey)
      (hpresentable.child_read key hkey)⟩
  have hvalid := Metric.float_ok_iff.mpr ⟨rfl, hpresentable.valid_read⟩
  refine ⟨⟨true, [], [], gained, (sourceFingerprints sandbox source).1,
    (sourceFingerprints sandbox source).2, signature⟩, ?_, rfl⟩
  simp only [assessReported, except_bind_ok_iff, Option.getD_some]
  refine ⟨signature, hsignature, [], hlost, gained, hgained, _, hvalid, ?_⟩
  simp only [hpresentable.valid, hnovel signature hsignature, Bool.false_eq_true, if_false, ne_eq,
    not_true_eq_false, List.append_nil, List.isEmpty_nil]
  rfl

/-- A policy that has taken nothing in. -/
def empty (start : String) : AdmissionPolicy := ⟨start, 2, [], [], Dict.empty, one_le_two⟩

theorem accepted_of_empty {start : String} (sandbox : Sandbox Records Output) (source : String)
    (hpresentable : Presentable start parent child) :
    ∃ decision next, (empty start).assessAndRegisterReported sandbox source child (some parent) =
      .ok (decision, next) ∧ decision.accepted = true := by
  obtain ⟨decision, hdecision, haccepted⟩ :=
    (accepted_of_presentable hpresentable fun _ _ => rfl :
      ∃ decision, (empty start).assessReported sandbox source child (some parent) =
        .ok decision ∧ decision.accepted = true)
  have hcall : ∃ next, (empty start).assessAndRegisterReported sandbox source child
      (some parent) = .ok (decision, next) := by
    rw [assessAndRegisterReported, hdecision]
    exact ⟨_, rfl⟩
  obtain ⟨next, hnext⟩ := hcall
  exact ⟨decision, next, hnext, haccepted⟩

end AdmissionPolicy

theorem Presentable.noneLost {start : String} {parent child : ReportedMetrics}
    (h : Presentable start parent child) (hmeasured : Measured start parent child) :
    NoneLost start parent child := by
  intro key hkey hwhole
  obtain ⟨metric, hmetric, hnan⟩ := hmeasured key hkey hwhole
  have hmem := ReportedMetrics.mem_protectedKeys.mpr ⟨⟨metric, hmetric⟩, hkey⟩
  have hvalue : child.value key 0 = metric := by rw [ReportedMetrics.value, hmetric]; rfl
  have hread := h.child_read key hmem
  have hkept := h.kept key hmem hwhole
  rw [hvalue] at hread hkept ⊢
  exact Metric.whole_of_not_belowOne hkept hnan hread

theorem NoneLost.measured {start : String} {parent child : ReportedMetrics}
    (h : NoneLost start parent child) : Measured start parent child := by
  intro key hkey hwhole
  have hchild := h key hkey hwhole
  rw [ReportedMetrics.value] at hchild
  cases hget : child.get? key with
  | none =>
    rw [hget] at hchild
    exact absurd hchild (by decide)
  | some metric =>
    rw [hget] at hchild
    refine ⟨metric, rfl, ?_⟩
    rintro rfl
    cases hchild

namespace OpenEvolveAdmissionGuard

variable (sandbox : Sandbox Records Output) (runtime : OpenEvolve)

/-- `OpenEvolveAdmissionGuard(behavior_equivalent_limit=limit)`, installed on a
database. -/
def installed (limit : Nat) (hlimit : 1 ≤ limit) (database : ProgramDatabase) :
    OpenEvolveAdmissionGuard :=
  ⟨⟨casePrefix, limit, [], [], Dict.empty, hlimit⟩, [], database⟩

/-- Where the program names an accepted one as its parent, the guard finds the
metrics of that one in the database, and the program measures each of its passed
cases. -/
def Comparable (guard : OpenEvolveAdmissionGuard) (accepted : List Program) (program : Program) :
    Prop :=
  ∀ older ∈ accepted, program.parentId = some older.id →
    (parentOf guard.database program).map (·.metrics) = some older.metrics ∧
      Measured casePrefix older.metrics program.metrics

/-- The runs of a guard: adds that return and adds that raise, with anything at
all done by OpenEvolve to its database in between. The list holds the accepted
programs, newest first, and each accepted add meets the condition. -/
inductive Run : OpenEvolveAdmissionGuard → List Program → Prop where
  | install (limit : Nat) (hlimit : 1 ≤ limit) (database : ProgramDatabase) :
      Run (installed limit hlimit database) []
  | openEvolve {guard : OpenEvolveAdmissionGuard} {accepted : List Program}
      (database : ProgramDatabase) :
      Run guard accepted → Run { guard with database := database } accepted
  | accept {guard next : OpenEvolveAdmissionGuard} {accepted : List Program}
      {program marked : Program} {iteration targetIsland : Option Int}
      {decision : AdmissionDecision} :
      Run guard accepted → Comparable guard accepted program →
      (guardedAdd sandbox runtime program iteration targetIsland).run guard = .ok marked next →
      marked.admission = some decision → decision.accepted = true →
      Run next (marked :: accepted)
  | refuse {guard next : OpenEvolveAdmissionGuard} {accepted : List Program}
      {program marked : Program} {iteration targetIsland : Option Int}
      {decision : AdmissionDecision} :
      Run guard accepted →
      (guardedAdd sandbox runtime program iteration targetIsland).run guard = .ok marked next →
      marked.admission = some decision → decision.accepted = false →
      Run next accepted
  | raise {guard next : OpenEvolveAdmissionGuard} {accepted : List Program} {program : Program}
      {iteration targetIsland : Option Int} {error : String} :
      Run guard accepted →
      (guardedAdd sandbox runtime program iteration targetIsland).run guard = .error error next →
      Run next accepted

/-- The guard protects the case metrics. -/
def Protects (guard : OpenEvolveAdmissionGuard) : Prop :=
  guard.policy.protectedMetricPrefix = casePrefix

theorem protects_of_registered {policy : AdmissionPolicy} {source : String}
    {metrics : ReportedMetrics} {parent : Option ReportedMetrics}
    {answer : AdmissionDecision × AdmissionPolicy}
    (h : policy.assessAndRegisterReported sandbox source metrics parent = .ok answer) :
    answer.2.protectedMetricPrefix = policy.protectedMetricPrefix ∧
      policy.assessReported sandbox source metrics parent = .ok answer.1 := by
  rw [AdmissionPolicy.assessAndRegisterReported, except_bind_ok_iff] at h
  obtain ⟨decision, hdecision, hanswer⟩ := h
  cases hanswer
  refine ⟨?_, hdecision⟩
  split
  · rfl
  · rfl

theorem registerExisting_spec (database : ProgramDatabase) (program : Program) :
    Triple (fun guard => Protects guard ∧ guard.database = database)
      (registerExisting sandbox program)
      (fun _ guard => Protects guard ∧ guard.database = database)
      (fun _ guard => Protects guard) := by
  rw [registerExisting]
  split
  · refine Triple.of_forall fun start hstart => ?_
    apply Triple.bind (Q := fun guard state => guard = start ∧ state = start)
      (Triple.get fun state hstate => ⟨hstate, hstate⟩)
    intro guard
    apply Triple.bind (Q := fun registered state => guard = start ∧ state = start ∧
      registered.2.protectedMetricPrefix = guard.policy.protectedMetricPrefix)
    · exact Triple.check
        (fun registered state hregistered hstate =>
          ⟨hstate.1, hstate.2, (protects_of_registered sandbox hregistered).1⟩)
        (fun _ state _ hstate => by rw [hstate.2]; exact hstart.1)
    · intro registered
      refine Triple.modify fun state hstate => ?_
      obtain ⟨rfl, rfl, hkept⟩ := hstate
      exact ⟨hkept.trans hstart.1, hstart.2⟩
  · exact Triple.pure fun guard h => h

/-- Reading the database into the index leaves the database and the protected
beginning alone. -/
theorem syncExisting_spec (database : ProgramDatabase) (items : List (String × Program)) :
    Triple (fun guard => Protects guard ∧ guard.database = database)
      (syncExisting sandbox items)
      (fun _ guard => Protects guard ∧ guard.database = database)
      (fun _ guard => Protects guard) := by
  induction items with
  | nil => exact Triple.pure fun guard h => h
  | cons item rest ih =>
    obtain ⟨programId, program⟩ := item
    refine Triple.of_forall fun start hstart => ?_
    rw [syncExisting]
    apply Triple.bind (Q := fun guard state => guard = start ∧ state = start)
      (Triple.get fun state hstate => ⟨hstate, hstate⟩)
    intro guard
    split
    · exact ih.pre fun state hstate => by rw [hstate.2]; exact hstart
    · refine Triple.bind (Q := fun _ state => Protects state ∧ state.database = database)
        ((registerExisting_spec sandbox database program).pre fun state hstate => by
          rw [hstate.2]; exact hstart) fun _ => ?_
      exact Triple.bind (Q := fun _ state => Protects state ∧ state.database = database)
        (Triple.modify fun state hstate => hstate) fun _ => ih

theorem keepForTrace_kept {database : ProgramDatabase} {program : Program}
    {iteration targetIsland : Option Int} {kept : ProgramDatabase × Program}
    (h : keepForTrace database program iteration targetIsland = .ok kept) :
    kept.2.metrics = program.metrics ∧ kept.2.parentId = program.parentId ∧
      kept.2.admission = program.admission := by
  unfold keepForTrace at h
  rw [except_bind_ok_iff] at h
  obtain ⟨found, hfound, hkept⟩ := h
  cases hkept
  have hround : (foundAt program iteration).metrics = program.metrics ∧
      (foundAt program iteration).parentId = program.parentId ∧
      (foundAt program iteration).admission = program.admission := by
    cases iteration with
    | none => exact ⟨rfl, rfl, rfl⟩
    | some round => exact ⟨rfl, rfl, rfl⟩
  cases targetIsland with
  | none =>
    cases hfound
    exact hround
  | some island =>
    rw [placed] at hfound
    split at hfound
    · cases hfound
    · cases hfound
      exact hround

/-- What an add that returned found: the decision of the policy on the program
and on what the database held under the name of its parent. -/
structure Decided (database : ProgramDatabase) (program marked : Program) : Prop where
  metrics_eq : marked.metrics = program.metrics
  parentId_eq : marked.parentId = program.parentId
  assessed : ∃ (policy : AdmissionPolicy) (decision : AdmissionDecision),
    marked.admission = some decision ∧
    policy.protectedMetricPrefix = casePrefix ∧
    policy.assessReported sandbox program.code program.metrics
      ((parentOf database program).map (·.metrics)) = .ok decision

theorem guardedAdd_spec (database : ProgramDatabase) (program : Program)
    (iteration targetIsland : Option Int) :
    Triple (fun guard => Protects guard ∧ guard.database = database)
      (guardedAdd sandbox runtime program iteration targetIsland)
      (fun marked guard => Protects guard ∧ Decided sandbox database program marked)
      (fun _ guard => Protects guard) := by
  rw [guardedAdd]
  apply Triple.bind (Q := fun started state => Protects state ∧ state.database = database)
    (Triple.get fun state hstate => hstate)
  intro started
  refine Triple.bind (syncExisting_spec sandbox database _) fun _ => ?_
  refine Triple.of_forall fun synced hsynced => ?_
  apply Triple.bind (Q := fun guard state => guard = synced ∧ state = synced)
    (Triple.get fun state hstate => ⟨hstate, hstate⟩)
  intro guard
  apply Triple.bind (Q := fun registered state => guard = synced ∧ state = synced ∧
    registered.2.protectedMetricPrefix = casePrefix ∧
    guard.policy.assessReported sandbox program.code program.metrics
      ((parentOf guard.database program).map (·.metrics)) = .ok registered.1)
  · refine Triple.check (fun registered state hregistered hstate => ?_)
      (fun _ state _ hstate => by rw [hstate.2]; exact hsynced.1)
    obtain ⟨rfl, rfl⟩ := hstate
    obtain ⟨hkept, hassessed⟩ := protects_of_registered sandbox hregistered
    exact ⟨rfl, rfl, hkept.trans hsynced.1, hassessed⟩
  · intro registered
    refine Triple.of_forall fun state hstate => ?_
    obtain ⟨rfl, rfl, hcase, hassessed⟩ := hstate
    have hdecided : ∀ marked : Program, marked.metrics = program.metrics →
        marked.parentId = program.parentId → marked.admission = some registered.1 →
        Decided sandbox database program marked := by
      intro marked hmetrics hparent hadmission
      refine ⟨hmetrics, hparent, _, registered.1, hadmission, hsynced.1, ?_⟩
      rw [← hsynced.2]
      exact hassessed
    refine Triple.bind (Q := fun _ state => Protects state) ?_ fun _ => ?_
    · exact Triple.modify fun _ _ => hcase
    refine Triple.bind (Q := fun _ state => Protects state) ?_ fun _ => ?_
    · exact Triple.check (fun _ _ _ hstate => hstate) (fun _ _ _ hstate => hstate)
    refine Triple.bind (Q := fun _ state => Protects state) ?_ fun _ => ?_
    · exact Triple.modify fun _ hstate => hstate
    split
    · refine Triple.bind (Q := fun _ state => Protects state) ?_ fun _ => ?_
      · exact Triple.modify fun _ hstate => hstate
      · exact Triple.pure fun state hstate => ⟨hstate, hdecided _ rfl rfl rfl⟩
    · apply Triple.bind (Q := fun kept state => Protects state ∧
        Decided sandbox database program kept.2)
      · refine Triple.check (fun kept state hkept hstate => ?_) (fun _ state _ hstate => hstate)
        obtain ⟨hmetrics, hparent, hadmission⟩ := keepForTrace_kept hkept
        exact ⟨hstate, hdecided kept.2 hmetrics hparent hadmission⟩
      · intro kept
        refine Triple.bind (Q := fun _ state => Protects state ∧
          Decided sandbox database program kept.2) ?_ fun _ => ?_
        · exact Triple.modify fun _ hstate => hstate
        · exact Triple.pure fun _ hstate => hstate

variable {sandbox runtime}

theorem accepted_noneLost {guard : OpenEvolveAdmissionGuard} {accepted : List Program}
    {program marked older : Program} {decision : AdmissionDecision}
    (hcomparable : Comparable guard accepted program)
    (hdecided : Decided sandbox guard.database program marked)
    (hadmission : marked.admission = some decision) (haccepted : decision.accepted = true)
    (holder : older ∈ accepted) (hparent : marked.parentId = some older.id) :
    NoneLost casePrefix older.metrics marked.metrics := by
  obtain ⟨hmetrics, hparentId, policy, found, hfound, hcase, hassessed⟩ := hdecided
  rw [hadmission, Option.some_inj] at hfound
  subst hfound
  obtain ⟨hheld, hmeasured⟩ := hcomparable older holder (hparentId ▸ hparent)
  rw [hheld] at hassessed
  have hpresentable := AdmissionPolicy.presentable_of_accepted hassessed haccepted
  rw [hcase] at hpresentable
  rw [hmetrics]
  exact hpresentable.noneLost hmeasured

/-- One accepted program and another that names it as its parent. -/
def KeepsParent (newer older : Program) : Prop :=
  newer.parentId = some older.id → NoneLost casePrefix older.metrics newer.metrics

theorem Run.sound {guard : OpenEvolveAdmissionGuard} {accepted : List Program}
    (h : Run sandbox runtime guard accepted) : Protects guard ∧ accepted.Pairwise KeepsParent := by
  induction h with
  | install limit hlimit database => exact ⟨rfl, List.Pairwise.nil⟩
  | openEvolve database _ ih => exact ih
  | accept _ hcomparable hadd hadmission haccepted ih =>
    obtain ⟨hprotects, hdecided⟩ :=
      (guardedAdd_spec sandbox runtime _ _ _ _ _ ⟨ih.1, rfl⟩).1 _ _ hadd
    refine ⟨hprotects, List.Pairwise.cons (fun older holder => ?_) ih.2⟩
    intro hparent
    exact accepted_noneLost hcomparable hdecided hadmission haccepted holder hparent
  | refuse _ hadd _ _ ih =>
    exact ⟨((guardedAdd_spec sandbox runtime _ _ _ _ _ ⟨ih.1, rfl⟩).1 _ _ hadd).1, ih.2⟩
  | raise _ hadd ih =>
    exact ⟨(guardedAdd_spec sandbox runtime _ _ _ _ _ ⟨ih.1, rfl⟩).2 _ _ hadd, ih.2⟩

/-- A lineage: each program, newest first, names the next one as its parent. -/
def Lineage (chain : List Program) : Prop :=
  chain.IsChain fun newer older => newer.parentId = some older.id

theorem keeps_of_lineage {chain : List Program} (hkeeps : chain.Pairwise KeepsParent)
    (hlineage : Lineage chain) :
    chain.Pairwise fun newer older => NoneLost casePrefix older.metrics newer.metrics := by
  have htrans : Trans (fun newer older : Program => NoneLost casePrefix older.metrics newer.metrics)
      (fun newer older : Program => NoneLost casePrefix older.metrics newer.metrics)
      (fun newer older : Program => NoneLost casePrefix older.metrics newer.metrics) :=
    ⟨fun hnewer holder => holder.trans hnewer⟩
  refine List.IsChain.pairwise ?_
  induction chain with
  | nil => exact List.IsChain.nil
  | cons newest rest ih =>
    cases rest with
    | nil => exact List.IsChain.singleton newest
    | cons older others =>
      obtain ⟨hhere, hrest⟩ := List.pairwise_cons.mp hkeeps
      obtain ⟨hparent, hothers⟩ := List.isChain_cons_cons.mp hlineage
      exact List.isChain_cons_cons.mpr ⟨hhere older List.mem_cons_self hparent, ih hrest hothers⟩

end OpenEvolveAdmissionGuard

/-- Every accepted call loses no case exactly where metrics that give no reason
to refuse measure each passed case of the parent; and in a run whose accepted
adds are comparable, the passed cases never shrink along an accepted lineage. -/
theorem admission_keeps_cases (sandbox : Sandbox Records Output) :
    (∀ (start : String) (parent child : ReportedMetrics),
      (∀ (policy next : AdmissionPolicy) (source : String) (decision : AdmissionDecision),
        policy.protectedMetricPrefix = start →
        policy.assessAndRegisterReported sandbox source child (some parent) =
          .ok (decision, next) →
        decision.accepted = true → NoneLost start parent child) ↔
        (Presentable start parent child → Measured start parent child)) ∧
    ∀ (runtime : OpenEvolve) (guard : OpenEvolveAdmissionGuard) (accepted : List Program),
      OpenEvolveAdmissionGuard.Run sandbox runtime guard accepted →
      ∀ chain : List Program, chain.Sublist accepted → OpenEvolveAdmissionGuard.Lineage chain →
        chain.Pairwise fun newer older => NoneLost casePrefix older.metrics newer.metrics := by
  constructor
  · intro start parent child
    constructor
    · intro hcalls hpresentable
      obtain ⟨decision, next, hcall, haccepted⟩ :=
        AdmissionPolicy.accepted_of_empty sandbox "" hpresentable
      exact (hcalls _ next "" decision rfl hcall haccepted).measured
    · intro hmeasured policy next source decision hstart hcall haccepted
      obtain ⟨-, hassessed⟩ := OpenEvolveAdmissionGuard.protects_of_registered sandbox hcall
      have hpresentable := AdmissionPolicy.presentable_of_accepted hassessed haccepted
      rw [hstart] at hpresentable
      exact hpresentable.noneLost (hmeasured hpresentable)
  · intro runtime guard accepted hrun chain hchain hlineage
    exact OpenEvolveAdmissionGuard.keeps_of_lineage (hrun.sound.2.sublist hchain) hlineage

/-! A child whose evaluation timed out reports none of the cases its parent
passed. -/

/-- A runtime that parses no text. -/
def unparsed : Sandbox Unit Unit :=
  ⟨fun _ => none, fun _ => none, fun operatorId source _ => ⟨operatorId, source, false, false, none⟩⟩

def onePassed : ReportedMetrics :=
  ⟨[("case_a", .finite 1), ("combined_score", .finite 1), ("evaluator_valid", .finite 1)],
    by decide⟩

def timedOut : ReportedMetrics := ⟨[("error", .finite 0), ("timeout", .finite 1)], by decide⟩

theorem protectedKeys_timedOut : timedOut.protectedKeys casePrefix = [] := by decide

theorem presentable_timedOut : Presentable casePrefix onePassed timedOut := by
  refine ⟨?_, ?_, ?_, by decide, ?_⟩
  · rw [protectedKeys_timedOut]
    intro key hkey
    exact absurd hkey List.not_mem_nil
  · rw [protectedKeys_timedOut]
    intro key hkey
    exact absurd hkey List.not_mem_nil
  · decide
  · rw [protectedKeys_timedOut]
    intro key hkey
    exact absurd hkey List.not_mem_nil

theorem timeout_drops_case :
    ∃ decision next,
      (AdmissionPolicy.empty casePrefix).assessAndRegisterReported unparsed
        "def solve(records):\n    while True:\n        pass\n" timedOut (some onePassed) =
        .ok (decision, next) ∧
      decision.accepted = true ∧ ¬ NoneLost casePrefix onePassed timedOut := by
  obtain ⟨decision, next, hcall, haccepted⟩ := AdmissionPolicy.accepted_of_empty unparsed
    "def solve(records):\n    while True:\n        pass\n" presentable_timedOut
  refine ⟨decision, next, hcall, haccepted, ?_⟩
  intro hnone
  have hcase := hnone "case_a" (by decide) (by decide)
  exact absurd hcase (by decide)

end JlensEvolve.Epistasis
