import JlensEvolve.Epistasis.GuardedLineage

/-!
Rebuilding the index of an admission policy. What the index holds of its history
is the set of accepted texts, the set of accepted trees and how often each
behaviour was accepted, and that an accepted program was acceptable says nothing
about the order: so the accepted programs alone, in any order and without
parents, rebuild the index, and a guard that loads a checkpoint of them decides
as the one that made it.
-/

namespace JlensEvolve.Epistasis

open Library

variable {Records Output : Type}

/-- What is assessed of a program. -/
structure Submission where
  source : String
  metrics : ReportedMetrics

/-- The arguments of `assess_and_register`. -/
structure Assessment where
  submission : Submission
  parentMetrics : Option ReportedMetrics

theorem value_empty (key : String) :
    ReportedMetrics.value Dict.empty key 0 = .finite 0 := rfl

theorem Presentable.alone {start : String} {parent child : ReportedMetrics}
    (h : Presentable start parent child) : Presentable start Dict.empty child where
  child_read := h.child_read
  parent_read _ _ := Metric.noConfusion
  valid_read := h.valid_read
  valid := h.valid
  kept key _ hwhole := by
    rw [value_empty] at hwhole
    exact absurd hwhole (by decide)

namespace AdmissionPolicy

section Histories

variable (sandbox : Sandbox Records Output)

/-- `AdmissionPolicy(protected_metric_prefix=start, behavior_equivalent_limit=limit)`. -/
def started (start : String) (limit : Nat) (hlimit : 1 ≤ limit) : AdmissionPolicy :=
  ⟨start, limit, [], [], Dict.empty, hlimit⟩

/-- A call of `assess_and_register`; one that raises leaves the policy as it was. -/
def answer (policy : AdmissionPolicy) (call : Assessment) :
    Except String AdmissionDecision × AdmissionPolicy :=
  match policy.assessAndRegisterReported sandbox call.submission.source call.submission.metrics
      call.parentMetrics with
  | .ok registered => (.ok registered.1, registered.2)
  | .error error => (.error error, policy)

/-- What is accepted of a call. -/
def takenIn (call : Assessment) : Except String AdmissionDecision → List Submission
  | .ok decision => if decision.accepted then [call.submission] else []
  | .error _ => []

/-- The policy after a sequence of calls, and the programs that it accepted, newest first. -/
def history (policy : AdmissionPolicy) (accepted : List Submission) :
    List Assessment → AdmissionPolicy × List Submission
  | [] => (policy, accepted)
  | call :: rest =>
    let answered := policy.answer sandbox call
    history answered.2 (takenIn call answered.1 ++ accepted) rest

/-- The decisions of a sequence of calls. -/
def answers (policy : AdmissionPolicy) : List Assessment → List (Except String AdmissionDecision)
  | [] => []
  | call :: rest =>
    let answered := policy.answer sandbox call
    answered.1 :: answers answered.2 rest

/-- `assess_and_register(source, metrics, None)` for one program after the other. -/
def feed (policy : AdmissionPolicy) :
    List Submission → Except String (List AdmissionDecision × AdmissionPolicy)
  | [] => .ok ([], policy)
  | submission :: rest => do
    let registered ← policy.assessAndRegisterReported sandbox submission.source
      submission.metrics none
    let others ← feed registered.2 rest
    return (registered.1 :: others.1, others.2)

end Histories

/-- The same source hashes, AST hashes and behaviour counts, and the same settings. -/
structure SameIndex (first second : AdmissionPolicy) : Prop where
  protectedMetricPrefix : first.protectedMetricPrefix = second.protectedMetricPrefix
  limit : first.behaviorEquivalentLimit = second.behaviorEquivalentLimit
  sourceHashes : ∀ hash, hash ∈ first.sourceHashes ↔ hash ∈ second.sourceHashes
  astHashes : ∀ hash, hash ∈ first.astHashes ↔ hash ∈ second.astHashes
  behaviorCounts : ∀ signature,
    first.behaviorCounts.get? signature = second.behaviorCounts.get? signature

variable {sandbox : Sandbox Records Output} {policy first second : AdmissionPolicy}

theorem SameIndex.noveltyReasons (h : SameIndex first second)
    (sourceHash astHash signature : String) :
    first.noveltyReasons sourceHash astHash signature =
      second.noveltyReasons sourceHash astHash signature := by
  simp only [AdmissionPolicy.noveltyReasons, h.sourceHashes, h.astHashes, h.limit,
    h.behaviorCounts]

theorem SameIndex.assessReported (h : SameIndex first second) (source : String)
    (metrics : ReportedMetrics) (parent : Option ReportedMetrics) :
    first.assessReported sandbox source metrics parent =
      second.assessReported sandbox source metrics parent := by
  simp only [AdmissionPolicy.assessReported, h.noveltyReasons, h.protectedMetricPrefix]

theorem SameIndex.register (h : SameIndex first second) (decision : AdmissionDecision) :
    SameIndex (first.register decision) (second.register decision) where
  protectedMetricPrefix := h.protectedMetricPrefix
  limit := h.limit
  sourceHashes hash := by
    simp only [AdmissionPolicy.register, List.mem_cons, h.sourceHashes]
  astHashes hash := by
    simp only [AdmissionPolicy.register, List.mem_cons, h.astHashes]
  behaviorCounts signature := by
    simp only [AdmissionPolicy.register, Dict.get?_set, h.behaviorCounts]

theorem SameIndex.registered (h : SameIndex first second) (sandbox : Sandbox Records Output)
    (source : String)
    (metrics : ReportedMetrics) (parent : Option ReportedMetrics) :
    (∃ one two, first.assessAndRegisterReported sandbox source metrics parent = .ok one ∧
        second.assessAndRegisterReported sandbox source metrics parent = .ok two ∧
        one.1 = two.1 ∧ SameIndex one.2 two.2) ∨
      ∃ error, first.assessAndRegisterReported sandbox source metrics parent = .error error ∧
        second.assessAndRegisterReported sandbox source metrics parent = .error error := by
  unfold assessAndRegisterReported
  rw [h.assessReported]
  cases second.assessReported sandbox source metrics parent with
  | error error => exact Or.inr ⟨error, rfl, rfl⟩
  | ok decision =>
    refine Or.inl ⟨_, _, rfl, rfl, rfl, ?_⟩
    cases decision.accepted with
    | true => exact h.register decision
    | false => exact h

theorem SameIndex.answer (h : SameIndex first second) (sandbox : Sandbox Records Output)
    (call : Assessment) :
    (first.answer sandbox call).1 = (second.answer sandbox call).1 ∧
      SameIndex (first.answer sandbox call).2 (second.answer sandbox call).2 := by
  obtain ⟨one, two, hone, htwo, hsame, hindex⟩ | ⟨error, hone, htwo⟩ :=
    h.registered sandbox call.submission.source call.submission.metrics
      call.parentMetrics
  · simp only [AdmissionPolicy.answer, hone, htwo, hsame]
    exact ⟨trivial, hindex⟩
  · simp only [AdmissionPolicy.answer, hone, htwo]
    exact ⟨trivial, h⟩

theorem SameIndex.answers (h : SameIndex first second) (calls : List Assessment) :
    first.answers sandbox calls = second.answers sandbox calls := by
  induction calls generalizing first second with
  | nil => rfl
  | cons call rest ih =>
    obtain ⟨hanswer, hindex⟩ := h.answer sandbox call
    simp only [AdmissionPolicy.answers, hanswer, ih hindex]

section Indexes

variable (sandbox) (start : String) (limit : Nat)

def sourceHashOf (submission : Submission) : String :=
  (sourceFingerprints sandbox submission.source).1

def astHashOf (submission : Submission) : String :=
  (sourceFingerprints sandbox submission.source).2

/-- The program has the behaviour. -/
def shows (signature : String) (submission : Submission) : Bool :=
  match submission.metrics.behaviorSignature start with
  | .ok found => found = signature
  | .error _ => false

/-- Programs that a policy can have accepted, in whatever order. -/
structure Admissible (accepted : List Submission) : Prop where
  presentable : ∀ submission ∈ accepted, Presentable start Dict.empty submission.metrics
  sourceHashes : (accepted.map (sourceHashOf sandbox)).Nodup
  astHashes : (accepted.map (astHashOf sandbox)).Nodup
  behaviours : ∀ signature, accepted.countP (shows start signature) ≤ limit

/-- The policy is the index of the accepted programs. -/
structure Indexes (policy : AdmissionPolicy) (accepted : List Submission) : Prop where
  protectedMetricPrefix : policy.protectedMetricPrefix = start
  limit_eq : policy.behaviorEquivalentLimit = limit
  sourceHashes : ∀ hash, hash ∈ policy.sourceHashes ↔ hash ∈ accepted.map (sourceHashOf sandbox)
  astHashes : ∀ hash, hash ∈ policy.astHashes ↔ hash ∈ accepted.map (astHashOf sandbox)
  behaviorCounts : ∀ signature, policy.behaviorCounts.get? signature =
    if accepted.countP (shows start signature) = 0 then none
    else some (accepted.countP (shows start signature))

variable {sandbox start limit} {accepted others : List Submission} {submission : Submission}

theorem Admissible.perm (h : Admissible sandbox start limit accepted)
    (hperm : accepted.Perm others) : Admissible sandbox start limit others where
  presentable other hother := h.presentable other (hperm.mem_iff.mpr hother)
  sourceHashes := (hperm.map _).nodup_iff.mp h.sourceHashes
  astHashes := (hperm.map _).nodup_iff.mp h.astHashes
  behaviours signature := hperm.countP_eq _ ▸ h.behaviours signature

theorem Admissible.tail (h : Admissible sandbox start limit (submission :: accepted)) :
    Admissible sandbox start limit accepted where
  presentable other hother := h.presentable other (List.mem_cons_of_mem _ hother)
  sourceHashes := (List.nodup_cons.mp h.sourceHashes).2
  astHashes := (List.nodup_cons.mp h.astHashes).2
  behaviours signature :=
    ((List.sublist_cons_self submission accepted).countP_le).trans (h.behaviours signature)

theorem Admissible.of_append (h : Admissible sandbox start limit (others ++ accepted)) :
    Admissible sandbox start limit accepted := by
  induction others with
  | nil => exact h
  | cons submission rest ih => exact ih h.tail

theorem Indexes.same (h : Indexes sandbox start limit first accepted)
    (h' : Indexes sandbox start limit second others) (hperm : accepted.Perm others) :
    SameIndex first second where
  protectedMetricPrefix := h.protectedMetricPrefix.trans h'.protectedMetricPrefix.symm
  limit := h.limit_eq.trans h'.limit_eq.symm
  sourceHashes hash := by
    rw [h.sourceHashes, h'.sourceHashes, (hperm.map _).mem_iff]
  astHashes hash := by
    rw [h.astHashes, h'.astHashes, (hperm.map _).mem_iff]
  behaviorCounts signature := by
    rw [h.behaviorCounts, h'.behaviorCounts, hperm.countP_eq]

theorem indexes_started (hlimit : 1 ≤ limit) :
    Indexes sandbox start limit (started start limit hlimit) [] where
  protectedMetricPrefix := rfl
  limit_eq := rfl
  sourceHashes _ := Iff.rfl
  astHashes _ := Iff.rfl
  behaviorCounts _ := rfl

theorem admissible_nil : Admissible sandbox start limit [] where
  presentable _ hmem := absurd hmem List.not_mem_nil
  sourceHashes := List.nodup_nil
  astHashes := List.nodup_nil
  behaviours _ := Nat.zero_le _

/-- None of the novelty tests objects to a program exactly when the accepted programs stay
admissible with it. -/
theorem Indexes.novel_iff (h : Indexes sandbox start limit policy accepted) {signature : String} :
    policy.noveltyReasons (sourceHashOf sandbox submission) (astHashOf sandbox submission)
        signature = [] ↔
      sourceHashOf sandbox submission ∉ accepted.map (sourceHashOf sandbox) ∧
        astHashOf sandbox submission ∉ accepted.map (astHashOf sandbox) ∧
        accepted.countP (shows start signature) < limit := by
  have hcount : (policy.behaviorCounts.get? signature).getD 0 =
      accepted.countP (shows start signature) := by
    rw [h.behaviorCounts]
    split
    · rename_i hzero
      exact hzero.symm
    · rfl
  rw [noveltyReasons, hcount, h.limit_eq, ← h.sourceHashes, ← h.astHashes]
  split
  · rename_i hsource
    simp [hsource]
  · rename_i hsource
    split
    · rename_i hast
      simp [hast]
    · rename_i hast
      split
      · rename_i hfull
        simp only [List.cons_ne_nil, false_iff, not_and, not_lt]
        exact fun _ _ => hfull
      · rename_i hroom
        simp only [true_iff]
        exact ⟨hsource, hast, Nat.lt_of_not_le hroom⟩

theorem accepted_parts {source : String} {metrics : ReportedMetrics}
    {parent : Option ReportedMetrics} {decision : AdmissionDecision}
    (h : policy.assessReported sandbox source metrics parent = .ok decision)
    (haccepted : decision.accepted = true) :
    metrics.behaviorSignature policy.protectedMetricPrefix = .ok decision.behaviorSignature ∧
      decision.sourceHash = (sourceFingerprints sandbox source).1 ∧
      decision.astHash = (sourceFingerprints sandbox source).2 ∧
      policy.noveltyReasons decision.sourceHash decision.astHash decision.behaviorSignature = [] ∧
      Presentable policy.protectedMetricPrefix (parent.getD Dict.empty) metrics := by
  have hpresentable : Presentable policy.protectedMetricPrefix (parent.getD Dict.empty) metrics :=
    presentable_of_accepted h haccepted
  simp only [assessReported, except_bind_ok_iff] at h
  obtain ⟨signature, hsignature, lost, -, gained, -, valid, -, hdecision⟩ := h
  cases hdecision
  simp only [List.isEmpty_iff, List.append_eq_nil_iff] at haccepted
  exact ⟨hsignature, rfl, rfl, haccepted.2, hpresentable⟩

theorem countP_cons_shows {signature found : String}
    (h : submission.metrics.behaviorSignature start = .ok signature) :
    (submission :: accepted).countP (shows start found) =
      accepted.countP (shows start found) + if signature = found then 1 else 0 := by
  have hshows : shows start found submission = decide (signature = found) := by
    rw [shows, h]
  rw [List.countP_cons, hshows]
  simp only [decide_eq_true_eq]

theorem Indexes.register (h : Indexes sandbox start limit policy accepted)
    {decision : AdmissionDecision}
    (hsource : decision.sourceHash = sourceHashOf sandbox submission)
    (hast : decision.astHash = astHashOf sandbox submission)
    (hsignature : submission.metrics.behaviorSignature start = .ok decision.behaviorSignature) :
    Indexes sandbox start limit (policy.register decision) (submission :: accepted) where
  protectedMetricPrefix := h.protectedMetricPrefix
  limit_eq := h.limit_eq
  sourceHashes hash := by
    rw [AdmissionPolicy.register, List.map_cons, List.mem_cons, List.mem_cons, h.sourceHashes,
      hsource]
  astHashes hash := by
    rw [AdmissionPolicy.register, List.map_cons, List.mem_cons, List.mem_cons, h.astHashes, hast]
  behaviorCounts found := by
    rw [AdmissionPolicy.register, Dict.get?_set, countP_cons_shows hsignature]
    by_cases hfound : decision.behaviorSignature = found
    · subst hfound
      have hcount : (policy.behaviorCounts.get? decision.behaviorSignature).getD 0 =
          accepted.countP (shows start decision.behaviorSignature) := by
        rw [h.behaviorCounts]
        split
        · rename_i hzero
          exact hzero.symm
        · rfl
      simp [hcount]
    · simp [hfound, Ne.symm hfound, h.behaviorCounts]

theorem Indexes.accept (h : Indexes sandbox start limit policy accepted)
    (hadmissible : Admissible sandbox start limit accepted) {parent : Option ReportedMetrics}
    {decision : AdmissionDecision}
    (hassessed : policy.assessReported sandbox submission.source submission.metrics parent =
      .ok decision) (haccepted : decision.accepted = true) :
    Indexes sandbox start limit (policy.register decision) (submission :: accepted) ∧
      Admissible sandbox start limit (submission :: accepted) := by
  obtain ⟨hsignature, hsource, hast, hnovel, hpresentable⟩ := accepted_parts hassessed haccepted
  rw [h.protectedMetricPrefix] at hsignature hpresentable
  rw [hsource, hast] at hnovel
  obtain ⟨hsourceNew, hastNew, hroom⟩ := h.novel_iff.mp hnovel
  refine ⟨h.register hsource hast hsignature, ?_, ?_, ?_, ?_⟩
  · intro other hother
    obtain rfl | hmem := List.mem_cons.mp hother
    · exact hpresentable.alone
    · exact hadmissible.presentable other hmem
  · rw [List.map_cons]
    exact List.nodup_cons.mpr ⟨hsourceNew, hadmissible.sourceHashes⟩
  · rw [List.map_cons]
    exact List.nodup_cons.mpr ⟨hastNew, hadmissible.astHashes⟩
  · intro found
    rw [countP_cons_shows hsignature]
    by_cases hfound : decision.behaviorSignature = found
    · subst hfound
      rw [if_pos rfl]
      omega
    · rw [if_neg hfound]
      exact hadmissible.behaviours found

theorem Indexes.accepts (h : Indexes sandbox start limit policy accepted)
    (hadmissible : Admissible sandbox start limit (submission :: accepted)) :
    ∃ decision next, policy.assessAndRegisterReported sandbox submission.source
        submission.metrics none = .ok (decision, next) ∧ decision.accepted = true ∧
      Indexes sandbox start limit next (submission :: accepted) := by
  have hpresentable : Presentable policy.protectedMetricPrefix Dict.empty submission.metrics :=
    h.protectedMetricPrefix ▸ hadmissible.presentable submission List.mem_cons_self
  have hnodup := List.nodup_cons.mp hadmissible.sourceHashes
  have hnodupAst := List.nodup_cons.mp hadmissible.astHashes
  have hnovel : ∀ signature,
      submission.metrics.behaviorSignature policy.protectedMetricPrefix = .ok signature →
      policy.noveltyReasons (sourceFingerprints sandbox submission.source).1
        (sourceFingerprints sandbox submission.source).2 signature = [] := by
    intro signature hsignature
    rw [h.protectedMetricPrefix] at hsignature
    refine h.novel_iff.mpr ⟨hnodup.1, hnodupAst.1, ?_⟩
    have hroom := hadmissible.behaviours signature
    rw [countP_cons_shows hsignature, if_pos rfl] at hroom
    omega
  obtain ⟨decision, hdecision, haccepted⟩ := accepted_of_presentable hpresentable hnovel
  have hnone : policy.assessReported sandbox submission.source submission.metrics none =
      .ok decision := hdecision
  obtain ⟨hsignature, hsource, hast, -, -⟩ := accepted_parts hnone haccepted
  rw [h.protectedMetricPrefix] at hsignature
  refine ⟨decision, policy.register decision, ?_, haccepted,
    h.register hsource hast hsignature⟩
  rw [assessAndRegisterReported, hnone]
  simp only [bind, Except.bind, pure, Except.pure, haccepted, if_true]

end Indexes

section Rebuilds

variable {start : String} {limit : Nat} {accepted order : List Submission}

theorem Indexes.answer (h : Indexes sandbox start limit policy accepted)
    (hadmissible : Admissible sandbox start limit accepted) (call : Assessment) :
    Indexes sandbox start limit (policy.answer sandbox call).2
        (takenIn call (policy.answer sandbox call).1 ++ accepted) ∧
      Admissible sandbox start limit (takenIn call (policy.answer sandbox call).1 ++ accepted) := by
  unfold AdmissionPolicy.answer assessAndRegisterReported
  cases hassessed : policy.assessReported sandbox call.submission.source call.submission.metrics
      call.parentMetrics with
  | error error => exact ⟨h, hadmissible⟩
  | ok decision =>
    cases haccepted : decision.accepted with
    | true =>
      simp only [bind, Except.bind, pure, Except.pure, takenIn, haccepted, if_true]
      exact h.accept hadmissible hassessed haccepted
    | false =>
      simp only [bind, Except.bind, pure, Except.pure, takenIn, haccepted, if_false,
        Bool.false_eq_true, List.nil_append]
      exact ⟨h, hadmissible⟩

theorem Indexes.history (h : Indexes sandbox start limit policy accepted)
    (hadmissible : Admissible sandbox start limit accepted) (calls : List Assessment) :
    Indexes sandbox start limit (policy.history sandbox accepted calls).1
        (policy.history sandbox accepted calls).2 ∧
      Admissible sandbox start limit (policy.history sandbox accepted calls).2 := by
  induction calls generalizing policy accepted with
  | nil => exact ⟨h, hadmissible⟩
  | cons call rest ih =>
    obtain ⟨hnext, hadmissibleNext⟩ := h.answer hadmissible call
    exact ih hnext hadmissibleNext

theorem Indexes.feed (h : Indexes sandbox start limit policy accepted)
    (hadmissible : Admissible sandbox start limit (order.reverse ++ accepted)) :
    ∃ decisions rebuilt, policy.feed sandbox order = .ok (decisions, rebuilt) ∧
      (∀ decision ∈ decisions, decision.accepted = true) ∧
      decisions.length = order.length ∧
      Indexes sandbox start limit rebuilt (order.reverse ++ accepted) := by
  induction order generalizing policy accepted with
  | nil => exact ⟨[], policy, rfl, fun _ hmem => absurd hmem List.not_mem_nil, rfl, h⟩
  | cons submission rest ih =>
    rw [List.reverse_cons, List.append_assoc, List.singleton_append] at hadmissible ⊢
    have hhere : Admissible sandbox start limit (submission :: accepted) :=
      hadmissible.of_append
    obtain ⟨decision, next, hcall, haccepted, hnext⟩ := h.accepts hhere
    obtain ⟨decisions, rebuilt, hrest, hall, hlength, hrebuilt⟩ := ih hnext hadmissible
    refine ⟨decision :: decisions, rebuilt, ?_, ?_, congrArg (· + 1) hlength, hrebuilt⟩
    · rw [AdmissionPolicy.feed, hcall]
      simp only [bind, Except.bind, hrest]
      rfl
    · exact List.forall_mem_cons.mpr ⟨haccepted, hall⟩

end Rebuilds

end AdmissionPolicy

namespace OpenEvolveAdmissionGuard

open AdmissionPolicy

variable (sandbox : Sandbox Records Output) (runtime : OpenEvolve)

/-- The programs of a database that the guard feeds to its policy. -/
def fed (items : List (String × Program)) : List Submission :=
  items.filterMap fun item =>
    if (item.2.admission.map (·.accepted)).getD true then some ⟨item.2.code, item.2.metrics⟩
    else none

/-- Guards that have the same database, the same index and know of the same programs. -/
structure Alike (first second : OpenEvolveAdmissionGuard) : Prop where
  database : first.database = second.database
  policy : SameIndex first.policy second.policy
  indexedProgramIds : ∀ programId,
    programId ∈ first.indexedProgramIds ↔ programId ∈ second.indexedProgramIds

variable {sandbox runtime} {first second guard : OpenEvolveAdmissionGuard}

theorem Alike.withPolicy (h : Alike first second) {one two : AdmissionPolicy}
    (hindex : SameIndex one two) :
    Alike { first with policy := one } { second with policy := two } :=
  ⟨h.database, hindex, h.indexedProgramIds⟩

theorem Alike.indexed (h : Alike first second) (programId : String) :
    Alike { first with indexedProgramIds := programId :: first.indexedProgramIds }
      { second with indexedProgramIds := programId :: second.indexedProgramIds } :=
  ⟨h.database, h.policy, fun other => by rw [List.mem_cons, List.mem_cons, h.indexedProgramIds]⟩

theorem Alike.withDatabase (h : Alike first second) (database : ProgramDatabase) :
    Alike { first with database := database } { second with database := database } :=
  ⟨rfl, h.policy, h.indexedProgramIds⟩

theorem check_registered (h : Alike first second) (source : String) (metrics : ReportedMetrics)
    (parent : Option ReportedMetrics) :
    Coupled (fun s t => s = first ∧ t = second)
      (check (first.policy.assessAndRegisterReported sandbox source metrics parent))
      (check (second.policy.assessAndRegisterReported sandbox source metrics parent))
      (fun one two s t => s = first ∧ t = second ∧ one.1 = two.1 ∧ SameIndex one.2 two.2)
      Alike := by
  obtain ⟨one, two, hone, htwo, hsame, hindex⟩ | ⟨error, hone, htwo⟩ :=
    h.policy.registered sandbox source metrics parent
  · exact Coupled.check (Or.inl ⟨one, two, hone, htwo, fun s t hst =>
      ⟨hst.1, hst.2, hsame, hindex⟩⟩)
  · refine Coupled.check (Or.inr ⟨error, hone, htwo, ?_⟩)
    rintro s t ⟨rfl, rfl⟩
    exact h

theorem registerExisting_coupled (program : Program) :
    Coupled Alike (registerExisting sandbox program) (registerExisting sandbox program)
      (fun _ _ => Alike) Alike := by
  rw [registerExisting]
  split
  · refine Coupled.of_forall fun first second halike => ?_
    apply Coupled.bind (Q := fun one two s t => one = first ∧ two = second ∧ s = first ∧ t = second)
      (Coupled.get fun s t hst => ⟨hst.1, hst.2, hst.1, hst.2⟩)
    intro one two
    refine Coupled.of_forall fun s t hst => ?_
    obtain ⟨rfl, rfl, rfl, rfl⟩ := hst
    refine Coupled.bind (check_registered halike program.code program.metrics none) ?_
    intro registered registered'
    refine Coupled.modify fun s t hst => ?_
    exact halike.withPolicy hst.2.2.2
  · exact Coupled.pure fun _ _ h => h

theorem syncExisting_coupled (items : List (String × Program)) :
    Coupled Alike (syncExisting sandbox items) (syncExisting sandbox items)
      (fun _ _ => Alike) Alike := by
  induction items with
  | nil => exact Coupled.pure fun _ _ h => h
  | cons item rest ih =>
    obtain ⟨programId, program⟩ := item
    rw [syncExisting]
    refine Coupled.of_forall fun first second halike => ?_
    apply Coupled.bind
      (Q := fun one two s t => one = first ∧ two = second ∧ s = first ∧ t = second)
      (Coupled.get fun s t hst => ⟨hst.1, hst.2, hst.1, hst.2⟩)
    intro one two
    refine Coupled.of_forall fun s t hst => ?_
    obtain ⟨rfl, rfl, rfl, rfl⟩ := hst
    have hpre : ∀ s' t', s' = s ∧ t' = t → Alike s' t' := by
      rintro s' t' ⟨rfl, rfl⟩
      exact halike
    by_cases hindexed : programId ∈ s.indexedProgramIds
    · rw [if_pos hindexed, if_pos ((halike.indexedProgramIds programId).mp hindexed)]
      exact ih.pre hpre
    · rw [if_neg hindexed,
        if_neg fun h => hindexed ((halike.indexedProgramIds programId).mpr h)]
      refine Coupled.bind ((registerExisting_coupled program).pre hpre) fun _ _ => ?_
      exact Coupled.bind (Q := fun _ _ => Alike)
        (Coupled.modify fun s t hst => hst.indexed programId) fun _ _ => ih

theorem guardedAdd_coupled (runtime : OpenEvolve) (program : Program) (iteration targetIsland : Option Int) :
    Coupled Alike (guardedAdd sandbox runtime program iteration targetIsland)
      (guardedAdd sandbox runtime program iteration targetIsland)
      (fun marked marked' s t => marked = marked' ∧ Alike s t) Alike := by
  rw [guardedAdd]
  apply Coupled.bind (Q := fun one two s t => one.database = two.database ∧ Alike s t)
    (Coupled.get fun s t hst => ⟨hst.database, hst⟩)
  intro started started'
  refine Coupled.of_forall fun s t hst => ?_
  obtain ⟨hdatabase, halike⟩ := hst
  rw [hdatabase]
  refine Coupled.bind ((syncExisting_coupled started'.database.programs.entries).pre
    (by rintro s' t' ⟨rfl, rfl⟩; exact halike)) fun _ _ => ?_
  refine Coupled.of_forall fun first second hsynced => ?_
  apply Coupled.bind (Q := fun one two s t => one = first ∧ two = second ∧ s = first ∧ t = second)
    (Coupled.get fun s t hst => ⟨hst.1, hst.2, hst.1, hst.2⟩)
  intro one two
  refine Coupled.of_forall fun s t hst => ?_
  obtain ⟨rfl, rfl, rfl, rfl⟩ := hst
  rw [hsynced.database]
  refine Coupled.bind (check_registered hsynced _ _ _) ?_
  intro registered registered'
  refine Coupled.of_forall fun s' t' hst => ?_
  obtain ⟨rfl, rfl, hdecision, hindex⟩ := hst
  rw [hdecision]
  refine Coupled.bind (Q := fun _ _ => Alike) (Coupled.modify ?_) fun _ _ => ?_
  · rintro _ _ ⟨rfl, rfl⟩
    exact hsynced.withPolicy hindex
  refine Coupled.bind (Q := fun _ _ => Alike)
    (Coupled.check_same (fun _ _ _ _ h => h) (fun _ _ h => h)) fun _ _ => ?_
  refine Coupled.bind (Q := fun _ _ => Alike)
    (Coupled.modify fun _ _ h => h.indexed program.id) fun _ _ => ?_
  split
  · exact Coupled.bind (Q := fun _ _ => Alike)
      (Coupled.modify fun _ _ h => h.withDatabase _) fun _ _ => Coupled.pure fun _ _ h => ⟨rfl, h⟩
  · apply Coupled.bind (Q := fun kept kept' s t => kept = kept' ∧ Alike s t)
      (Coupled.check_same (fun _ _ _ _ h => ⟨rfl, h⟩) (fun _ _ h => h))
    intro kept kept'
    refine Coupled.of_forall fun s t hst => ?_
    obtain ⟨rfl, halikeKept⟩ := hst
    refine Coupled.bind (Q := fun _ _ => Alike) (Coupled.modify ?_) fun _ _ =>
      Coupled.pure fun _ _ h => ⟨rfl, h⟩
    rintro _ _ ⟨rfl, rfl⟩
    exact halikeKept.withDatabase kept.1

/-! ### Syncing -/

section Syncing

variable {limit : Nat} {accepted : List Submission} {items : List (String × Program)}

theorem syncExisting_indexed (h : ∀ item ∈ items, item.1 ∈ guard.indexedProgramIds) :
    (syncExisting sandbox items).run guard = .ok () guard := by
  induction items with
  | nil => rfl
  | cons item rest ih =>
    obtain ⟨programId, program⟩ := item
    obtain ⟨hhere, hrest⟩ := List.forall_mem_cons.mp h
    rw [syncExisting, run_bind_get, if_pos hhere]
    exact ih hrest

theorem registerExisting_rebuilds {programId : String} {program : Program}
    {rest : List (String × Program)}
    (hindex : Indexes sandbox casePrefix limit guard.policy accepted)
    (hadmissible : Admissible sandbox casePrefix limit
      ((fed ((programId, program) :: rest)).reverse ++ accepted)) :
    ∃ policy others, (registerExisting sandbox program).run guard =
        .ok () { guard with policy := policy } ∧
      Indexes sandbox casePrefix limit policy others ∧
      (fed ((programId, program) :: rest)).reverse ++ accepted = (fed rest).reverse ++ others := by
  rw [registerExisting]
  by_cases hfed : (program.admission.map (·.accepted)).getD true = true
  · have hcons : fed ((programId, program) :: rest) =
        ⟨program.code, program.metrics⟩ :: fed rest := by
      rw [fed, List.filterMap_cons, if_pos hfed]
      rfl
    rw [hcons, List.reverse_cons, List.append_assoc, List.singleton_append] at hadmissible ⊢
    obtain ⟨decision, next, hcall, -, hnext⟩ := hindex.accepts hadmissible.of_append
    refine ⟨next, _, ?_, hnext, rfl⟩
    rw [if_pos hfed, run_bind_get, hcall]
    rfl
  · have hskip : fed ((programId, program) :: rest) = fed rest := by
      rw [fed, List.filterMap_cons, if_neg hfed]
      rfl
    rw [hskip]
    refine ⟨guard.policy, accepted, ?_, hindex, rfl⟩
    rw [if_neg hfed]
    rfl

/-- A guard that knows of no program of a loaded database rebuilds the index of those that
were accepted. -/
theorem syncExisting_rebuilds (hnodup : (items.map Prod.fst).Nodup)
    (hnew : ∀ item ∈ items, item.1 ∉ guard.indexedProgramIds)
    (hindex : Indexes sandbox casePrefix limit guard.policy accepted)
    (hadmissible : Admissible sandbox casePrefix limit ((fed items).reverse ++ accepted)) :
    ∃ next, (syncExisting sandbox items).run guard = .ok () next ∧
      next.database = guard.database ∧
      (∀ programId, programId ∈ next.indexedProgramIds ↔
        programId ∈ items.map Prod.fst ∨ programId ∈ guard.indexedProgramIds) ∧
      Indexes sandbox casePrefix limit next.policy ((fed items).reverse ++ accepted) := by
  induction items generalizing guard accepted with
  | nil => exact ⟨guard, rfl, rfl, fun _ => by simp, hindex⟩
  | cons item rest ih =>
    obtain ⟨programId, program⟩ := item
    obtain ⟨hapart, hnodupRest⟩ := List.nodup_cons.mp hnodup
    obtain ⟨hhere, hrest⟩ := List.forall_mem_cons.mp hnew
    obtain ⟨policy, others, hrun, hpolicy, hfed⟩ :=
      registerExisting_rebuilds hindex hadmissible
    rw [hfed] at hadmissible ⊢
    have hnewRest : ∀ other ∈ rest, other.1 ∉ ({ guard with
        policy := policy
        indexedProgramIds := programId :: guard.indexedProgramIds } :
          OpenEvolveAdmissionGuard).indexedProgramIds := by
      intro other hother
      rw [List.mem_cons, not_or]
      refine ⟨?_, hrest other hother⟩
      intro hsame
      have hmem : other.1 ∈ rest.map Prod.fst := List.mem_map_of_mem hother
      exact hapart (hsame ▸ hmem)
    obtain ⟨next, hnext, hdatabase, hindexed, hrebuilt⟩ :=
      ih hnodupRest hnewRest hpolicy hadmissible
    refine ⟨next, ?_, hdatabase, ?_, hrebuilt⟩
    · rw [syncExisting, run_bind_get, if_neg hhere,
        run_bind_of_ok (u := { guard with policy := policy }) (a := ()) _ hrun]
      exact hnext
    · intro other
      rw [hindexed, List.map_cons, List.mem_cons, List.mem_cons]
      constructor
      · rintro (hmem | rfl | hmem)
        · exact Or.inl (Or.inr hmem)
        · exact Or.inl (Or.inl rfl)
        · exact Or.inr hmem
      · rintro ((rfl | hmem) | hmem)
        · exact Or.inr (Or.inl rfl)
        · exact Or.inl hmem
        · exact Or.inr (Or.inr hmem)

end Syncing

/-! ### Later decisions -/

/-- What happens to a guard after a checkpoint: programs are added, and OpenEvolve changes
its database. -/
inductive Later where
  | add (program : Program) (iteration targetIsland : Option Int)
  | openEvolve (change : ProgramDatabase → ProgramDatabase)

variable (sandbox runtime)

/-- The answers of a guard: the program marked with its decision, or what was raised. -/
def answers (guard : OpenEvolveAdmissionGuard) : List Later → List (Except String Program)
  | [] => []
  | .add program iteration targetIsland :: rest =>
    match (guardedAdd sandbox runtime program iteration targetIsland).run guard with
    | .ok marked next => .ok marked :: answers next rest
    | .error error next => .error error :: answers next rest
  | .openEvolve change :: rest =>
    answers { guard with database := change guard.database } rest

variable {sandbox runtime}

theorem Alike.answers (h : Alike first second) (later : List Later) :
    answers sandbox runtime first later = answers sandbox runtime second later := by
  induction later generalizing first second with
  | nil => rfl
  | cons event rest ih =>
    cases event with
    | openEvolve change =>
      rw [OpenEvolveAdmissionGuard.answers, OpenEvolveAdmissionGuard.answers, h.database]
      exact ih (h.withDatabase _)
    | add program iteration targetIsland =>
      rw [OpenEvolveAdmissionGuard.answers, OpenEvolveAdmissionGuard.answers]
      obtain ⟨marked, marked', s, t, hs, ht, rfl, hst⟩ | ⟨error, s, t, hs, ht, hst⟩ :=
        guardedAdd_coupled runtime program iteration targetIsland first second h
      · have hrest := ih hst
        rw [hs, ht]
        exact congrArg _ hrest
      · have hrest := ih hst
        rw [hs, ht]
        exact congrArg _ hrest

theorem answers_synced {next : OpenEvolveAdmissionGuard}
    (hsync : (syncExisting sandbox guard.database.programs.entries).run guard = .ok () next)
    (hindexed : ∀ item ∈ next.database.programs.entries, item.1 ∈ next.indexedProgramIds)
    (program : Program) (iteration targetIsland : Option Int) (later : List Later) :
    answers sandbox runtime guard (.add program iteration targetIsland :: later) =
      answers sandbox runtime next (.add program iteration targetIsland :: later) := by
  have hrun : (guardedAdd sandbox runtime program iteration targetIsland).run guard =
      (guardedAdd sandbox runtime program iteration targetIsland).run next := by
    rw [guardedAdd, run_bind_get,
      run_bind_get, run_bind_of_ok _ hsync,
      run_bind_of_ok _ (syncExisting_indexed hindexed)]
  rw [answers, answers, hrun]

end OpenEvolveAdmissionGuard

namespace AdmissionPolicy

open OpenEvolveAdmissionGuard

/-- The accepted programs of any history, fed to a fresh policy in any order and without
their parents, are all accepted and rebuild its index, so the later decisions are the same;
and a guard that is installed on a database that holds them decides as the guard of that
history. -/
theorem rebuild_exact (sandbox : Sandbox Records Output) (runtime : OpenEvolve) (start : String)
    (limit : Nat) (hlimit : 1 ≤ limit) (calls : List Assessment) :
    (∀ order : List Submission,
      order.Perm ((started start limit hlimit).history sandbox [] calls).2 →
      ∃ decisions rebuilt, (started start limit hlimit).feed sandbox order =
          .ok (decisions, rebuilt) ∧
        decisions.length = order.length ∧ (∀ decision ∈ decisions, decision.accepted = true) ∧
        SameIndex rebuilt ((started start limit hlimit).history sandbox [] calls).1 ∧
        ∀ later, rebuilt.answers sandbox later =
          ((started start limit hlimit).history sandbox [] calls).1.answers sandbox later) ∧
    ∀ guard : OpenEvolveAdmissionGuard,
      guard.policy = ((started casePrefix limit hlimit).history sandbox [] calls).1 →
      (∀ programId, programId ∈ guard.indexedProgramIds ↔
        programId ∈ guard.database.programs.keys) →
      (fed guard.database.programs.entries).Perm
        ((started casePrefix limit hlimit).history sandbox [] calls).2 →
      ∀ program iteration targetIsland later,
        OpenEvolveAdmissionGuard.answers sandbox runtime (installed limit hlimit guard.database)
            (.add program iteration targetIsland :: later) =
          OpenEvolveAdmissionGuard.answers sandbox runtime guard
            (.add program iteration targetIsland :: later) := by
  have hstarted : ∀ beginning,
      Indexes sandbox beginning limit (started beginning limit hlimit) [] := fun beginning =>
    indexes_started hlimit
  have hhistory : ∀ beginning, _ := fun beginning =>
    (hstarted beginning).history admissible_nil calls
  constructor
  · intro order hperm
    obtain ⟨hindex, hadmissible⟩ := hhistory start
    have horder : ((order.reverse ++ []).Perm
        ((started start limit hlimit).history sandbox [] calls).2) := by
      rw [List.append_nil]
      exact (List.reverse_perm order).trans hperm
    obtain ⟨decisions, rebuilt, hfeed, haccepted, hlength, hrebuilt⟩ :=
      (indexes_started hlimit).feed (hadmissible.perm horder.symm)
    have hsame := hrebuilt.same hindex horder
    exact ⟨decisions, rebuilt, hfeed, hlength, haccepted, hsame, hsame.answers⟩
  · intro guard hpolicy hindexed hfed program iteration targetIsland later
    obtain ⟨hindex, hadmissible⟩ := hhistory casePrefix
    have horder : (((fed guard.database.programs.entries).reverse ++ []).Perm
        ((started casePrefix limit hlimit).history sandbox [] calls).2) := by
      rw [List.append_nil]
      exact (List.reverse_perm _).trans hfed
    have hnew : ∀ item ∈ guard.database.programs.entries,
        item.1 ∉ (installed limit hlimit guard.database).indexedProgramIds := fun _ _ =>
      List.not_mem_nil
    obtain ⟨next, hsync, hdatabase, hknown, hrebuilt⟩ :=
      syncExisting_rebuilds guard.database.programs.nodup_keys hnew (indexes_started hlimit)
        (hadmissible.perm horder.symm)
    have halike : Alike next guard := by
      refine ⟨hdatabase, hpolicy ▸ hrebuilt.same hindex horder, fun programId => ?_⟩
      rw [hknown, hindexed]
      exact or_iff_left List.not_mem_nil
    rw [answers_synced hsync (by
      intro item hitem
      rw [hdatabase] at hitem
      exact (hknown item.1).mpr (Or.inl (List.mem_map_of_mem hitem)))]
    exact halike.answers _

def timedOutCall : Assessment := ⟨⟨"x = 1", timedOut⟩, none⟩

theorem history_timedOut :
    ((started casePrefix 2 one_le_two).history unparsed [] [timedOutCall]).2 =
      [⟨"x = 1", timedOut⟩] := by
  have hadmissible : Admissible unparsed casePrefix 2 [⟨"x = 1", timedOut⟩] := by
    refine ⟨?_, List.nodup_singleton _, List.nodup_singleton _, fun signature => ?_⟩
    · intro submission hmem
      rw [List.mem_singleton.mp hmem]
      exact presentable_timedOut.alone
    · exact (List.countP_le_length).trans (Nat.le_succ 1)
  obtain ⟨decision, next, hcall, haccepted, -⟩ :=
    (indexes_started one_le_two).accepts hadmissible
  rw [history, history, answer, timedOutCall, hcall]
  simp only [takenIn, haccepted, if_true, List.append_nil]

def timedOutGuard : OpenEvolveAdmissionGuard where
  policy := ((started casePrefix 2 one_le_two).history unparsed [] [timedOutCall]).1
  indexedProgramIds := ["a"]
  database :=
    ⟨Dict.empty.set "a" ⟨"a", "x = 1", none, timedOut, none, 0, none⟩, 0, 1⟩

/-- An OpenEvolve that records nothing and adds nothing. -/
def idle : OpenEvolve := ⟨fun database _ _ _ => database, fun _ _ _ _ => .ok ()⟩

theorem rebuild_exact_timed_out :
    (∃ decisions rebuilt, (started casePrefix 2 one_le_two).feed unparsed
        [⟨"x = 1", timedOut⟩] = .ok (decisions, rebuilt) ∧ decisions.length = 1 ∧
      SameIndex rebuilt timedOutGuard.policy) ∧
    ∀ later, OpenEvolveAdmissionGuard.answers unparsed idle
        (installed 2 one_le_two timedOutGuard.database)
        (.add ⟨"b", "x = 1", none, timedOut, none, 0, none⟩ none none :: later) =
      OpenEvolveAdmissionGuard.answers unparsed idle timedOutGuard
        (.add ⟨"b", "x = 1", none, timedOut, none, 0, none⟩ none none :: later) := by
  obtain ⟨hpolicy, hguard⟩ :=
    rebuild_exact unparsed idle casePrefix 2 one_le_two [timedOutCall]
  rw [history_timedOut] at hpolicy hguard
  constructor
  · obtain ⟨decisions, rebuilt, hfeed, hlength, -, hsame, -⟩ :=
      hpolicy [⟨"x = 1", timedOut⟩] (List.Perm.refl _)
    exact ⟨decisions, rebuilt, hfeed, hlength, hsame⟩
  · exact hguard timedOutGuard rfl (fun _ => Iff.rfl) (List.Perm.refl _) _ none none

end AdmissionPolicy

end JlensEvolve.Epistasis
