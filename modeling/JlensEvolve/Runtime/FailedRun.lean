import JlensEvolve.Library.JsonChars
import JlensEvolve.Runtime.Resume

/-!
A run whose evaluator fails, in surroundings that answer the same whenever they
are asked. The process stops when the hub is asked about the native fact: the
terminal receipt is still missing, and the hub has not taken the fact.
-/

namespace JlensEvolve.Runtime

open Library Contracts

/-- The call in the same surroundings, with the process stopping at these
points. -/
def Call.stopping (call : Call) (stopped : Nat → Bool) : Call :=
  { call with environment := { call.environment with stopped := stopped } }

def Call.uninterrupted (call : Call) : Call := call.stopping fun _ => false

theorem Steady.stopping {call : Call} (h : Steady call.environment call.authorization)
    (stopped : Nat → Bool) :
    Steady (call.stopping stopped).environment (call.stopping stopped).authorization :=
  ⟨h.clock, h.materialize, h.infer, h.evaluate, h.traceFile, h.listed, h.sink, h.hub⟩

theorem Call.Admitted.stopping {plan : ExecutionPlan} {call : Call} (h : call.Admitted plan)
    (stopped : Nat → Bool) : (call.stopping stopped).Admitted plan :=
  ⟨h.campaign, h.taskEvaluator, h.evaluator, h.allowed⟩

/-- The call is at this tick with this log, and no receipt beyond the log was
observed. -/
structure At (log : List Receipt) (tick : Nat) (world : World) : Prop where
  holds : Holds log world
  next : world.appender.nextSequence = log.length + 1
  tick : world.tick = tick
  seen : ∀ receipt, .observed receipt ∈ world.history → receipt.sequence ≤ (log.length : Int)

section At

variable {environment : Environment} {authorization : Authorization} {plan : ExecutionPlan}
  {log next : List Receipt} {tick : Nat} {kind : String} {payload : Payload}

theorem interact_at {α : Type} (hgo : environment.stopped tick = false) (answer : Nat → α) :
    Triple (At log tick) (interact environment answer)
      (fun value world => value = answer tick ∧ At log (tick + 1) world) (fun _ _ => False) := by
  apply Triple.of_forall
  rintro world ⟨hholds, hnext, rfl, hseen⟩
  apply (interact_spec answer world).conseq (fun _ heq => heq)
  · rintro value other ⟨-, rfl, rfl⟩
    exact ⟨rfl, hholds.congr rfl rfl, hnext, rfl, hseen⟩
  · rintro raised other ⟨hstopped, -, -⟩
    exact absurd (hgo.symm.trans hstopped) (by decide)

theorem appendFact_at (hsteady : Steady environment authorization)
    (hgo : ∀ earlier < tick + 3, environment.stopped earlier = false)
    (hput : put plan kind payload log = some next) :
    Triple (At log tick) (appendFact environment plan kind payload)
      (fun receipt world => blank receipt = entry plan log kind payload ∧
        At next (tick + 3) world) (fun _ _ => False) := by
  apply Triple.of_forall
  rintro world ⟨hholds, hnext, rfl, hseen⟩
  apply (appendFact_paced hsteady hholds hnext).conseq (fun _ heq => heq)
  · rintro receipt other ⟨hblank, hsome, hother, hsequence, htick, hhistory, -⟩
    obtain rfl : next = log ++ [blank receipt] := Option.some.inj (hput.symm.trans hsome)
    refine ⟨hblank, hother, hsequence, htick, ?_⟩
    intro observed hmem
    rw [hhistory, List.mem_append] at hmem
    rw [List.length_append, List.length_singleton]
    rcases hmem with hmem | hmem
    · have hle := hseen observed hmem
      omega
    · obtain rfl : observed = receipt := by simpa using hmem
      have hnumber := congrArg Receipt.sequence hblank
      change observed.sequence = (log.length : Int) + 1 at hnumber
      omega
  · rintro raised other ⟨-, ⟨-, ⟨⟨hstopped, hlt⟩, -⟩ | hnone⟩ | ⟨⟨hstopped, hlt⟩, -⟩⟩
    · exact absurd ((hgo _ (by omega)).symm.trans hstopped) (by decide)
    · rw [hput] at hnone
      cases hnone
    · exact absurd ((hgo _ hlt).symm.trans hstopped) (by decide)

theorem appendFact_stopped (hsteady : Steady environment authorization)
    (hgo : ∀ earlier < tick + 2, environment.stopped earlier = false)
    (hstopped : environment.stopped (tick + 2) = true)
    (hput : put plan kind payload log = some next) :
    Triple (At log tick) (appendFact environment plan kind payload) (fun _ _ => False)
      (fun _ world => Holds next world ∧
        ∀ receipt, .observed receipt ∈ world.history → receipt.sequence ≤ (log.length : Int)) := by
  apply Triple.of_forall
  rintro world ⟨hholds, hnext, rfl, hseen⟩
  apply (appendFact_paced hsteady hholds hnext).conseq (fun _ heq => heq)
  · rintro receipt other ⟨-, -, -, -, -, -, hgoes⟩
    exact absurd (hgoes.symm.trans hstopped) (by decide)
  · rintro raised other ⟨-, ⟨-, ⟨⟨hstops, hlt⟩, -⟩ | hnone⟩ | ⟨-, receipt, hsome, hother, hhistory⟩⟩
    · exact absurd ((hgo _ hlt).symm.trans hstops) (by decide)
    · rw [hput] at hnone
      cases hnone
    · obtain rfl : next = log ++ [blank receipt] := Option.some.inj (hput.symm.trans hsome)
      refine ⟨hother, ?_⟩
      intro observed hmem
      rw [hhistory, List.mem_append] at hmem
      apply hseen observed
      simpa using hmem

end At

/-- The answers of a run whose evaluator fails, and the log after each fact. -/
structure FailedRun (plan : ExecutionPlan) (call : Call) where
  materialized : Payload
  answer : Payload
  trace : Payload
  cost : Payload
  amount : ℚ
  reason : String
  workspaceLog : List Receipt
  modelLog : List Receipt
  traceLog : List Receipt
  costLog : List Receipt
  nativeLog : List Receipt
  unpredicted : call.prediction = none
  materializes : call.environment.materialize 0 plan = .ok materialized
  infers : call.environment.infer 0 plan (workspacePayload plan materialized) = .ok answer
  untraced : payloadGet (modelPayload plan answer) "internal_trace" = .null
  traces : externalTrace plan (entry plan workspaceLog "model" (modelPayload plan answer)) =
    .ok trace
  costs : costPayload call.environment plan (modelPayload plan answer) = .ok cost
  recorded : recordedCost call.environment (entry plan traceLog "cost" cost) = .ok amount
  affordable : ¬ plan.limits.maxCostCny < amount
  mode : executionMode plan = .str "full"
  fails : call.environment.evaluate 0 plan (workspacePayload plan materialized)
    (modelPayload plan answer) = .error (.evaluatorInfrastructure reason)
  putWorkspace : put plan "workspace" (workspacePayload plan materialized) [] = some workspaceLog
  putModel : put plan "model" (modelPayload plan answer) workspaceLog = some modelLog
  putTrace : put plan "external_trace" trace modelLog = some traceLog
  putCost : put plan "cost" cost traceLog = some costLog
  putNative : put plan "native_evaluation" (evaluatorErrorPayload plan
    (entry plan workspaceLog "model" (modelPayload plan answer)) reason) costLog = some nativeLog

section Run

variable {plan : ExecutionPlan} {call : Call}

/-- The process stops when the hub is asked about the native fact. -/
def atNativeFact (tick : Nat) : Bool := tick = 19

theorem go_of_lt {limit : Nat} (h : limit ≤ 19) :
    ∀ earlier < limit, (call.stopping atNativeFact).environment.stopped earlier = false := by
  intro earlier hlt
  exact decide_eq_false (by omega)

theorem receiptsFor_at (hsteady : Steady call.environment call.authorization) :
    Triple (At [] 0) (receiptsFor (call.stopping atNativeFact).environment)
      (fun receipts world => receipts = [] ∧ At [] 1 world) (fun _ _ => False) := by
  unfold receiptsFor
  apply Triple.bind (interact_at (go_of_lt (Nat.le_add_left 1 18) 0 Nat.one_pos) _)
  intro listed
  apply Triple.of_forall
  rintro world ⟨rfl, h⟩
  apply Triple.bind (Q := fun current other => current = world ∧ other = world)
    (Triple.get fun other hother => ⟨hother, hother⟩)
  intro current
  apply Triple.of_forall
  rintro other ⟨rfl, rfl⟩
  have hlisted : (call.stopping atNativeFact).environment.listed 0 = true := hsteady.listed 0
  have hnone : other.receipts = [] := List.map_eq_nil_iff.mp h.holds.receipts
  rw [hlisted, h.holds.intact]
  apply Triple.bind (Q := fun _ final => final = other)
    (Triple.raiseIf (fun _ _ hfinal => hfinal) nofun)
  intro _
  exact Triple.pure fun final hfinal => ⟨hnone, hfinal ▸ h⟩

theorem admission_at (hsteady : Steady call.environment call.authorization)
    (hadmitted : call.Admitted plan) :
    Triple (At [] 1)
      (validateAdmission (call.stopping atNativeFact).environment plan
        (call.stopping atNativeFact).authorization)
      (fun _ => At [] 2) (fun _ _ => False) := by
  have hthere := hadmitted.stopping atNativeFact
  unfold validateAdmission
  rw [(require_ok_iff _ _ ()).mpr hthere.campaign,
    (require_ok_iff _ _ ()).mpr hthere.taskEvaluator,
    (require_ok_iff _ _ ()).mpr hthere.evaluator]
  have hpass : Triple (At [] 1) (contract (.ok ())) (fun _ => At [] 1) (fun _ _ => False) :=
    Triple.pure fun _ h => h
  apply Triple.bind hpass
  intro _
  apply Triple.bind hpass
  intro _
  apply Triple.bind hpass
  intro _
  apply Triple.bind (interact_at (go_of_lt (Nat.le_add_left 2 17) 1 Nat.one_lt_two) _)
  intro reading
  apply Triple.of_forall
  rintro world ⟨rfl, h⟩
  obtain ⟨now, hnow, hbefore⟩ := (hsteady.stopping atNativeFact).clock 1
  rw [hnow]
  dsimp only
  rw [hthere.allowed now hbefore]
  exact Triple.pure fun _ hother => hother ▸ h

theorem At.noting {log : List Receipt} {tick : Nat} {world : World} (h : At log tick world)
    {happening : Happening} (hother : ∀ receipt, happening ≠ .observed receipt) :
    At log tick (world.noting happening) := by
  refine ⟨h.holds.congr rfl rfl, h.next, h.tick, ?_⟩
  intro receipt hmem
  rcases List.mem_append.mp hmem with hmem | hmem
  · exact h.seen receipt hmem
  · exact absurd (List.mem_singleton.mp hmem).symm (hother receipt)

theorem fact_at (hsteady : Steady call.environment call.authorization) {log next : List Receipt}
    {tick : Nat} (htick : tick + 3 ≤ 19) {kind : String} {payload : Payload}
    (hput : put plan kind payload log = some next) :
    Triple (At log tick)
      (appendFact (call.stopping atNativeFact).environment plan kind payload)
      (fun receipt world => blank receipt = entry plan log kind payload ∧
        At next (tick + 3) world) (fun _ _ => False) :=
  appendFact_at (hsteady.stopping atNativeFact) (go_of_lt htick) hput

section Stages

variable (run : FailedRun plan call)

def FailedRun.modelReceipt : Receipt :=
  entry plan run.workspaceLog "model" (modelPayload plan run.answer)

theorem workspaceStage_at (hsteady : Steady call.environment call.authorization) :
    Triple (At [] 2) (workspaceStage (call.stopping atNativeFact).environment plan [])
      (fun payload world => payload = workspacePayload plan run.materialized ∧
        At run.workspaceLog 6 world) (fun _ _ => False) := by
  have hanswer : (call.stopping atNativeFact).environment.materialize 2 plan =
      .ok run.materialized := by
    rw [(hsteady.stopping atNativeFact).materialize]
    exact run.materializes
  unfold workspaceStage
  apply Triple.bind (Q := fun found world => found = run.materialized ∧ At [] 3 world)
  · unfold materialize
    apply Triple.bind (interact_at (go_of_lt (Nat.le_add_left 3 16) 2 (by decide)) _)
    intro found
    apply Triple.of_forall
    rintro world ⟨rfl, h⟩
    rw [hanswer]
    exact Triple.pure fun other hother => ⟨rfl, hother ▸ h⟩
  · intro found
    apply Triple.of_forall
    rintro world ⟨rfl, h⟩
    apply Triple.bind ((fact_at hsteady (by decide) run.putWorkspace).pre
      fun other (hother : other = world) => hother ▸ h)
    intro receipt
    apply Triple.pure
    rintro other ⟨hblank, hother⟩
    exact ⟨congrArg Receipt.payload hblank, hother⟩

theorem modelStage_at (hsteady : Steady call.environment call.authorization) :
    Triple (At run.workspaceLog 6)
      (modelStage (call.stopping atNativeFact).environment plan []
        (workspacePayload plan run.materialized))
      (fun receipt world => blank receipt = run.modelReceipt ∧ At run.modelLog 10 world)
      (fun _ _ => False) := by
  have hanswer : (call.stopping atNativeFact).environment.infer 6 plan
      (workspacePayload plan run.materialized) = .ok run.answer := by
    rw [(hsteady.stopping atNativeFact).infer]
    exact run.infers
  unfold modelStage
  apply Triple.bind (Q := fun found world => found = run.answer ∧ At run.workspaceLog 7 world)
  · unfold infer
    apply Triple.bind (interact_at (go_of_lt (Nat.le_add_left 7 12) 6 (by decide)) _)
    intro found
    apply Triple.of_forall
    rintro world ⟨rfl, h⟩
    rw [hanswer]
    apply Triple.bind (Q := fun _ => At run.workspaceLog 7)
    · exact Triple.modify fun other hother => hother ▸ h.noting nofun
    · exact fun _ => Triple.pure fun other hother => ⟨rfl, hother⟩
  · intro found
    apply Triple.of_forall
    rintro world ⟨rfl, h⟩
    exact (fact_at hsteady (by decide) run.putModel).pre
      fun other (hother : other = world) => hother ▸ h

theorem dispatch_at (hsteady : Steady call.environment call.authorization) :
    Triple (At [] 2) (dispatch (call.stopping atNativeFact).environment plan [] none)
      (fun dispatched world => dispatched.1 = workspacePayload plan run.materialized ∧
        blank dispatched.2 = run.modelReceipt ∧ At run.modelLog 10 world)
      (fun _ _ => False) := by
  unfold dispatch
  apply Triple.bind (workspaceStage_at run hsteady)
  intro payload
  apply Triple.of_forall
  rintro world ⟨rfl, h⟩
  apply Triple.bind (Q := fun _ => At run.workspaceLog 6)
  · exact Triple.pure fun other hother => hother ▸ h
  intro _
  apply Triple.bind (modelStage_at run hsteady)
  intro receipt
  exact Triple.pure fun other hother => ⟨rfl, hother⟩

theorem traceStage_at (hsteady : Steady call.environment call.authorization)
    {modelReceipt : Receipt} (hmodel : blank modelReceipt = run.modelReceipt) :
    Triple (At run.modelLog 10)
      (traceStage (call.stopping atNativeFact).environment plan [] modelReceipt)
      (fun _ => At run.traceLog 13) (fun _ _ => False) := by
  have htrace : externalTrace plan modelReceipt = .ok run.trace := by
    rw [← externalTrace_blank, hmodel]
    exact run.traces
  change Triple _ (contract (externalTrace plan modelReceipt) >>= fun payload =>
    appendFact _ plan "external_trace" payload >>= fun _ => pure ()) _ _
  rw [htrace]
  apply Triple.bind (Q := fun payload world => payload = run.trace ∧ At run.modelLog 10 world)
  · exact Triple.pure fun other hother => ⟨rfl, hother⟩
  intro payload
  apply Triple.of_forall
  rintro world ⟨rfl, h⟩
  apply Triple.bind ((fact_at hsteady (by decide) run.putTrace).pre
    fun other (hother : other = world) => hother ▸ h)
  exact fun _ => Triple.pure fun other hother => hother.2

theorem costStage_at (hsteady : Steady call.environment call.authorization)
    {modelReceipt : Receipt} (hmodel : blank modelReceipt = run.modelReceipt) :
    Triple (At run.traceLog 13)
      (costStage (call.stopping atNativeFact).environment plan [] modelReceipt)
      (fun receipt world => blank receipt = entry plan run.traceLog "cost" run.cost ∧
        At run.costLog 16 world) (fun _ _ => False) := by
  have hcost : costPayload (call.stopping atNativeFact).environment plan modelReceipt.payload =
      .ok run.cost := by
    rw [show modelReceipt.payload = modelPayload plan run.answer from
      congrArg Receipt.payload hmodel]
    exact run.costs
  change Triple _ (check (costPayload _ plan modelReceipt.payload) >>= fun payload =>
    appendFact _ plan "cost" payload) _ _
  rw [hcost]
  apply Triple.bind (Q := fun payload world => payload = run.cost ∧ At run.traceLog 13 world)
  · exact Triple.pure fun other hother => ⟨rfl, hother⟩
  intro payload
  apply Triple.of_forall
  rintro world ⟨rfl, h⟩
  exact (fact_at hsteady (by decide) run.putCost).pre
    fun other (hother : other = world) => hother ▸ h

/-- What the stop leaves. -/
def FailedRun.Left (world : World) : Prop :=
  Holds run.nativeLog world ∧
    ∀ receipt, .observed receipt ∈ world.history →
      receipt.sequence ≤ (run.costLog.length : Int)

theorem nativeStage_at (hsteady : Steady call.environment call.authorization)
    {modelReceipt : Receipt} (hmodel : blank modelReceipt = run.modelReceipt) :
    Triple (At run.costLog 16)
      (nativeStage (call.stopping atNativeFact).environment plan []
        (workspacePayload plan run.materialized) modelReceipt)
      (fun _ _ => False)
      (fun raised world => raised = .evaluatorInfrastructure run.reason ∧
        At run.costLog 17 world) := by
  have hanswer : (call.stopping atNativeFact).environment.evaluate 16 plan
      (workspacePayload plan run.materialized) modelReceipt.payload =
        .error (.evaluatorInfrastructure run.reason) := by
    rw [(hsteady.stopping atNativeFact).evaluate, show modelReceipt.payload =
      modelPayload plan run.answer from congrArg Receipt.payload hmodel]
    exact run.fails
  unfold nativeStage
  apply Triple.bind (Q := fun _ _ => False)
  · unfold evaluate
    apply Triple.bind ((interact_at (go_of_lt (Nat.le_add_left 17 2) 16 (by decide)) _).exc
      fun _ _ hfalse => hfalse.elim)
    intro found
    apply Triple.of_forall
    rintro world ⟨rfl, h⟩
    rw [hanswer]
    apply Triple.bind (Q := fun _ => At run.costLog 17)
    · exact Triple.modify fun other hother => hother ▸ h.noting nofun
    · exact fun _ => Triple.throw fun other hother => ⟨rfl, hother⟩
  · exact fun _ => Triple.of_forall fun _ hfalse => hfalse.elim

theorem conclude_at (hsteady : Steady call.environment call.authorization)
    {modelReceipt : Receipt} (hmodel : blank modelReceipt = run.modelReceipt) :
    Triple (At run.modelLog 10)
      (conclude (call.stopping atNativeFact).environment plan []
        (workspacePayload plan run.materialized) modelReceipt)
      (fun _ _ => False)
      (fun raised world => raised = .evaluatorInfrastructure run.reason ∧
        At run.costLog 17 world) := by
  have huntraced : payloadGet modelReceipt.payload "internal_trace" = .null := by
    rw [show modelReceipt.payload = modelPayload plan run.answer from
      congrArg Receipt.payload hmodel]
    exact run.untraced
  unfold conclude
  apply Triple.bind ((traceStage_at run hsteady hmodel).exc fun _ _ hfalse => hfalse.elim)
  intro _
  apply Triple.bind (Q := fun _ => At run.traceLog 13)
  · unfold internalStage
    rw [huntraced]
    exact Triple.pure fun other hother => hother
  intro _
  apply Triple.bind ((costStage_at run hsteady hmodel).exc fun _ _ hfalse => hfalse.elim)
  intro costReceipt
  apply Triple.of_forall
  rintro world ⟨hblank, h⟩
  have hrecorded : recordedCost (call.stopping atNativeFact).environment costReceipt =
      .ok run.amount := by
    rw [← run.recorded, ← hblank]
    rfl
  rw [hrecorded]
  apply Triple.bind (Q := fun amount other => amount = run.amount ∧ At run.costLog 16 other)
  · exact Triple.pure fun other hother => ⟨rfl, hother ▸ h⟩
  intro amount
  apply Triple.of_forall
  rintro other ⟨rfl, hother⟩
  rw [if_neg run.affordable, run.mode, if_neg (by decide), if_neg (by decide)]
  apply Triple.bind ((nativeStage_at run hsteady hmodel).pre
    fun final (hfinal : final = other) => hfinal ▸ hother)
  exact fun _ => Triple.of_forall fun _ hfalse => hfalse.elim

theorem handle_at (hsteady : Steady call.environment call.authorization)
    {modelReceipt : Receipt} (hmodel : blank modelReceipt = run.modelReceipt) :
    Triple (At run.costLog 17)
      (handle (call.stopping atNativeFact).environment plan (some modelReceipt)
        (.evaluatorInfrastructure run.reason))
      (fun _ _ => False) (fun _ => run.Left) := by
  have hput : put plan "native_evaluation" (evaluatorErrorPayload plan modelReceipt run.reason)
      run.costLog = some run.nativeLog := by
    rw [← evaluatorErrorPayload_blank, hmodel]
    exact run.putNative
  unfold handle
  apply Triple.bind (Q := fun _ _ => False)
  · exact appendFact_stopped (hsteady.stopping atNativeFact) (go_of_lt (Nat.le_refl 19)) rfl hput
  · exact fun _ => Triple.of_forall fun _ hfalse => hfalse.elim

theorem execute_at (hsteady : Steady call.environment call.authorization)
    (hadmitted : call.Admitted plan) :
    Triple (At [] 0) ((call.stopping atNativeFact).execute plan)
      (fun _ => run.Left) (fun _ => run.Left) := by
  have hpass {P : World → Prop} : Triple P (contract (.ok ()) : RunM Unit) (fun _ => P)
      (fun _ => run.Left) := Triple.pure fun _ h => h
  unfold Call.execute execute
  apply Triple.bind ((receiptsFor_at hsteady).exc fun _ _ hfalse => hfalse.elim)
  intro receipts
  apply Triple.of_forall
  rintro world ⟨rfl, h⟩
  have hprediction : (call.stopping atNativeFact).prediction = none := run.unpredicted
  rw [hprediction]
  apply Triple.bind (Q := fun _ => At [] 1) (hpass.pre fun other (hother : other = world) =>
    hother ▸ h)
  intro _
  apply Triple.bind ((admission_at hsteady hadmitted).exc fun _ _ hfalse => hfalse.elim)
  intro _
  apply Triple.bind (Q := fun _ => At [] 2) hpass
  intro _
  apply Triple.bind (Q := fun _ => At [] 2)
  · apply Triple.modify
    intro other hother
    exact ⟨hother.holds.congr rfl rfl, rfl, hother.tick, hother.seen⟩
  intro _
  unfold tryStages
  apply Triple.bind ((dispatch_at run hsteady).attempted.exc fun _ _ hfalse => hfalse.2.elim)
  intro dispatched
  cases dispatched with
  | error raised => exact Triple.of_forall fun _ hfalse => hfalse.2.elim
  | ok dispatched =>
    obtain ⟨payload, modelReceipt⟩ := dispatched
    apply Triple.of_forall
    rintro other ⟨hpayload, hmodel, hother⟩
    dsimp only at hpayload hmodel ⊢
    subst hpayload
    apply Triple.bind (((conclude_at run hsteady hmodel).attempted.pre
      fun final (hfinal : final = other) => hfinal ▸ hother).exc ?_)
    · intro concluded
      cases concluded with
      | ok result => exact Triple.of_forall fun _ hfalse => hfalse.elim
      | error raised =>
        apply Triple.of_forall
        rintro final ⟨-, rfl, hfinal⟩
        exact ((handle_at run hsteady hmodel).pre
          fun last (hlast : last = final) => hlast ▸ hfinal).post
            fun _ _ hfalse => hfalse.elim
    · rintro raised final ⟨hraised, rfl, -⟩
      cases hraised

theorem at_empty : At [] 0 World.empty := ⟨⟨rfl, rfl, nofun⟩, rfl, rfl, nofun⟩

theorem FailedRun.left (hsteady : Steady call.environment call.authorization)
    (hadmitted : call.Admitted plan) :
    run.Left (afterCalls plan [call.stopping atNativeFact]) :=
  afterCall_of_triple ((execute_at run hsteady hadmitted).pre
    fun _ (h : _ = World.empty) => h ▸ at_empty)

end Stages

end Run

def sampleTask : TaskRevision where
  taskId := "t"
  revisionId := "t1"
  project := "p"
  cohort := .feedback
  sourceSha256 := "0000000000000000000000000000000000000000000000000000000000000000"
  evaluatorId := "e"
  sourceUri := none
  texts := by decide
  source_isSha256 := by decide
  cohort_notBurned := fun hburned => Cohort.noConfusion hburned

theorem sampleLimits_tokens : (0 : Int) ≤ 0 := by omega

theorem sampleLimits_seconds : (0 : Int) < 1 := by omega

theorem sampleLimits_cost : (0 : ℚ) ≤ 0 := Rat.le_refl

theorem samplePlan_observers : ["o"] ≠ [] := List.cons_ne_nil "o" []

theorem samplePlan_feedback : sampleTask.cohort ≠ .feedback → "feedback-only" ≠ "feedback-only" :=
  fun hother => absurd rfl hother

theorem sampleModel_texts : isText "p" = true ∧ isText "m" = true ∧ isText "1" = true := by decide

theorem samplePlan_texts : ∀ text ∈ ["plan", "c", "s", "r", "baseline", "x", "x", "e",
    "feedback-only"], isText text = true := by
  decide

def samplePlan : ExecutionPlan where
  planId := "plan"
  campaignId := "c"
  strategyId := "s"
  task := sampleTask
  candidateRevisionId := "r"
  arm := "baseline"
  model := ⟨"p", "m", "1", sampleModel_texts⟩
  contextPolicyId := "x"
  toolPolicyId := "x"
  observerPolicyIds := ["o"]
  nativeEvaluatorId := "e"
  limits := ⟨0, 1, 0, sampleLimits_tokens, sampleLimits_seconds, sampleLimits_cost⟩
  holdoutScope := "feedback-only"
  metadata := []
  texts := samplePlan_texts
  observerPolicyIds_ne := samplePlan_observers
  feedbackOnly := samplePlan_feedback

theorem sampleAuthorization_texts : isText "a" = true ∧ isText "c" = true := by decide

theorem feedback_open : Cohort.burned ∉ [Cohort.feedback] ∧ Cohort.finalSealed ∉ [Cohort.feedback] := by
  decide

theorem feedback_ne_nil : [Cohort.feedback] ≠ [] := List.cons_ne_nil _ _

theorem no_cost_nonneg : (0 : ℚ) ≤ 0 := Rat.le_refl

def sampleAuthorization : Authorization where
  authorizationId := "a"
  campaignId := "c"
  allowedCohorts := [.feedback]
  maxCostCny := 0
  maxModelCalls := 1
  expiresAt := 1
  remoteCallsAllowed := false
  texts := sampleAuthorization_texts
  allowedCohorts_ne := feedback_ne_nil
  allowedCohorts_open := feedback_open
  maxCostCny_nonneg := no_cost_nonneg
  maxModelCalls_nonneg := Int.one_nonneg

/-- An evaluator that fails whenever it is asked. -/
def failingCall : Call where
  environment :=
    { remote := false
      evaluatorId := "e"
      clock := fun _ => some 0
      materialize := fun _ _ => .ok []
      infer := fun _ _ _ => .ok []
      evaluate := fun _ _ _ _ => .error (.evaluatorInfrastructure "down")
      traceFile := fun _ _ => ⟨"", false, none, none⟩
      listed := fun _ => true
      sink := fun _ => .stored
      hub := fun _ _ => .returned []
      stopped := fun _ => false
      intOfText := fun _ => none
      floatOfInt := fun value => some value
      floatOfText := fun _ => none }
  authorization := sampleAuthorization
  prediction := none

theorem failingCall_steady : Steady failingCall.environment failingCall.authorization where
  clock := fun _ => ⟨0, rfl, by decide⟩
  materialize := fun _ => rfl
  infer := fun _ => rfl
  evaluate := fun _ => rfl
  traceFile := fun _ => rfl
  listed := fun _ => rfl
  sink := fun _ => rfl
  hub := fun _ _ => ⟨[], rfl⟩

theorem failingCall_admitted : failingCall.Admitted samplePlan where
  campaign := rfl
  taskEvaluator := rfl
  evaluator := rfl
  allowed := by
    intro now hnow
    rw [refusal?_of_live hnow (show (0 : Int) < _ by decide)]
    decide

section Digests

variable {log : List Receipt} {kind : String} {payload : Payload}

/-- What the id of a receipt is the digest of. -/
def identityOf (plan : ExecutionPlan) (sequence : Int) (kind artifact : String) : Json :=
  .obj [("campaign_id", .str plan.campaignId), ("plan_id", .str plan.planId),
    ("sequence", .int sequence), ("kind", .str kind), ("artifact_sha256", .str artifact)]

theorem receiptId_entry (plan : ExecutionPlan) {sequence : Int} {artifact id : String}
    (hartifact : (Json.obj payload).contentSha256 = artifact)
    (hid : (identityOf plan sequence kind artifact).contentSha256 = id)
    (hsequence : (log.length : Int) + 1 = sequence) :
    (entry plan log kind payload).receiptId = "receipt-" ++ id := by
  rw [← hid, ← hartifact, ← hsequence]
  rfl

theorem put_of_fresh (plan : ExecutionPlan) {ids : List String} {id : String}
    (hids : log.map (·.receiptId) = ids) (hid : (entry plan log kind payload).receiptId = id)
    (hfresh : id ∉ ids) :
    put plan kind payload log = some (log ++ [entry plan log kind payload]) := by
  apply if_neg
  rw [List.any_eq_true]
  rintro ⟨prior, hmem, hsame⟩
  apply hfresh
  rw [← hid, ← of_decide_eq_true hsame, ← hids]
  exact List.mem_map_of_mem hmem

def sampleWorkspaceLog : List Receipt :=
  [entry samplePlan [] "workspace" (workspacePayload samplePlan [])]

def sampleModel : Receipt :=
  entry samplePlan sampleWorkspaceLog "model" (modelPayload samplePlan [])

def sampleModelLog : List Receipt := sampleWorkspaceLog ++ [sampleModel]

def sampleTrace (modelReceipt : Receipt) : Payload :=
  [("model_receipt_id", .str modelReceipt.receiptId),
    ("model_artifact_sha256", .str modelReceipt.artifactSha256), ("arm", .str "baseline"),
    ("task_revision_id", .str "t1")]

def sampleTraceLog : List Receipt :=
  sampleModelLog ++ [entry samplePlan sampleModelLog "external_trace" (sampleTrace sampleModel)]

def sampleCost : Payload :=
  [("cost_cny", .float 0), ("input_tokens", .int 0), ("output_tokens", .int 0),
    ("provider", .str "p"), ("model", .str "m"), ("revision", .str "1")]

def sampleCostLog : List Receipt :=
  sampleTraceLog ++ [entry samplePlan sampleTraceLog "cost" sampleCost]

def sampleNativeLog : List Receipt :=
  sampleCostLog ++ [entry samplePlan sampleCostLog "native_evaluation"
    (evaluatorErrorPayload samplePlan sampleModel "down")]

/-- What the plan, the payloads and the identities of the receipts hash to. -/
structure SampleDigests : Prop where
  plan : samplePlan.toJson.contentSha256 =
    "a4c1518631f8ebdc02a2bed9d9641ad290ea13eb48025bfd3d09b1fb76b0bbdd"
  config : (Json.obj
    [("context_policy_id", .str "x"), ("tool_policy_id", .str "x"),
      ("observer_policy_ids", .arr [.str "o"]),
      ("limits", .obj [("max_tokens", .int 0), ("max_seconds", .int 1),
        ("max_cost_cny", .float 0)]),
      ("holdout_scope", .str "feedback-only")]).contentSha256 =
        "2ca1697edc6339f76f6ed2481bdd9ce0fdc0817a1b05a545ae93ebb1d83fa2a9"
  workspace : (Json.obj [("plan_sha256",
    .str "a4c1518631f8ebdc02a2bed9d9641ad290ea13eb48025bfd3d09b1fb76b0bbdd")]).contentSha256 =
      "398ea11f16164461c14774d12ea328c892716f91af6eb947ac4372be4f736ce8"
  model : (Json.obj (modelPayload samplePlan [])).contentSha256 =
    "9744510969dc4d3bb9aad616e5ce3f4f10a1844ea7f49b774520450a626fc225"
  trace : (Json.obj
    [("model_receipt_id",
        .str "receipt-9c708b1bcdff39803b22d41e0173f903813b09999dc91124cf3433d1ecee30c4"),
      ("model_artifact_sha256",
        .str "9744510969dc4d3bb9aad616e5ce3f4f10a1844ea7f49b774520450a626fc225"),
      ("arm", .str "baseline"), ("task_revision_id", .str "t1")]).contentSha256 =
        "0ae87a7d8b7f59d42a836fa2d26e775c97fe9de750a8b19362b8ff123d8afc13"
  cost : (Json.obj sampleCost).contentSha256 =
    "c1c5ffd797ee9cdba3cd806ad395ad1574492314791dcdee6e1bf671e38c14e4"
  native : (Json.obj (updated
    [("arm", .str "baseline"), ("task_revision_id", .str "t1"),
      ("task_source_sha256",
        .str "0000000000000000000000000000000000000000000000000000000000000000"),
      ("model_identity", .str "p/m@1"), ("native_evaluator_id", .str "e"),
      ("execution_config_sha256",
        .str "2ca1697edc6339f76f6ed2481bdd9ce0fdc0817a1b05a545ae93ebb1d83fa2a9")]
    [("model_receipt_id",
        .str "receipt-9c708b1bcdff39803b22d41e0173f903813b09999dc91124cf3433d1ecee30c4"),
      ("model_artifact_sha256",
        .str "9744510969dc4d3bb9aad616e5ce3f4f10a1844ea7f49b774520450a626fc225"),
      ("resolved", .bool false),
      ("evaluator_error", .str ("EvaluatorInfrastructureError: " ++ "down"))])).contentSha256 =
        "3ce5bfae94c077aacd01fefd6a4ff1be8e13f2c5bf5929d5de85ee5f83ed48dd"
  completed : (Json.obj [("status", .str "completed")]).contentSha256 =
    "d0765f73cd5d1df39be353d538ea7c47a017d66a8bd001dc4707240dbb71e58c"
  failed : (Json.obj
    [("status", .str "infra_failure"), ("reason", .str "down")]).contentSha256 =
      "b7550bfa3f0450887350cb80a03757d73d92ab1fcbc077d354bd9e51c8e05e36"
  workspaceId : (identityOf samplePlan 1 "workspace"
    "398ea11f16164461c14774d12ea328c892716f91af6eb947ac4372be4f736ce8").contentSha256 =
      "1bf5306a98145a7e0854a2eee401c149aeedaa895f4810ab69c702f318e8307e"
  modelId : (identityOf samplePlan 2 "model"
    "9744510969dc4d3bb9aad616e5ce3f4f10a1844ea7f49b774520450a626fc225").contentSha256 =
      "9c708b1bcdff39803b22d41e0173f903813b09999dc91124cf3433d1ecee30c4"
  traceId : (identityOf samplePlan 3 "external_trace"
    "0ae87a7d8b7f59d42a836fa2d26e775c97fe9de750a8b19362b8ff123d8afc13").contentSha256 =
      "5e6cca69ae36a27ec384e142b9cd66dc5dede06db08c013364b020c6b3fa8d59"
  costId : (identityOf samplePlan 4 "cost"
    "c1c5ffd797ee9cdba3cd806ad395ad1574492314791dcdee6e1bf671e38c14e4").contentSha256 =
      "ea8e1831f1b2a10d2b607ac8968e7767f3c9fa31fa911b995540aea3a42b2846"
  nativeId : (identityOf samplePlan 5 "native_evaluation"
    "3ce5bfae94c077aacd01fefd6a4ff1be8e13f2c5bf5929d5de85ee5f83ed48dd").contentSha256 =
      "d2746d463133924ee70d8ef370c9024bb9acfe0f2adc9e5d8fe441a4c68760b2"
  completedId : (identityOf samplePlan 6 "execution_terminal"
    "d0765f73cd5d1df39be353d538ea7c47a017d66a8bd001dc4707240dbb71e58c").contentSha256 =
      "e28ead2c637ca5ee72d5ffcd0ac4dda4f0e03fdd612cd96cd2b6b2411b177c16"
  failedId : (identityOf samplePlan 6 "execution_terminal"
    "b7550bfa3f0450887350cb80a03757d73d92ab1fcbc077d354bd9e51c8e05e36").contentSha256 =
      "c17b394f237e660d8d93e978b1cd43be196d19d8c0ede404361cb0db3d81c3d4"

section

variable (digests : SampleDigests)

include digests

theorem sampleWorkspaceLog_ids : sampleWorkspaceLog.map (·.receiptId) =
    ["receipt-1bf5306a98145a7e0854a2eee401c149aeedaa895f4810ab69c702f318e8307e"] := by
  have hartifact : (Json.obj (workspacePayload samplePlan [])).contentSha256 =
      "398ea11f16164461c14774d12ea328c892716f91af6eb947ac4372be4f736ce8" := by
    rw [workspacePayload, ExecutionPlan.contentSha256, digests.plan]
    exact digests.workspace
  rw [sampleWorkspaceLog, List.map_singleton,
    receiptId_entry samplePlan hartifact digests.workspaceId rfl]
  simp only [String.reduceAppend]

theorem sampleModel_artifact : sampleModel.artifactSha256 =
    "9744510969dc4d3bb9aad616e5ce3f4f10a1844ea7f49b774520450a626fc225" :=
  digests.model

theorem sampleModel_id : sampleModel.receiptId =
    "receipt-9c708b1bcdff39803b22d41e0173f903813b09999dc91124cf3433d1ecee30c4" := by
  rw [sampleModel, receiptId_entry samplePlan (sampleModel_artifact digests) digests.modelId rfl]
  simp only [String.reduceAppend]

/-- The ids of the receipts, in order, and of the terminal one that completes. -/
def sampleIds : List String :=
  ["receipt-1bf5306a98145a7e0854a2eee401c149aeedaa895f4810ab69c702f318e8307e",
    "receipt-9c708b1bcdff39803b22d41e0173f903813b09999dc91124cf3433d1ecee30c4",
    "receipt-5e6cca69ae36a27ec384e142b9cd66dc5dede06db08c013364b020c6b3fa8d59",
    "receipt-ea8e1831f1b2a10d2b607ac8968e7767f3c9fa31fa911b995540aea3a42b2846",
    "receipt-d2746d463133924ee70d8ef370c9024bb9acfe0f2adc9e5d8fe441a4c68760b2",
    "receipt-e28ead2c637ca5ee72d5ffcd0ac4dda4f0e03fdd612cd96cd2b6b2411b177c16"]

theorem sampleModelLog_ids : sampleModelLog.map (·.receiptId) = sampleIds.take 2 := by
  rw [sampleModelLog, List.map_append, sampleWorkspaceLog_ids digests, List.map_singleton,
    sampleModel_id digests]
  rfl

theorem sampleTrace_id :
    (entry samplePlan sampleModelLog "external_trace" (sampleTrace sampleModel)).receiptId =
      "receipt-5e6cca69ae36a27ec384e142b9cd66dc5dede06db08c013364b020c6b3fa8d59" := by
  have hartifact : (Json.obj (sampleTrace sampleModel)).contentSha256 =
      "0ae87a7d8b7f59d42a836fa2d26e775c97fe9de750a8b19362b8ff123d8afc13" := by
    rw [sampleTrace, sampleModel_artifact digests, sampleModel_id digests]
    exact digests.trace
  rw [receiptId_entry samplePlan hartifact digests.traceId rfl]
  simp only [String.reduceAppend]

theorem sampleTraceLog_ids : sampleTraceLog.map (·.receiptId) = sampleIds.take 3 := by
  rw [sampleTraceLog, List.map_append, sampleModelLog_ids digests, List.map_singleton,
    sampleTrace_id digests]
  rfl

theorem sampleCost_id : (entry samplePlan sampleTraceLog "cost" sampleCost).receiptId =
    "receipt-ea8e1831f1b2a10d2b607ac8968e7767f3c9fa31fa911b995540aea3a42b2846" := by
  rw [receiptId_entry samplePlan digests.cost digests.costId rfl]
  simp only [String.reduceAppend]

theorem sampleCostLog_ids : sampleCostLog.map (·.receiptId) = sampleIds.take 4 := by
  rw [sampleCostLog, List.map_append, sampleTraceLog_ids digests, List.map_singleton,
    sampleCost_id digests]
  rfl

theorem sampleNative_id : (entry samplePlan sampleCostLog "native_evaluation"
    (evaluatorErrorPayload samplePlan sampleModel "down")).receiptId =
      "receipt-d2746d463133924ee70d8ef370c9024bb9acfe0f2adc9e5d8fe441a4c68760b2" := by
  have hidentity : nativeExecutionIdentity samplePlan =
      [("arm", .str "baseline"), ("task_revision_id", .str "t1"),
        ("task_source_sha256",
          .str "0000000000000000000000000000000000000000000000000000000000000000"),
        ("model_identity", .str "p/m@1"), ("native_evaluator_id", .str "e"),
        ("execution_config_sha256",
          .str "2ca1697edc6339f76f6ed2481bdd9ce0fdc0817a1b05a545ae93ebb1d83fa2a9")] := by
    rw [← digests.config]
    rfl
  have hartifact : (Json.obj (evaluatorErrorPayload samplePlan sampleModel "down")).contentSha256 =
      "3ce5bfae94c077aacd01fefd6a4ff1be8e13f2c5bf5929d5de85ee5f83ed48dd" := by
    rw [evaluatorErrorPayload, hidentity, sampleModel_artifact digests, sampleModel_id digests]
    exact digests.native
  rw [receiptId_entry samplePlan hartifact digests.nativeId rfl]
  simp only [String.reduceAppend]

theorem sampleNativeLog_ids : sampleNativeLog.map (·.receiptId) = sampleIds.take 5 := by
  rw [sampleNativeLog, List.map_append, sampleCostLog_ids digests, List.map_singleton,
    sampleNative_id digests]
  rfl

theorem sampleTerminal_id :
    (entry samplePlan sampleNativeLog "execution_terminal"
      [("status", .str "completed")]).receiptId =
        "receipt-e28ead2c637ca5ee72d5ffcd0ac4dda4f0e03fdd612cd96cd2b6b2411b177c16" := by
  rw [receiptId_entry samplePlan digests.completed digests.completedId rfl]
  simp only [String.reduceAppend]

end

theorem sampleTrace_eq : externalTrace samplePlan sampleModel = .ok (sampleTrace sampleModel) := by
  have htrace (modelReceipt : Receipt) (h : modelReceipt.payload = modelPayload samplePlan []) :
      externalTrace samplePlan modelReceipt = .ok (sampleTrace modelReceipt) := by
    rw [externalTrace, h]
    rfl
  exact htrace sampleModel rfl

theorem sampleDigests : SampleDigests := by
  constructor <;> rw [Json.contentSha256_eq] <;> decide +kernel

def failingRun : FailedRun samplePlan failingCall where
  materialized := []
  answer := []
  trace := sampleTrace sampleModel
  cost := sampleCost
  amount := 0
  reason := "down"
  workspaceLog := sampleWorkspaceLog
  modelLog := sampleModelLog
  traceLog := sampleTraceLog
  costLog := sampleCostLog
  nativeLog := sampleNativeLog
  unpredicted := rfl
  materializes := rfl
  infers := rfl
  untraced := rfl
  traces := sampleTrace_eq
  costs := rfl
  recorded := rfl
  affordable := by decide
  mode := rfl
  fails := rfl
  putWorkspace := rfl
  putModel := put_of_fresh samplePlan (sampleWorkspaceLog_ids sampleDigests)
    (sampleModel_id sampleDigests) (by simp)
  putTrace := put_of_fresh samplePlan (sampleModelLog_ids sampleDigests)
    (sampleTrace_id sampleDigests) (by simp [sampleIds])
  putCost := put_of_fresh samplePlan (sampleTraceLog_ids sampleDigests)
    (sampleCost_id sampleDigests) (by simp [sampleIds])
  putNative := put_of_fresh samplePlan (sampleCostLog_ids sampleDigests)
    (sampleNative_id sampleDigests) (by simp [sampleIds])

theorem failingRun_completes :
    finish samplePlan "completed" [] sampleNativeLog = some "completed" := by
  rw [finish, put_of_fresh samplePlan (sampleNativeLog_ids sampleDigests)
    (sampleTerminal_id sampleDigests) (by simp [sampleIds])]
  rfl

theorem sampleFailure_id :
    (entry samplePlan sampleNativeLog "execution_terminal"
      [("status", .str "infra_failure"), ("reason", .str "down")]).receiptId =
        "receipt-c17b394f237e660d8d93e978b1cd43be196d19d8c0ede404361cb0db3d81c3d4" := by
  rw [receiptId_entry samplePlan sampleDigests.failed sampleDigests.failedId rfl]
  simp only [String.reduceAppend]

theorem failingRun_fails :
    finish samplePlan "infra_failure" [("reason", .str "down")] sampleNativeLog =
      some "infra_failure" := by
  rw [finish, put_of_fresh samplePlan (sampleNativeLog_ids sampleDigests) sampleFailure_id
    (by simp [sampleIds])]
  rfl

end Digests

end JlensEvolve.Runtime
