import JlensEvolve.Runtime.SteadyStages

/-!
A call of `execute` that is stopped anywhere and called again. The two calls
come to the terminal status of an uninterrupted one, but for one place to stop:
between the native fact of an evaluator that failed and its terminal receipt.
-/

namespace JlensEvolve.Runtime

open Library Contracts

section End

variable {course : Course} {authorization : Authorization} {workspace modelReceipt : Receipt}
  {log : List Receipt} {world other : World}

/-- Only a terminal receipt is missing. -/
structure Ready (course : Course) (status : String) (fields : Payload) (log : List Receipt)
    (world : World) : Prop where
  holds : Holds log world
  next : world.appender.nextSequence = log.length + 1
  running : byKind "execution_terminal" log = none
  fits : checkPrediction log course.prediction = .ok ()
  outcome : course.outcome = finish course.plan status fields log
  stays : ∀ other, Holds log other → Stops course.environment ∨ course.outcome = none →
    Comes course other

theorem terminalStatus?_entry (plan : ExecutionPlan) (status : String) (fields : Payload) :
    terminalStatus?
      (log ++ [entry plan log "execution_terminal" (("status", .str status) :: fields)]) =
        some status := by
  rw [terminalStatus?, byKind_entry]
  rfl

theorem terminate_steady (hsteady : Steady course.environment authorization) {status : String}
    {fields : Payload} (h : Ready course status fields log world) :
    Triple (fun other => other = world)
      (terminate course.environment course.plan status fields)
      (fun _ => Comes course) (fun raised other => handled raised = false ∧ Comes course other) := by
  unfold terminate
  apply Triple.bind (Q := fun _ => Comes course)
  · apply (append_steady hsteady h.holds h.next).conseq (fun _ heq => heq)
    · rintro receipt other ⟨hblank, hput, hholds, -⟩
      rw [hblank] at hput hholds
      refine ⟨_, hholds, ?_, Or.inl ⟨?_, ?_⟩, Or.inr ?_⟩
      · rw [checkPrediction_snoc (by rw [entry_kind]; decide)]
        exact h.fits
      · rw [verdict, byKind_entry]
        dsimp only
        rw [terminalStatus?_entry, h.outcome, finish, hput]
        rfl
      · intro reason
        rw [evaluatorErrorLast_snoc]
        rintro ⟨hkind, -⟩
        exact absurd hkind (by rw [entry_kind]; decide)
      · rw [terminalStatus?_entry, h.outcome, finish, hput]
        rfl
    · rintro raised other ⟨hraised, hholds, hend⟩
      refine ⟨hraised, h.stays other hholds ?_⟩
      apply hend.imp_right
      intro hnone
      rw [h.outcome, finish, hnone]
      rfl
  · intro receipt
    apply Triple.bind (Q := fun _ => Comes course)
    · exact Triple.get fun _ hcomes => hcomes
    · exact fun _ => Triple.pure fun _ hcomes => hcomes

theorem Reached.outcome_eq (h : Reached course 6 log) :
    course.outcome = settleEnd course.environment course.plan log := by
  have hall : course.stages = course.stages.take 6 ++ [] := rfl
  rw [← h.outcome, hall, runStages_of_settled h.settled]
  rfl

theorem Standing.ready {known : List Receipt} {pending : List String} {status : String}
    {fields : Payload} (h : Standing course 6 pending known log world)
    (hend : settleEnd course.environment course.plan log = finish course.plan status fields log) :
    Ready course status fields log world :=
  ⟨h.holds, h.next, h.reached.running, h.reached.fits, h.reached.outcome_eq.trans hend,
    fun _ hholds hstop => h.reached.comes hholds hstop⟩

/-- The log has come to the evaluator's stage. -/
structure AtEvaluator (course : Course) (workspace modelReceipt : Receipt) (log : List Receipt) :
    Prop where
  reached : Reached course 6 log
  workspace : byKind "workspace" log = some workspace
  model : byKind "model" log = some (blank modelReceipt)
  cost : ∃ costReceipt cost, byKind "cost" log = some costReceipt ∧
    recordedCost course.environment costReceipt = .ok cost ∧
    ¬ course.plan.limits.maxCostCny < cost
  mode : executionMode course.plan = .str "full"

theorem settleEnd_of_evaluator {environment : Environment} {plan : ExecutionPlan}
    {held : Receipt} (hworkspace : byKind "workspace" log = some workspace)
    (hmodel : byKind "model" log = some held)
    (hcost : ∃ costReceipt cost, byKind "cost" log = some costReceipt ∧
      recordedCost environment costReceipt = .ok cost ∧ ¬ plan.limits.maxCostCny < cost)
    (hmode : executionMode plan = .str "full") :
    settleEnd environment plan log = settleNative environment plan workspace.payload held log := by
  obtain ⟨costReceipt, cost, hfound, hrecorded, hle⟩ := hcost
  simp [settleEnd, hworkspace, hmodel, hfound, hrecorded, hle, hmode, Except.toOption]

theorem AtEvaluator.outcome_eq (h : AtEvaluator course workspace modelReceipt log) :
    course.outcome = settleNative course.environment course.plan workspace.payload
      (blank modelReceipt) log :=
  h.reached.outcome_eq.trans (settleEnd_of_evaluator h.workspace h.model h.cost h.mode)

/-- With one more receipt that no stage looks at, the evaluator's stage is next
all the same. -/
theorem AtEvaluator.verdict_snoc (h : AtEvaluator course workspace modelReceipt log)
    {receipt : Receipt} (hkind : receipt.kind ∉ "execution_terminal" :: stageKinds) :
    verdict course.environment course.plan course.prediction (log ++ [receipt]) =
      settleNative course.environment course.plan workspace.payload (blank modelReceipt)
        (log ++ [receipt]) := by
  have hne {kind : String} (hmem : kind ∈ "execution_terminal" :: stageKinds) :
      byKind kind (log ++ [receipt]) = byKind kind log := by
    apply byKind_snoc_of_ne
    rintro rfl
    exact hkind hmem
  have hsettled : Settled (course.stages.take 6) (log ++ [receipt]) := fun stage hmem =>
    stages_snoc (fun hstage => hkind (List.mem_cons_of_mem _ hstage)) (List.mem_of_mem_take hmem)
      (h.reached.settled stage hmem)
  have hall : course.stages = course.stages.take 6 ++ [] := rfl
  have hrunning : byKind "execution_terminal" (log ++ [receipt]) = none := by
    rw [hne (by decide), h.reached.running]
  obtain ⟨costReceipt, cost, hfound, hrecorded, hle⟩ := h.cost
  rw [verdict_of_running course hrunning, hall, runStages_of_settled hsettled, runStages,
    Option.bind_some]
  exact settleEnd_of_evaluator ((hne (by decide)).trans h.workspace)
    ((hne (by decide)).trans h.model)
    ⟨costReceipt, cost, (hne (by decide)).trans hfound, hrecorded, hle⟩ h.mode

theorem AtEvaluator.verdict_native (h : AtEvaluator course workspace modelReceipt log)
    {receipt : Receipt} (hkind : receipt.kind = "native_evaluation") :
    verdict course.environment course.plan course.prediction (log ++ [receipt]) =
      finish course.plan "completed" [] (log ++ [receipt]) := by
  rw [h.verdict_snoc (by rw [hkind]; decide), settleNative, ← hkind, byKind_snoc_self]

theorem payloadGet_nativePayload {plan : ExecutionPlan} {answer payload : Payload}
    (h : nativePayload plan modelReceipt answer = .ok payload) :
    payloadGet payload "evaluator_error" = .null := by
  simp only [nativePayload, except_bind_ok_iff] at h
  obtain ⟨checked, -, hpayload⟩ := h
  cases hpayload
  have hfield (before : Payload) := field?_updated_snoc before [] "evaluator_error" .null
  rw [List.nil_append] at hfield
  rw [payloadGet, hfield]
  rfl

theorem payloadGet_evaluatorErrorPayload (plan : ExecutionPlan) (reason : String) :
    payloadGet (evaluatorErrorPayload plan modelReceipt reason) "evaluator_error" =
      .str ("EvaluatorInfrastructureError: " ++ reason) := by
  have hfield := field?_updated_snoc (nativeExecutionIdentity plan)
    [("model_receipt_id", .str modelReceipt.receiptId),
      ("model_artifact_sha256", .str modelReceipt.artifactSha256), ("resolved", .bool false)]
    "evaluator_error" (.str ("EvaluatorInfrastructureError: " ++ reason))
  rw [payloadGet, evaluatorErrorPayload]
  exact congrArg (fun found => found.getD .null) hfield

theorem nativePayload_blank (plan : ExecutionPlan) (answer : Payload) :
    nativePayload plan (blank modelReceipt) answer = nativePayload plan modelReceipt answer := rfl

theorem evaluatorErrorPayload_blank (plan : ExecutionPlan) (reason : String) :
    evaluatorErrorPayload plan (blank modelReceipt) reason =
      evaluatorErrorPayload plan modelReceipt reason := rfl

/-- The evaluator failed, and its native fact is still to come. -/
structure Awaits (course : Course) (workspace modelReceipt : Receipt) (reason : String)
    (log : List Receipt) (world : World) : Prop where
  atEvaluator : AtEvaluator course workspace modelReceipt log
  holds : Holds log world
  next : world.appender.nextSequence = log.length + 1
  outcome : course.outcome =
    (put course.plan "native_evaluation" (evaluatorErrorPayload course.plan modelReceipt reason)
      log).bind (finish course.plan "infra_failure" [("reason", .str reason)])

/-- How the stages that need a model receipt raise. -/
def Concluding (course : Course) (workspace modelReceipt : Receipt) (raised : Raised)
    (world : World) : Prop :=
  handled raised = false ∧ Comes course world ∨
    (∃ reason log, raised = .executionInterrupted reason ∧ Refused course raised log world) ∨
    ∃ reason log, raised = .evaluatorInfrastructure reason ∧
      Awaits course workspace modelReceipt reason log world

section Native

variable {known : List Receipt}

theorem AtEvaluator.settle (h : AtEvaluator course workspace modelReceipt log)
    (hnone : byKind "native_evaluation" log = none) :
    course.outcome = settleAnswer course.plan (blank modelReceipt) log
      (course.environment.evaluate 0 course.plan workspace.payload modelReceipt.payload) := by
  rw [h.outcome_eq, settleNative, hnone]
  rfl

theorem AtEvaluator.verdict_interrupted (h : AtEvaluator course workspace modelReceipt log)
    (hnone : byKind "native_evaluation" log = none) {receipt : Receipt}
    (hkind : receipt.kind = "execution_partial") :
    verdict course.environment course.plan course.prediction (log ++ [receipt]) =
      settleAnswer course.plan (blank modelReceipt) (log ++ [receipt])
        (course.environment.evaluate 0 course.plan workspace.payload modelReceipt.payload) := by
  rw [h.verdict_snoc (by rw [hkind]; decide), settleNative,
    byKind_snoc_of_ne (by rw [hkind]; decide), hnone]
  rfl

theorem AtEvaluator.comes_native (h : AtEvaluator course workspace modelReceipt log)
    {payload : Payload} (hanswered : payloadGet payload "evaluator_error" = .null)
    (houtcome : course.outcome = (put course.plan "native_evaluation" payload log).bind
      (finish course.plan "completed" []))
    (hput : put course.plan "native_evaluation" payload log =
      some (log ++ [entry course.plan log "native_evaluation" payload]))
    (hholds : Holds (log ++ [entry course.plan log "native_evaluation" payload]) other)
    (hstop : Stops course.environment ∨ course.outcome = none) : Comes course other := by
  have hrunning : byKind "execution_terminal"
      (log ++ [entry course.plan log "native_evaluation" payload]) = none := by
    rw [byKind_snoc_of_ne (by rw [entry_kind]; decide), h.reached.running]
  refine ⟨_, hholds, ?_, Or.inl ⟨?_, ?_⟩, ?_⟩
  · rw [checkPrediction_snoc (by rw [entry_kind]; decide)]
    exact h.reached.fits
  · rw [h.verdict_native (entry_kind _ _), houtcome, hput]
    rfl
  · intro reason
    rw [evaluatorErrorLast_snoc, entry_payload, hanswered]
    exact fun hlast => absurd hlast.2 nofun
  · apply hstop.imp_right
    intro hnone
    rw [terminalStatus?_of_running hrunning, hnone]

theorem AtEvaluator.comes_error (h : AtEvaluator course workspace modelReceipt log)
    {reason : String}
    (houtcome : course.outcome =
      (put course.plan "native_evaluation" (evaluatorErrorPayload course.plan modelReceipt reason)
        log).bind (finish course.plan "infra_failure" [("reason", .str reason)]))
    (hput : put course.plan "native_evaluation"
        (evaluatorErrorPayload course.plan modelReceipt reason) log =
      some (log ++ [entry course.plan log "native_evaluation"
        (evaluatorErrorPayload course.plan modelReceipt reason)]))
    (hholds : Holds (log ++ [entry course.plan log "native_evaluation"
        (evaluatorErrorPayload course.plan modelReceipt reason)]) other)
    (hstop : Stops course.environment ∨ course.outcome = none) : Comes course other := by
  have hrunning : byKind "execution_terminal" (log ++ [entry course.plan log "native_evaluation"
      (evaluatorErrorPayload course.plan modelReceipt reason)]) = none := by
    rw [byKind_snoc_of_ne (by rw [entry_kind]; decide), h.reached.running]
  refine ⟨_, hholds, ?_, Or.inr ⟨reason, ?_, ?_, ?_⟩, ?_⟩
  · rw [checkPrediction_snoc (by rw [entry_kind]; decide)]
    exact h.reached.fits
  · rw [evaluatorErrorLast_snoc, entry_payload, payloadGet_evaluatorErrorPayload]
    exact ⟨rfl, rfl⟩
  · exact h.verdict_native (entry_kind _ _)
  · rw [houtcome, hput]
    rfl
  · apply hstop.imp_right
    intro hnone
    rw [terminalStatus?_of_running hrunning, hnone]

theorem nativeStage_steady (hsteady : Steady course.environment authorization)
    (hat : AtEvaluator course workspace modelReceipt log)
    (h : Standing course 6 ["native_evaluation"] known log world) :
    Triple (fun other => other = world)
      (nativeStage course.environment course.plan course.existing workspace.payload modelReceipt)
      (fun _ other => ∃ log, Ready course "completed" [] log other)
      (Concluding course workspace modelReceipt) := by
  unfold nativeStage
  cases hexisting : byKind "native_evaluation" course.existing with
  | some receipt =>
    have hsome := h.byKind_some hexisting
    apply Triple.pure
    rintro other rfl
    refine ⟨log, h.ready ?_⟩
    rw [← hat.reached.outcome_eq, hat.outcome_eq, settleNative, hsome]
  | none =>
    have hnone := h.byKind_none hexisting
    have houtcome := hat.settle hnone
    apply Triple.bind (Q := fun answer other =>
      course.environment.evaluate 0 course.plan workspace.payload modelReceipt.payload =
        .ok answer ∧ other = world.ticked.noting .evaluated)
    · unfold evaluate
      apply Triple.bind ((h.interact _).exc fun _ _ hraised => Or.inl hraised)
      intro answer
      apply Triple.of_forall
      rintro other ⟨rfl, rfl⟩
      rw [hsteady.evaluate]
      apply Triple.bind (Q := fun _ other => other = world.ticked.noting .evaluated)
      · exact Triple.modify fun _ hother => hother ▸ rfl
      · intro _
        apply Triple.check
        · exact fun answer other hanswer hother => ⟨hanswer, hother⟩
        · rintro raised other hanswer rfl
          have hstanding := h.ticked.noting .evaluated
          rw [hanswer] at houtcome
          cases raised with
          | executionInterrupted reason =>
            refine Or.inr (Or.inl ⟨reason, log, rfl, ⟨6, h.reached⟩, hstanding.holds,
              hstanding.next, houtcome, ?_, nofun⟩)
            intro receipt hinterrupted
            rw [hat.verdict_interrupted hnone hinterrupted, hanswer]
            rfl
          | evaluatorInfrastructure reason =>
            exact Or.inr (Or.inr ⟨reason, log, rfl, hat, hstanding.holds, hstanding.next,
              houtcome⟩)
          | stopped => exact Or.inl ⟨rfl, h.reached.comes hstanding.holds (Or.inr houtcome)⟩
          | contractViolation message =>
            exact Or.inl ⟨rfl, h.reached.comes hstanding.holds (Or.inr houtcome)⟩
          | failed => exact Or.inl ⟨rfl, h.reached.comes hstanding.holds (Or.inr houtcome)⟩
    · intro answer
      apply Triple.of_forall
      rintro other ⟨hanswer, rfl⟩
      have hstanding := h.ticked.noting .evaluated
      rw [hanswer, settleAnswer, nativePayload_blank] at houtcome
      apply Triple.bind (Q := fun payload other =>
        nativePayload course.plan modelReceipt answer = .ok payload ∧
          other = world.ticked.noting .evaluated)
      · apply contract_rule
        · exact fun payload other hpayload hother => ⟨hpayload, hother⟩
        · rintro message other hrefused rfl
          rw [hrefused] at houtcome
          exact Or.inl ⟨rfl, h.reached.comes hstanding.holds (Or.inr houtcome)⟩
      · intro payload
        apply Triple.of_forall
        rintro other ⟨hpayload, rfl⟩
        rw [hpayload] at houtcome
        dsimp only at houtcome
        have hanswered := payloadGet_nativePayload hpayload
        apply Triple.bind (Q := fun _ other => ∃ log, Ready course "completed" [] log other)
        · apply (appendFact_steady hsteady hstanding.holds hstanding.next).conseq
            (fun _ heq => heq)
          · rintro receipt other ⟨hblank, hput, hholds, hnext⟩
            rw [hblank] at hput hholds hnext
            refine ⟨_, hholds, hnext, ?_, ?_, ?_, ?_⟩
            · rw [byKind_snoc_of_ne (by rw [entry_kind]; decide), h.reached.running]
            · rw [checkPrediction_snoc (by rw [entry_kind]; decide)]
              exact h.reached.fits
            · rw [houtcome, hput]
              rfl
            · exact fun other hother hstop =>
                hat.comes_native hanswered houtcome hput hother hstop
          · rintro raised other ⟨hraised, hleaves⟩
            refine Or.inl ⟨hraised, ?_⟩
            rcases hleaves with ⟨hholds, hend⟩ | ⟨hstops, longer, hput, hholds⟩
            · apply h.reached.comes hholds
              apply hend.imp_right
              intro hrefused
              rw [houtcome, hrefused]
              rfl
            · obtain rfl := put_eq_some hput
              exact hat.comes_native hanswered houtcome hput hholds (Or.inl hstops)
        · exact fun _ => Triple.pure fun _ hready => hready

theorem conclude_steady (hsteady : Steady course.environment authorization)
    (hworkspace : workspace.kind = "workspace") (hmodel : (blank modelReceipt).kind = "model") :
    Triple
      (fun world => ∃ log,
        Standing course 3 (factKinds.drop 3) [blank modelReceipt, workspace] log world)
      (conclude course.environment course.plan course.existing workspace.payload modelReceipt)
      (fun _ => Comes course) (Concluding course workspace modelReceipt) := by
  unfold conclude
  apply Triple.bind ((traceStage_steady hsteady hworkspace hmodel).exc
    fun _ _ hraised => Or.inl hraised)
  intro _
  apply Triple.bind ((internalStage_steady hsteady hworkspace hmodel).exc
    fun _ _ hraised => Or.inl hraised)
  intro _
  apply Triple.bind ((costStage_steady hsteady hworkspace hmodel).exc
    fun _ _ hraised => Or.inl hraised)
  intro costReceipt
  apply Triple.of_forall
  rintro world ⟨log, hcost, h⟩
  have hfound := h.byKind_model hmodel
  have hheld : byKind "workspace" log = some workspace := by
    rw [← hworkspace]
    exact h.known workspace (by simp)
  have hrecorded : recordedCost course.environment (blank costReceipt) =
      recordedCost course.environment costReceipt := rfl
  apply Triple.bind (Q := fun cost other =>
    recordedCost course.environment costReceipt = .ok cost ∧ other = world)
  · apply Triple.check
    · exact fun cost other hok hother => ⟨hok, hother⟩
    · rintro raised other hfailed rfl
      refine Or.inl ⟨plain_recordedCost _ _ raised hfailed, h.reached.comes h.holds (Or.inr ?_)⟩
      rw [h.reached.outcome_eq]
      simp [settleEnd, hheld, hfound, hcost, hrecorded, hfailed, Except.toOption]
  · intro cost
    apply Triple.of_forall
    rintro other ⟨hok, rfl⟩
    split
    next hover =>
      apply (terminate_steady hsteady (h.ready ?_)).exc fun _ _ hraised => Or.inl hraised
      simp [settleEnd, hheld, hfound, hcost, hrecorded, hok, Except.toOption, hover]
    next hle =>
      split
      next hmode =>
        apply (terminate_steady hsteady (h.ready ?_)).exc fun _ _ hraised => Or.inl hraised
        simp [settleEnd, hheld, hfound, hcost, hrecorded, hok, Except.toOption, hle, hmode]
      next hnotPrescreen =>
        split
        next hmode =>
          apply Triple.throw
          rintro final rfl
          refine Or.inl ⟨rfl, h.reached.comes h.holds (Or.inr ?_)⟩
          rw [h.reached.outcome_eq]
          simp [settleEnd, hheld, hfound, hcost, hrecorded, hok, Except.toOption, hle,
            hnotPrescreen, hmode]
        next hmode =>
          have hat : AtEvaluator course workspace modelReceipt log :=
            ⟨h.reached, hheld, hfound, ⟨blank costReceipt, cost, hcost, hok, hle⟩, not_not.mp hmode⟩
          apply Triple.bind (nativeStage_steady hsteady hat h)
          intro _
          apply Triple.of_forall
          rintro final ⟨log, hready⟩
          exact (terminate_steady hsteady hready).exc fun _ _ hraised => Or.inl hraised

end Native

theorem dispatch_steady (hsteady : Steady course.environment authorization)
    (hmodel : byKind "workspace" course.existing = none → byKind "model" course.existing = none) :
    Triple (fun world => ∃ log, Standing course 0 factKinds [] log world)
      (dispatch course.environment course.plan course.existing course.prediction)
      (fun dispatched world => ∃ log workspace, workspace.kind = "workspace" ∧
        workspace.payload = dispatched.1 ∧ (blank dispatched.2).kind = "model" ∧
        Standing course 3 (factKinds.drop 3) [blank dispatched.2, workspace] log world)
      (Halts course) := by
  unfold dispatch
  apply Triple.bind (workspaceStage_steady hsteady hmodel)
  intro payload
  apply Triple.of_forall
  rintro world ⟨log, workspace, hworkspace, rfl, h⟩
  apply Triple.bind ((predictionStage_steady hsteady hworkspace).pre ?_)
  · intro _
    apply Triple.bind (modelStage_steady hsteady hworkspace)
    intro modelReceipt
    apply Triple.pure
    rintro other ⟨hkind, log, hother⟩
    exact ⟨log, workspace, hworkspace, rfl, hkind, hother⟩
  · rintro other rfl
    exact ⟨log, h⟩

theorem handle_interrupted (hsteady : Steady course.environment authorization)
    {reason : String} (held : Option Receipt)
    (h : Refused course (.executionInterrupted reason) log world) :
    Triple (fun other => other = world)
      (handle course.environment course.plan held (.executionInterrupted reason))
      (fun _ => Comes course) (fun _ => Comes course) := by
  obtain ⟨settled, hreached⟩ := h.reached
  unfold handle
  apply Triple.bind (Q := fun _ => Comes course)
  · apply (append_steady hsteady h.holds h.next).conseq (fun _ heq => heq)
    · rintro receipt other ⟨hblank, -, hholds, -⟩
      rw [hblank] at hholds
      refine ⟨_, hholds, ?_, Or.inl ⟨?_, ?_⟩, Or.inr ?_⟩
      · rw [checkPrediction_snoc (by rw [entry_kind]; decide)]
        exact hreached.fits
      · rw [h.again _ (entry_kind _ _), h.outcome]
      · intro reason
        rw [evaluatorErrorLast_snoc]
        rintro ⟨hkind, -⟩
        exact absurd hkind (by rw [entry_kind]; decide)
      · rw [h.outcome, terminalStatus?_of_running]
        rw [byKind_snoc_of_ne (by rw [entry_kind]; decide), hreached.running]
    · rintro raised other ⟨-, hholds, -⟩
      exact hreached.comes hholds (Or.inr h.outcome)
  · intro receipt
    apply Triple.bind (Q := fun _ => Comes course)
    · exact Triple.get fun _ hcomes => hcomes
    · exact fun _ => Triple.pure fun _ hcomes => hcomes

theorem handle_infrastructure (hsteady : Steady course.environment authorization)
    {reason : String} (h : Awaits course workspace modelReceipt reason log world) :
    Triple (fun other => other = world)
      (handle course.environment course.plan (some modelReceipt) (.evaluatorInfrastructure reason))
      (fun _ => Comes course) (fun _ => Comes course) := by
  have hat := h.atEvaluator
  unfold handle
  apply Triple.bind (Q := fun _ other => ∃ log,
    Ready course "infra_failure" [("reason", .str reason)] log other)
  · apply (appendFact_steady hsteady h.holds h.next).conseq (fun _ heq => heq)
    · rintro receipt other ⟨hblank, hput, hholds, hnext⟩
      rw [hblank] at hput hholds hnext
      refine ⟨_, hholds, hnext, ?_, ?_, ?_, ?_⟩
      · rw [byKind_snoc_of_ne (by rw [entry_kind]; decide), hat.reached.running]
      · rw [checkPrediction_snoc (by rw [entry_kind]; decide)]
        exact hat.reached.fits
      · rw [h.outcome, hput]
        rfl
      · exact fun other hother hstop => hat.comes_error h.outcome hput hother hstop
    · rintro raised other ⟨-, hleaves⟩
      rcases hleaves with ⟨hholds, hend⟩ | ⟨hstops, longer, hput, hholds⟩
      · apply hat.reached.comes hholds
        apply hend.imp_right
        intro hrefused
        rw [h.outcome, hrefused]
        rfl
      · obtain rfl := put_eq_some hput
        exact hat.comes_error h.outcome hput hholds (Or.inl hstops)
  · intro receipt
    apply Triple.of_forall
    rintro other ⟨log, hready⟩
    exact (terminate_steady hsteady hready).exc fun _ _ hraised => hraised.2

theorem Refused.comes {raised : Raised} (h : Refused course raised log world) :
    Comes course world := by
  obtain ⟨settled, hreached⟩ := h.reached
  exact hreached.comes h.holds (Or.inr h.outcome)

theorem Halts.comes {raised : Raised} (h : Halts course raised world) : Comes course world := by
  rcases h with ⟨-, h⟩ | ⟨log, h⟩
  · exact h
  · exact h.comes

theorem Concluding.comes {raised : Raised} (hraised : handled raised = false)
    (h : Concluding course workspace modelReceipt raised world) : Comes course world := by
  rcases h with ⟨-, h⟩ | ⟨reason, log, -, h⟩ | ⟨reason, log, rfl, -⟩
  · exact h
  · exact h.comes
  · cases hraised

theorem handle_halted (hsteady : Steady course.environment authorization) {raised : Raised}
    (hraised : handled raised = true) (h : Halts course raised world) :
    Triple (fun other => other = world)
      (handle course.environment course.plan (byKind "model" course.existing) raised)
      (fun _ => Comes course) (fun _ => Comes course) := by
  rcases h with ⟨hnot, -⟩ | ⟨log, h⟩
  · rw [hraised] at hnot
    cases hnot
  · cases raised with
    | executionInterrupted reason => exact handle_interrupted hsteady _ h
    | evaluatorInfrastructure reason =>
      unfold handle
      rw [h.model reason rfl]
      exact Triple.throw fun _ hother => hother ▸ h.comes
    | stopped => cases hraised
    | contractViolation message => cases hraised
    | failed => cases hraised

theorem handle_concluding (hsteady : Steady course.environment authorization) {raised : Raised}
    (hraised : handled raised = true)
    (h : Concluding course workspace modelReceipt raised world) :
    Triple (fun other => other = world)
      (handle course.environment course.plan (some modelReceipt) raised)
      (fun _ => Comes course) (fun _ => Comes course) := by
  rcases h with ⟨hnot, -⟩ | ⟨reason, log, rfl, h⟩ | ⟨reason, log, rfl, h⟩
  · rw [hraised] at hnot
    cases hnot
  · exact handle_interrupted hsteady _ h
  · exact handle_infrastructure hsteady h

theorem tryStages_steady (hsteady : Steady course.environment authorization)
    (hmodel : byKind "workspace" course.existing = none → byKind "model" course.existing = none) :
    Triple (fun world => ∃ log, Standing course 0 factKinds [] log world)
      (tryStages course.environment course.plan course.existing course.prediction)
      (fun _ => Comes course) (fun _ => Comes course) := by
  unfold tryStages
  apply Triple.bind
    ((dispatch_steady hsteady hmodel).attempted.exc fun _ _ h => h.2.comes)
  intro dispatched
  cases dispatched with
  | error raised =>
    apply Triple.of_forall
    rintro world ⟨hraised, h⟩
    exact handle_halted hsteady hraised h
  | ok dispatched =>
    obtain ⟨payload, modelReceipt⟩ := dispatched
    apply Triple.of_forall
    rintro world ⟨log, workspace, hworkspace, hpayload, hkind, h⟩
    dsimp only at hpayload hkind h ⊢
    subst hpayload
    have hconclude : Triple (fun other => other = world)
        (conclude course.environment course.plan course.existing workspace.payload modelReceipt)
        (fun _ => Comes course) (Concluding course workspace modelReceipt) :=
      (conclude_steady hsteady hworkspace hkind).pre fun other hother => ⟨log, hother ▸ h⟩
    apply Triple.bind (hconclude.attempted.exc fun _ _ h => h.2.comes h.1)
    intro concluded
    cases concluded with
    | error raised =>
      apply Triple.of_forall
      rintro other ⟨hraised, hother⟩
      exact handle_concluding hsteady hraised hother
    | ok result => exact Triple.pure fun _ h => h

end End

section Call

variable {plan : ExecutionPlan} {call : Call} {start : World}

def Call.course (plan : ExecutionPlan) (call : Call) (start : World) : Course where
  environment := call.environment
  plan := plan
  prediction := call.prediction
  existing := start.receipts
  origin := start.receipts.map blank
  outcome := verdict call.environment plan call.prediction (start.receipts.map blank)

structure Call.Admitted (plan : ExecutionPlan) (call : Call) : Prop where
  campaign : plan.campaignId = call.authorization.campaignId
  taskEvaluator : plan.nativeEvaluatorId = plan.task.evaluatorId
  evaluator : call.environment.evaluatorId = plan.nativeEvaluatorId
  allowed : ∀ now < call.authorization.expiresAt, call.authorization.refusal? plan.task.cohort
    plan.limits.maxCostCny 1 call.environment.remote now = none

theorem holds_of_sound (hsound : Sound start) (hintact : start.torn = false) :
    Holds (start.receipts.map blank) start :=
  ⟨rfl, hintact, fun _ hmem => hsound.sequence_le hmem⟩

theorem checkSingletons_of_sound (hsound : Sound start) :
    checkSingletons start.receipts = .ok () := by
  have hnone : singletonKinds.find? (fun kind =>
      1 < start.receipts.countP (fun item => item.kind = kind)) = none := by
    rw [List.find?_eq_none]
    intro kind hkind
    have hle := hsound.singletons kind hkind
    simpa using hle
  rw [checkSingletons, hnone]

/-- Nothing was appended since the call began. -/
structure Idle (start world : World) : Prop where
  receipts : world.receipts = start.receipts
  intact : world.torn = start.torn

theorem Idle.comes (hsound : Sound start) (hintact : start.torn = false)
    (hfits : checkPrediction (start.receipts.map blank) call.prediction = .ok ()) {world : World}
    (h : Idle start world)
    (hend : Stops call.environment ∨ terminalStatus? (start.receipts.map blank) =
      (call.course plan start).outcome) : Comes (call.course plan start) world :=
  ⟨_, (holds_of_sound hsound hintact).congr h.receipts h.intact, hfits,
    Or.inl ⟨rfl, fun _ => id⟩, hend⟩

theorem Idle.standing (hsound : Sound start) (hintact : start.torn = false)
    (hfits : checkPrediction (start.receipts.map blank) call.prediction = .ok ())
    (hrunning : byKind "execution_terminal" start.receipts = none) {world : World}
    (h : Idle start world) :
    Standing (call.course plan start) 0 factKinds [] (start.receipts.map blank)
      (world.appending (startAppender start.receipts)) := by
  have hblank : byKind "execution_terminal" (start.receipts.map blank) = none := by
    rw [byKind_map_blank, hrunning]
    rfl
  refine ⟨⟨hblank, hfits, fun _ => id, settled_nil _, ?_⟩,
    (holds_of_sound hsound hintact).congr h.receipts h.intact, ?_, ?_, nofun⟩
  · exact (verdict_of_running (call.course plan start) hblank).symm
  · change (start.receipts.map (·.sequence)).foldl max 0 + 1 = _
    rw [hsound.sequences, foldl_max_numbers, List.length_map]
  · exact fun kind _ => (byKind_map_blank kind start.receipts).symm

theorem interact_idle (hsound : Sound start) (hintact : start.torn = false)
    (hfits : checkPrediction (start.receipts.map blank) call.prediction = .ok ()) {α : Type}
    (answer : Nat → α) :
    Triple (Idle start) (interact call.environment answer)
      (fun value world => (∃ tick, value = answer tick) ∧ Idle start world)
      (fun _ => Comes (call.course plan start)) := by
  apply Triple.of_forall
  intro world h
  apply (interact_spec answer world).conseq (fun _ heq => heq)
  · rintro value other ⟨-, rfl, rfl⟩
    exact ⟨⟨world.tick, rfl⟩, h.receipts, h.intact⟩
  · rintro raised other ⟨hstopped, -, rfl⟩
    exact h.comes hsound hintact hfits (Or.inl ⟨_, hstopped⟩)

theorem admission_idle (hsteady : Steady call.environment call.authorization)
    (hadmitted : call.Admitted plan) (hsound : Sound start) (hintact : start.torn = false)
    (hfits : checkPrediction (start.receipts.map blank) call.prediction = .ok ()) :
    Triple (Idle start) (validateAdmission call.environment plan call.authorization)
      (fun _ => Idle start) (fun _ => Comes (call.course plan start)) := by
  unfold validateAdmission
  rw [(require_ok_iff _ _ ()).mpr hadmitted.campaign,
    (require_ok_iff _ _ ()).mpr hadmitted.taskEvaluator,
    (require_ok_iff _ _ ()).mpr hadmitted.evaluator]
  have hpass : Triple (Idle start) (contract (.ok ())) (fun _ => Idle start)
      (fun _ => Comes (call.course plan start)) := Triple.pure fun _ h => h
  apply Triple.bind hpass
  intro _
  apply Triple.bind hpass
  intro _
  apply Triple.bind hpass
  intro _
  apply Triple.bind (interact_idle hsound hintact hfits _)
  intro reading
  apply Triple.of_forall
  rintro world ⟨⟨tick, rfl⟩, h⟩
  obtain ⟨now, hnow, hbefore⟩ := hsteady.clock tick
  rw [hnow]
  dsimp only
  rw [hadmitted.allowed now hbefore]
  exact Triple.pure fun _ hother => hother ▸ h

theorem checkPrediction_map_blank (receipts : List Receipt)
    (prediction : Option MechanismPrediction) :
    checkPrediction (receipts.map blank) prediction = checkPrediction receipts prediction := by
  unfold checkPrediction
  rw [firstOfKind_map_blank]
  cases prediction with
  | none => cases firstOfKind "mechanism_prediction" receipts <;> rfl
  | some prediction => cases firstOfKind "mechanism_prediction" receipts <;> rfl

/-- An admitted call on a sound log comes to the outcome of the log, or its
process stops where the next call does. -/
theorem execute_steady (hsteady : Steady call.environment call.authorization)
    (hadmitted : call.Admitted plan) (hsound : Sound start) (hintact : start.torn = false)
    (hfits : checkPrediction (start.receipts.map blank) call.prediction = .ok ()) :
    Triple (fun world => world = start) (call.execute plan)
      (fun _ => Comes (call.course plan start)) (fun _ => Comes (call.course plan start)) := by
  have hfound : checkPrediction start.receipts call.prediction = .ok () := by
    rw [← checkPrediction_map_blank]
    exact hfits
  have hmodel : byKind "workspace" (call.course plan start).existing = none →
      byKind "model" (call.course plan start).existing = none := by
    intro hworkspace
    rw [byKind_eq_none_iff] at *
    exact fun hhas => hworkspace (hsound.model_workspace hhas)
  unfold Call.execute execute
  apply Triple.bind (Q := fun receipts world => receipts = start.receipts ∧ Idle start world)
  · unfold receiptsFor
    apply Triple.bind ((interact_idle hsound hintact hfits _).pre ?_)
    · intro listed
      apply Triple.of_forall
      rintro world ⟨⟨tick, rfl⟩, h⟩
      apply Triple.bind (Q := fun current other => current = world ∧ other = world)
        (Triple.get fun other hother => ⟨hother, hother⟩)
      intro current
      apply Triple.of_forall
      rintro other ⟨rfl, rfl⟩
      rw [hsteady.listed, h.intact, hintact]
      apply Triple.bind (Q := fun _ final => final = other)
        (Triple.raiseIf (fun _ _ hfinal => hfinal) nofun)
      intro _
      apply Triple.pure
      rintro final rfl
      exact ⟨h.receipts, h⟩
    · rintro world rfl
      exact ⟨rfl, rfl⟩
  · intro receipts
    apply Triple.of_forall
    rintro world ⟨rfl, h⟩
    rw [hsound.inSequence]
    dsimp only
    rw [checkSingletons_of_sound hsound, hfound]
    apply Triple.bind (Q := fun _ => Idle start)
    · apply contract_rule
      · exact fun _ other _ hother => hother ▸ h
      · exact fun _ _ hrefused => absurd hrefused nofun
    · intro _
      apply Triple.bind (admission_idle hsteady hadmitted hsound hintact hfits)
      intro _
      apply Triple.bind (Q := fun _ => Idle start)
      · apply contract_rule
        · exact fun _ _ _ hother => hother
        · exact fun _ _ hrefused => absurd hrefused nofun
      · intro _
        cases hterminal : byKind "execution_terminal" start.receipts with
        | some terminal =>
          have hstatus : terminalStatus? (start.receipts.map blank) =
              (call.course plan start).outcome := by
            change _ = verdict call.environment plan call.prediction (start.receipts.map blank)
            rw [verdict, byKind_map_blank, hterminal]
            rfl
          apply Triple.check
          · exact fun _ _ _ hother => hother.comes hsound hintact hfits (Or.inr hstatus)
          · exact fun _ _ _ hother => hother.comes hsound hintact hfits (Or.inr hstatus)
        | none =>
          apply Triple.bind (Q := fun _ world => ∃ log,
            Standing (call.course plan start) 0 factKinds [] log world)
          · exact Triple.modify fun _ hother =>
              ⟨_, hother.standing hsound hintact hfits hterminal⟩
          · exact fun _ => tryStages_steady hsteady hmodel

theorem refusal?_of_live {authorization : Authorization} {now other : Int}
    (hnow : now < authorization.expiresAt) (hother : other < authorization.expiresAt)
    (cohort : Cohort) (cost : ℚ) (calls : Int) (remote : Bool) :
    authorization.refusal? cohort cost calls remote now =
      authorization.refusal? cohort cost calls remote other := by
  have hlive := not_le.mpr hnow
  have hlater := not_le.mpr hother
  unfold Authorization.refusal?
  rw [if_neg hlive, if_neg hlater]

theorem admission_refused (hsteady : Steady call.environment call.authorization)
    (hrefused : ¬ call.Admitted plan) :
    Triple (Untouched start call.environment)
      (validateAdmission call.environment plan call.authorization)
      (fun _ _ => False) (fun _ => Untouched start call.environment) := by
  unfold validateAdmission
  apply Triple.bind (Q := fun _ world => plan.campaignId = call.authorization.campaignId ∧
    Untouched start call.environment world)
  · apply contract_rule
    · exact fun _ _ hok h => ⟨(require_ok_iff _ _ _).mp hok, h⟩
    · exact fun _ _ _ h => h
  intro _
  apply Triple.of_forall
  rintro world ⟨hcampaign, h⟩
  apply Triple.bind (Q := fun _ other => plan.nativeEvaluatorId = plan.task.evaluatorId ∧
    Untouched start call.environment other)
  · apply contract_rule
    · exact fun _ _ hok hother => ⟨(require_ok_iff _ _ _).mp hok, hother ▸ h⟩
    · exact fun _ _ _ hother => hother ▸ h
  intro _
  apply Triple.of_forall
  rintro world ⟨htaskEvaluator, h⟩
  apply Triple.bind (Q := fun _ other => call.environment.evaluatorId = plan.nativeEvaluatorId ∧
    Untouched start call.environment other)
  · apply contract_rule
    · exact fun _ _ hok hother => ⟨(require_ok_iff _ _ _).mp hok, hother ▸ h⟩
    · exact fun _ _ _ hother => hother ▸ h
  intro _
  apply Triple.of_forall
  rintro world ⟨hevaluator, h⟩
  apply Triple.bind ((interact_spec call.environment.clock world).exc ?_)
  · intro reading
    apply Triple.of_forall
    rintro ticked ⟨-, rfl, rfl⟩
    obtain ⟨now, hnow, hbefore⟩ := hsteady.clock world.tick
    rw [hnow]
    dsimp only
    cases hrefusal : call.authorization.refusal? plan.task.cohort plan.limits.maxCostCny 1
        call.environment.remote now with
    | some message => exact Triple.throw fun _ hother => hother ▸ ⟨h.kept.ticked, h.receipts⟩
    | none =>
      refine absurd ⟨hcampaign, htaskEvaluator, hevaluator, ?_⟩ hrefused
      intro other hother
      rw [refusal?_of_live hother hbefore, hrefusal]
  · rintro raised other ⟨-, -, rfl⟩
    exact h

theorem execute_refused (hsteady : Steady call.environment call.authorization)
    (hrefused : ¬ call.Admitted plan) (hsound : Sound start) :
    Triple (fun world => world = start) (call.execute plan)
      (fun _ world => world.receipts = start.receipts)
      (fun _ world => world.receipts = start.receipts) := by
  unfold Call.execute execute
  apply Triple.pre (P := Untouched start call.environment)
  · apply Triple.bind (receiptsFor_spec.exc fun _ _ h => h.receipts)
    intro receipts
    apply Triple.bind (Q := fun _ => Untouched start call.environment)
    · exact ((contract_untouched _).pre fun _ h => h.2).exc fun _ _ h => h.receipts
    · intro _
      apply Triple.bind ((admission_refused hsteady hrefused).exc fun _ _ h => h.receipts)
      intro _
      apply Triple.of_forall
      exact fun _ hfalse => hfalse.elim
  · rintro world rfl
    exact ⟨kept_start hsound, rfl⟩

end Call

end JlensEvolve.Runtime
