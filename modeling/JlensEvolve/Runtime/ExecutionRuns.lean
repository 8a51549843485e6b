import JlensEvolve.Runtime.StageRules

/-!
A whole call of `execute`, and any sequence of calls on one plan from an empty
log: whatever the adapters answer, and wherever a call is interrupted or the
process stops, the receipts keep their invariant.
-/

namespace JlensEvolve.Runtime

open Library Contracts

section Call

variable {environment : Environment} {plan : ExecutionPlan} {start : World}
  {existing : List Receipt}

theorem dispatch_spec (prediction : Option MechanismPrediction) :
    Triple (Working start environment existing factKinds [])
      (dispatch environment plan existing prediction)
      (fun _ => Working start environment existing
        ["external_trace", "internal_trace", "cost", "native_evaluation"] [])
      (Halted start environment fun _ => ¬ hasKind "model" existing) := by
  unfold dispatch
  apply Triple.bind (workspaceStage_spec (by decide))
  intro workspace
  apply Triple.bind (predictionStage_spec (by decide) prediction)
  intro _
  apply Triple.bind (modelStage_spec (by decide) List.mem_cons_self workspace)
  exact fun modelReceipt => Triple.pure fun _ h => h.forget.forget

theorem terminate_spec {present : List String} (status : String) (fields : Payload)
    {condition : World → Prop} :
    Triple (Working start environment existing [] present)
      (terminate environment plan status fields)
      (fun _ => Kept start environment) (Halted start environment condition) := by
  apply Triple.of_forall
  intro world h
  unfold terminate
  apply Triple.bind
    ((appendControl_spec h.kept h.open_ (by decide) fun _ => h.open_.running).exc ?_)
  · intro receipt
    apply Triple.bind (Q := fun _ => Kept start environment)
    · exact Triple.get fun _ hkept => hkept
    · exact fun _ => Triple.pure fun _ hkept => hkept
  · rintro raised other ⟨hraised, hkept⟩
    exact halted_of_unhandled hraised hkept

theorem conclude_spec (workspace : Payload) (modelReceipt : Receipt) :
    Triple (Working start environment existing
        ["external_trace", "internal_trace", "cost", "native_evaluation"] [])
      (conclude environment plan existing workspace modelReceipt)
      (fun _ => Kept start environment)
      (Halted start environment fun world => ¬ hasKind "native_evaluation" world.receipts) := by
  have hdone {world : World} {kind : String}
      (h : Working start environment existing [kind] [] world) :
      Working start environment existing [] [] world := h.pass
  unfold conclude
  apply Triple.bind (traceStage_spec (by decide) modelReceipt)
  intro _
  apply Triple.bind (internalStage_spec (by decide) modelReceipt)
  intro _
  apply Triple.bind (costStage_spec (by decide) modelReceipt)
  intro costReceipt
  apply Triple.bind (check_stage (plain_recordedCost _ _))
  intro cost
  split
  · exact (terminate_spec _ _).pre fun _ h => hdone h
  · split
    · exact (terminate_spec _ _).pre fun _ h => hdone h
    · split
      · exact Triple.throw fun _ h => h.halted nofun
      · apply Triple.bind (nativeStage_spec (by decide) workspace modelReceipt)
        exact fun _ => terminate_spec _ _

theorem handle_spec (modelReceipt : Option Receipt) {condition : World → Prop}
    (hcondition : ∀ world, condition world → modelReceipt.isSome = true →
      ¬ hasKind "native_evaluation" world.receipts) (raised : Raised) :
    Triple (Halted start environment condition raised)
      (handle environment plan modelReceipt raised)
      (fun _ => Kept start environment) (fun _ => Kept start environment) := by
  cases raised with
  | executionInterrupted reason =>
    apply Triple.of_forall
    intro world h
    unfold handle
    apply Triple.bind
      ((appendControl_spec h.kept (h.open_ rfl) (by decide) fun h => absurd h (by decide)).exc
        fun _ _ hother => hother.2)
    intro receipt
    apply Triple.bind (Q := fun _ => Kept start environment)
    · exact Triple.get fun _ hkept => hkept
    · exact fun _ => Triple.pure fun _ hkept => hkept
  | evaluatorInfrastructure reason =>
    cases modelReceipt with
    | none => exact Triple.throw fun _ h => h.kept
    | some modelReceipt =>
      apply Triple.of_forall
      intro world h
      have hopen := h.open_ rfl
      have hnot := hcondition world (h.infrastructure reason rfl) rfl
      have hworking : Working start environment [] ["native_evaluation"] [] world := by
        refine ⟨h.kept, hopen, nofun, ?_, nofun⟩
        intro kind hkind hhas
        exact absurd (List.mem_singleton.mp hkind ▸ hhas) hnot
      unfold handle
      apply Triple.bind (Q := fun _ => Working start environment [] [] ["native_evaluation"])
      · apply (appendFact_stage (not_hasKind_nil _) List.not_mem_nil (by decide)
          (fun h => absurd h (by decide))).conseq
        · rintro other rfl
          exact hworking
        · exact fun _ _ h => h
        · exact fun _ _ (hhalted : Halted start environment condition _ _) => hhalted.kept
      · intro receipt
        exact (terminate_spec _ _).exc
          fun _ _ (hhalted : Halted start environment condition _ _) => hhalted.kept
  | stopped => exact Triple.throw fun _ h => h.kept
  | contractViolation message => exact Triple.throw fun _ h => h.kept
  | failed => exact Triple.throw fun _ h => h.kept

theorem tryStages_spec (prediction : Option MechanismPrediction) :
    Triple (Working start environment existing factKinds [])
      (tryStages environment plan existing prediction)
      (fun _ => Kept start environment) (fun _ => Kept start environment) := by
  unfold tryStages
  apply Triple.bind
    ((dispatch_spec prediction).attempted.exc fun raised world h => h.2.kept)
  intro dispatched
  cases dispatched with
  | error raised =>
    apply (handle_spec (byKind "model" existing) ?_ raised).pre
    · rintro world ⟨-, h⟩
      exact h
    · intro world hmodel hsome
      rw [(byKind_eq_none_iff _ _).mpr hmodel] at hsome
      cases hsome
  | ok dispatched =>
    obtain ⟨workspace, modelReceipt⟩ := dispatched
    apply Triple.bind
      ((conclude_spec workspace modelReceipt).attempted.exc fun raised world h => h.2.kept)
    intro concluded
    cases concluded with
    | error raised =>
      apply (handle_spec (some modelReceipt) ?_ raised).pre
      · rintro world ⟨-, h⟩
        exact h
      · exact fun world hnot _ => hnot
    | ok result => exact Triple.pure fun _ h => h

end Call

theorem numbers_sorted (n : Nat) : (numbers n).Pairwise (· ≤ ·) := by
  rw [numbers, List.pairwise_map]
  apply List.pairwise_lt_range.imp
  intro first second hlt
  omega

theorem foldl_max_numbers (n : Nat) : (numbers n).foldl max 0 = n := by
  induction n with
  | zero => rfl
  | succ n ih =>
    rw [numbers_succ, List.foldl_append, ih]
    simp

theorem Sound.inSequence {world : World} (h : Sound world) :
    inSequence world.receipts = world.receipts := by
  apply List.Pairwise.insertionSort_eq
  rw [← List.pairwise_map (f := fun receipt : Receipt => receipt.sequence)
    (R := fun first second : Int => first ≤ second), h.sequences]
  exact numbers_sorted _

/-- Nothing was appended since the call began. -/
structure Untouched (start : World) (environment : Environment) (world : World) : Prop where
  kept : Kept start environment world
  receipts : world.receipts = start.receipts

section Untouched

variable {environment : Environment} {start : World}

theorem interact_untouched {α : Type} (answer : Nat → α) :
    Triple (Untouched start environment) (interact environment answer)
      (fun _ => Untouched start environment) (fun _ => Untouched start environment) := by
  apply Triple.of_forall
  intro world h
  apply (interact_spec answer world).conseq (fun _ heq => heq)
  · rintro value other ⟨-, -, rfl⟩
    exact ⟨h.kept.ticked, h.receipts⟩
  · rintro raised other ⟨-, -, rfl⟩
    exact h

theorem contract_untouched {α : Type} (checked : Except String α) :
    Triple (Untouched start environment) (contract checked)
      (fun _ => Untouched start environment) (fun _ => Untouched start environment) :=
  Triple.check (fun _ _ _ h => h) fun _ _ _ h => h

theorem receiptsFor_spec :
    Triple (Untouched start environment) (receiptsFor environment)
      (fun receipts world => receipts = start.receipts ∧ Untouched start environment world)
      (fun _ => Untouched start environment) := by
  unfold receiptsFor
  apply Triple.bind (interact_untouched _)
  intro listed
  apply Triple.bind (Q := fun current world => current = world ∧ Untouched start environment world)
  · exact Triple.get fun _ h => ⟨rfl, h⟩
  · intro current
    apply Triple.bind
      (Q := fun _ world => current = world ∧ Untouched start environment world)
    · exact Triple.raiseIf (fun _ _ h => h) fun _ _ h => h.2
    · intro _
      apply Triple.pure
      rintro world ⟨rfl, h⟩
      exact ⟨h.receipts, h⟩

theorem validateAdmission_untouched (plan : ExecutionPlan) (authorization : Authorization) :
    Triple (Untouched start environment) (validateAdmission environment plan authorization)
      (fun _ => Untouched start environment) (fun _ => Untouched start environment) := by
  unfold validateAdmission
  apply Triple.bind (contract_untouched _)
  intro _
  apply Triple.bind (contract_untouched _)
  intro _
  apply Triple.bind (contract_untouched _)
  intro _
  apply Triple.bind (interact_untouched _)
  intro reading
  cases reading with
  | none => exact Triple.throw fun _ h => h
  | some now =>
    dsimp only
    split
    · exact Triple.throw fun _ h => h
    · exact Triple.pure fun _ h => h

end Untouched

theorem Untouched.working {environment : Environment} {start world : World}
    (h : Untouched start environment world)
    (hrunning : ¬ hasKind "execution_terminal" start.receipts) :
    Working start environment start.receipts factKinds []
      (world.appending (startAppender start.receipts)) where
  kept := h.kept.congr rfl rfl
  open_ := by
    constructor
    · change (start.receipts.map (·.sequence)).foldl max 0 + 1 = (world.receipts.length : Int) + 1
      rw [← h.receipts, h.kept.sound.sequences, foldl_max_numbers]
    · change ¬ hasKind _ world.receipts
      rw [h.receipts]
      exact hrunning
  found := by
    intro receipt hmem
    rw [← h.receipts] at hmem
    exact hmem
  pending := by
    intro kind _ hhas
    rw [← h.receipts]
    exact hhas
  present := nofun

theorem execute_spec (plan : ExecutionPlan) (call : Call) {start : World} (hstart : Sound start) :
    Triple (fun world => world = start) (call.execute plan)
      (fun _ => Kept start call.environment) (fun _ => Kept start call.environment) := by
  unfold Call.execute execute
  apply Triple.pre (P := Untouched start call.environment)
  · apply Triple.bind (receiptsFor_spec.exc fun _ _ h => h.kept)
    intro receipts
    apply Triple.of_forall
    rintro here ⟨rfl, hhere⟩
    apply Triple.pre (P := Untouched start call.environment)
    · rw [hstart.inSequence]
      apply Triple.bind ((contract_untouched _).exc fun _ _ h => h.kept)
      intro _
      apply Triple.bind ((validateAdmission_untouched _ _).exc fun _ _ h => h.kept)
      intro _
      apply Triple.bind ((contract_untouched _).exc fun _ _ h => h.kept)
      intro _
      split
      next terminal hterminal =>
        exact Triple.check (fun _ _ _ h => h.kept) fun _ _ _ h => h.kept
      next hnone =>
        apply Triple.bind (Q := fun _ =>
          Working start call.environment start.receipts factKinds [])
        · exact Triple.modify fun _ h => h.working ((byKind_eq_none_iff _ _).mp hnone)
        · exact fun _ => tryStages_spec call.prediction
    · rintro world rfl
      exact hhere
  · rintro world rfl
    exact ⟨kept_start hstart, rfl⟩

/-- What one call leaves, returned or raised. -/
def afterCall (plan : ExecutionPlan) (world : World) (call : Call) : World :=
  finalState ((call.execute plan).run world)

theorem afterCall_of_triple {plan : ExecutionPlan} {call : Call} {world : World}
    {P : World → Prop} (h : Triple (fun other => other = world) (call.execute plan)
      (fun _ => P) (fun _ => P)) : P (afterCall plan world call) := by
  obtain ⟨hok, herror⟩ := h world rfl
  unfold afterCall
  cases hrun : (call.execute plan).run world with
  | ok result other => exact hok result other hrun
  | error raised other => exact herror raised other hrun

theorem afterCall_kept {plan : ExecutionPlan} {call : Call} {world : World} (h : Sound world) :
    Kept world call.environment (afterCall plan world call) :=
  afterCall_of_triple (execute_spec plan call h)

/-- The state after calls of `execute` on one plan, from an empty log. -/
def afterCalls (plan : ExecutionPlan) (calls : List Call) : World :=
  runCalls (Call.execute plan) World.empty calls

theorem afterCalls_singleton (plan : ExecutionPlan) (call : Call) :
    afterCalls plan [call] = afterCall plan World.empty call := rfl

theorem afterCalls_pair (plan : ExecutionPlan) (first second : Call) :
    afterCalls plan [first, second] = afterCall plan (afterCalls plan [first]) second := rfl

theorem afterCalls_sound (plan : ExecutionPlan) (calls : List Call) :
    Sound (afterCalls plan calls) := by
  apply runCalls_invariant _ sound_empty
  intro call
  apply Triple.of_forall
  intro start hstart
  exact (execute_spec plan call hstart).conseq (fun _ h => h) (fun _ _ h => h.sound)
    fun _ _ h => h.sound

/-- In every run of calls on a plan, the receipts are numbered from one
without gaps or repeats, a singleton kind occurs at most once, a terminal
receipt is the last one, and whenever the model was asked no model receipt was
in the log, and whenever the evaluator was asked no native one. -/
theorem receiptLog_of_calls (plan : ExecutionPlan) (calls : List Call) :
    (afterCalls plan calls).receipts.map (·.sequence) =
        numbers (afterCalls plan calls).receipts.length ∧
      (∀ kind ∈ singletonKinds,
        (afterCalls plan calls).receipts.countP (fun receipt => receipt.kind = kind) ≤ 1) ∧
      ¬ hasKind "execution_terminal" (afterCalls plan calls).receipts.dropLast ∧
      (afterCalls plan calls).history.filterMap Happening.receipt? =
        (afterCalls plan calls).receipts ∧
      BeforeAny .inferred "model" (afterCalls plan calls).history ∧
      BeforeAny .evaluated "native_evaluation" (afterCalls plan calls).history := by
  have h := afterCalls_sound plan calls
  exact ⟨h.sequences, h.singletons, h.terminal_last, h.logged, h.inferred, h.evaluated⟩

end JlensEvolve.Runtime
