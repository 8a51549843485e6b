import JlensEvolve.Runtime.ReceiptLog

/-!
One rule for each stage of `execute`. A call works on the receipts it found;
`pending` are the kinds it may still append, which are in the log only if they
were found, and `present` are kinds known to be in the log.
-/

namespace JlensEvolve.Runtime

open Library Contracts

structure Kept (start : World) (environment : Environment) (world : World) : Prop where
  sound : Sound world
  told : ∃ added, world.history = start.history ++ added ∧ Told environment added

section Kept

variable {start world : World} {environment : Environment}

theorem kept_start (h : Sound start) : Kept start environment start :=
  ⟨h, [], by simp, told_nil environment⟩

theorem Kept.congr (h : Kept start environment world) {other : World}
    (hreceipts : other.receipts = world.receipts) (hhistory : other.history = world.history) :
    Kept start environment other where
  sound := h.sound.congr hreceipts hhistory
  told := by
    rw [hhistory]
    exact h.told

theorem Kept.ticked (h : Kept start environment world) : Kept start environment world.ticked :=
  h.congr rfl rfl

theorem Kept.noting (h : Kept start environment world) {happening : Happening}
    (happended : ∀ tick receipt, happening ≠ .appended tick receipt)
    (hobserved : ∀ receipt, happening ≠ .observed receipt)
    (hinferred : happening = .inferred → ¬ hasKind "model" world.receipts)
    (hevaluated : happening = .evaluated → ¬ hasKind "native_evaluation" world.receipts) :
    Kept start environment (world.noting happening) where
  sound := by
    apply h.sound.noting _ hinferred hevaluated
    cases happening with
    | appended tick receipt => exact absurd rfl (happended tick receipt)
    | _ => rfl
  told := by
    obtain ⟨added, hhistory, htold⟩ := h.told
    refine ⟨added ++ [happening], ?_, htold.snoc_other happended hobserved⟩
    simp [World.noting, hhistory]

theorem Sound.not_appended (h : Sound world) {receipt : Receipt}
    (hadmits : Admits world receipt.sequence receipt.kind) (tick : Nat) :
    .appended tick receipt ∉ world.history := by
  intro hmem
  have hlogged : receipt ∈ world.history.filterMap Happening.receipt? :=
    List.mem_filterMap.mpr ⟨_, hmem, rfl⟩
  rw [h.logged] at hlogged
  have hle := h.sequence_le hlogged
  have hnext := hadmits.next
  omega

theorem Kept.storing (h : Kept start environment world) {receipt : Receipt}
    (hadmits : Admits world receipt.sequence receipt.kind) {tick : Nat}
    (hnot : receipt.kind ∈ factKinds → ¬ Attended environment tick receipt) :
    Kept start environment (world.storing tick receipt) where
  sound := h.sound.storing hadmits tick
  told := by
    obtain ⟨added, hhistory, htold⟩ := h.told
    refine ⟨added ++ [.appended tick receipt], ?_, htold.snoc_unattended ?_ hnot⟩
    · simp [World.storing, World.noting, hhistory]
    · intro moment hmem
      apply h.sound.not_appended hadmits moment
      rw [hhistory]
      exact List.mem_append_right _ hmem

theorem Kept.attending (h : Kept start environment world) {receipt : Receipt}
    (hadmits : Admits world receipt.sequence receipt.kind) {tick : Nat}
    (hattended : Attended environment tick receipt) :
    Kept start environment ((world.storing tick receipt).noting (.observed receipt)) where
  sound := (h.sound.storing hadmits tick).noting rfl nofun nofun
  told := by
    obtain ⟨added, hhistory, htold⟩ := h.told
    refine ⟨added ++ [.appended tick receipt, .observed receipt], ?_,
      htold.snoc_attended ?_ hattended⟩
    · simp [World.storing, World.noting, hhistory]
    · intro moment hmem
      apply h.sound.not_appended hadmits moment
      rw [hhistory]
      exact List.mem_append_right _ hmem

end Kept

section Append

variable {environment : Environment} {plan : ExecutionPlan} {start world : World}
  {kind : String} {payload : Payload}

/-- The receipt was built for the next sequence and its line was written. -/
structure Appended (environment : Environment) (plan : ExecutionPlan) (kind : String)
    (payload : Payload) (world : World) (receipt : Receipt) (other : World) : Prop where
  built : ∃ createdAt,
    receipt = runtimeReceipt plan world.appender.nextSequence kind createdAt payload
  written : environment.sink (world.tick + 1) = .stored
  tick : other.tick = world.tick + 2
  receipts : other.receipts = world.receipts ++ [receipt]
  history : other.history = world.history ++ [.appended (world.tick + 1) receipt]
  nextSequence : other.appender.nextSequence = world.appender.nextSequence + 1

theorem append_spec (hkept : Kept start environment world)
    (hadmits : Admits world world.appender.nextSequence kind) :
    Triple (fun other => other = world) (append environment plan kind payload)
      (Appended environment plan kind payload world)
      (fun raised other => handled raised = false ∧ Kept start environment other) := by
  unfold append
  apply Triple.bind (Q := fun before other => before = world ∧ other = world)
    (Triple.get fun other h => ⟨h, h⟩)
  intro before
  apply Triple.of_forall
  rintro here ⟨rfl, rfl⟩
  apply Triple.bind
    ((interact_spec environment.clock here).exc fun raised other h => by
      obtain ⟨-, rfl, rfl⟩ := h
      exact ⟨rfl, hkept⟩)
  intro reading
  cases reading with
  | none =>
    refine Triple.throw ?_
    rintro other ⟨-, -, rfl⟩
    exact ⟨rfl, hkept.ticked⟩
  | some now =>
    have hnext : Admits here
        (runtimeReceipt plan here.appender.nextSequence kind (isoformat now) payload).sequence
        (runtimeReceipt plan here.appender.nextSequence kind (isoformat now) payload).kind :=
      hadmits
    apply Triple.bind
      (Q := fun stored other => environment.sink (here.tick + 1) = .stored ∧
        stored = runtimeReceipt plan here.appender.nextSequence kind (isoformat now) payload ∧
        other = here.ticked.ticked.storing (here.tick + 1) stored)
    · apply (sinkAppend_spec environment hkept.sound.ticked hnext.ticked).conseq
      · exact fun other h => h.2.2
      · rintro stored other ⟨hanswer, rfl, rfl⟩
        exact ⟨hanswer, rfl, rfl⟩
      · rintro raised other ⟨hraised, rfl | rfl | rfl | ⟨hanswer, rfl⟩⟩
        · exact ⟨hraised, hkept.congr rfl rfl⟩
        · exact ⟨hraised, hkept.congr rfl rfl⟩
        · exact ⟨hraised, hkept.congr rfl rfl⟩
        · refine ⟨hraised, hkept.ticked.ticked.storing hnext.ticked.ticked ?_⟩
          rintro - ⟨hstored, -⟩
          rw [hanswer] at hstored
          cases hstored
    · intro stored
      apply Triple.bind
        (Q := fun _ => Appended environment plan kind payload here stored)
      · apply Triple.modify
        rintro other ⟨hwritten, hbuilt, rfl⟩
        exact ⟨⟨_, hbuilt⟩, hwritten, rfl, rfl, rfl, rfl⟩
      · exact fun _ => Triple.pure fun _ h => h

/-- The appender stands right behind a log that no terminal receipt ends. -/
structure Open (world : World) : Prop where
  next : world.appender.nextSequence = world.receipts.length + 1
  running : ¬ hasKind "execution_terminal" world.receipts

/-- What is known when a stage raises: an exception that an `except` clause
names leaves an open log, and the evaluator's failure comes with a condition. -/
structure Halted (start : World) (environment : Environment) (condition : World → Prop)
    (raised : Raised) (world : World) : Prop where
  kept : Kept start environment world
  open_ : handled raised = true → Open world
  infrastructure : ∀ reason, raised = .evaluatorInfrastructure reason → condition world

theorem halted_of_unhandled {condition : World → Prop} {raised : Raised}
    (hraised : handled raised = false) (hkept : Kept start environment world) :
    Halted start environment condition raised world where
  kept := hkept
  open_ := fun h => by
    rw [hraised] at h
    cases h
  infrastructure := by
    rintro reason rfl
    cases hraised

theorem Appended.next {receipt : Receipt} {other : World}
    (h : Appended environment plan kind payload world receipt other)
    (hnext : world.appender.nextSequence = world.receipts.length + 1) :
    other.appender.nextSequence = other.receipts.length + 1 := by
  rw [h.nextSequence, h.receipts, hnext, List.length_append, List.length_singleton]
  rfl

theorem Appended.kind_eq {receipt : Receipt} {other : World}
    (h : Appended environment plan kind payload world receipt other) : receipt.kind = kind := by
  obtain ⟨createdAt, rfl⟩ := h.built
  rfl

theorem Appended.admits {receipt : Receipt} {other : World}
    (h : Appended environment plan kind payload world receipt other)
    (hadmits : Admits world world.appender.nextSequence kind) :
    Admits world receipt.sequence receipt.kind := by
  obtain ⟨createdAt, rfl⟩ := h.built
  exact hadmits

theorem Kept.of_appended {other : World} {receipt : Receipt} (hkept : Kept start environment world)
    (happended : Appended environment plan kind payload world receipt other)
    (hadmits : Admits world world.appender.nextSequence kind)
    (hnot : kind ∈ factKinds → ¬ Attended environment (world.tick + 1) receipt) :
    Kept start environment other := by
  apply (hkept.storing (happended.admits hadmits) (happended.kind_eq ▸ hnot)).congr
  · exact happended.receipts
  · exact happended.history

theorem appendControl_spec (hkept : Kept start environment world) (hopen : Open world)
    (hcontrol : kind ∉ factKinds) (hfresh : kind ∈ singletonKinds → ¬ hasKind kind world.receipts) :
    Triple (fun other => other = world) (appendControl environment plan kind payload)
      (fun _ => Kept start environment)
      (fun raised other => handled raised = false ∧ Kept start environment other) := by
  have hadmits : Admits world world.appender.nextSequence kind := by
    refine ⟨hopen.next, hfresh, hopen.running, ?_⟩
    rintro rfl
    exact absurd (by decide) hcontrol
  apply (append_spec hkept hadmits).post
  intro receipt other happended
  exact hkept.of_appended happended hadmits fun hfact => absurd hfact hcontrol

theorem hubObserve_spec (receipt : Receipt) (world : World) :
    Triple (fun other => other = world) (hubObserve environment receipt)
      (fun _ other => environment.stopped world.tick = false ∧
        (∃ evidence, environment.hub world.tick receipt = .returned evidence) ∧
        other = world.ticked.noting (.observed receipt))
      (fun raised other => (∀ reason, raised ≠ .evaluatorInfrastructure reason) ∧
        ¬ (environment.stopped world.tick = false ∧
          ∃ evidence, environment.hub world.tick receipt = .returned evidence) ∧
        other.receipts = world.receipts ∧ other.history = world.history ∧
        other.appender = world.appender) := by
  unfold hubObserve
  apply Triple.bind
    ((interact_spec (fun tick => environment.hub tick receipt) world).exc fun raised other h => by
      obtain ⟨hstopped, rfl, rfl⟩ := h
      refine ⟨nofun, ?_, rfl, rfl, rfl⟩
      rintro ⟨hrunning, -⟩
      rw [hstopped] at hrunning
      cases hrunning)
  intro answer
  apply Triple.of_forall
  rintro here ⟨hstopped, hanswer, rfl⟩
  cases answer with
  | returned evidence =>
    apply Triple.bind (Q := fun _ other => other = world.ticked.noting (.observed receipt))
    · exact Triple.modify fun _ h => h ▸ rfl
    · exact fun _ => Triple.pure fun _ h => ⟨hstopped, ⟨evidence, hanswer.symm⟩, h⟩
  | interrupted reason =>
    refine Triple.throw ?_
    rintro other rfl
    refine ⟨nofun, ?_, rfl, rfl, rfl⟩
    rintro ⟨-, evidence, hreturned⟩
    rw [hreturned] at hanswer
    cases hanswer
  | failed =>
    refine Triple.throw ?_
    rintro other rfl
    refine ⟨nofun, ?_, rfl, rfl, rfl⟩
    rintro ⟨-, evidence, hreturned⟩
    rw [hreturned] at hanswer
    cases hanswer

/-- A fact that is appended and observed, or else a fact that is not attended
to, or no fact at all. -/
theorem appendFact_spec (hkept : Kept start environment world)
    (hadmits : Admits world world.appender.nextSequence kind) :
    Triple (fun other => other = world) (appendFact environment plan kind payload)
      (fun receipt other => receipt.kind = kind ∧ Kept start environment other ∧
        other.receipts = world.receipts ++ [receipt] ∧
        other.appender.nextSequence = other.receipts.length + 1)
      (fun raised other => Kept start environment other ∧
        (∀ reason, raised ≠ .evaluatorInfrastructure reason) ∧
        (handled raised = true → other.appender.nextSequence = other.receipts.length + 1 ∧
          ∃ receipt, receipt.kind = kind ∧ other.receipts = world.receipts ++ [receipt])) := by
  unfold appendFact
  apply Triple.bind ((append_spec hkept hadmits).exc ?unhandled)
  case unhandled =>
    rintro raised other ⟨hraised, hother⟩
    refine ⟨hother, ?_, ?_⟩
    · rintro reason rfl
      cases hraised
    · intro htrue
      rw [hraised] at htrue
      cases htrue
  intro receipt
  apply Triple.of_forall
  intro here happended
  have hnext := happended.next hadmits.next
  have hbuilt := happended.admits hadmits
  apply Triple.bind (Q := fun _ other => Kept start environment other ∧
    other.receipts = here.receipts ∧ other.appender = here.appender)
  · apply (hubObserve_spec receipt here).conseq (fun _ h => h)
    · rintro evidence other ⟨hstopped, hreturned, rfl⟩
      rw [happended.tick] at hstopped hreturned
      refine ⟨?_, rfl, rfl⟩
      apply (hkept.attending hbuilt ⟨happended.written, hstopped, hreturned⟩).congr
      · exact happended.receipts
      · simp [World.noting, World.storing, World.ticked, happended.history]
    · rintro raised other ⟨hinfrastructure, hnot, hreceipts, hhistory, happender⟩
      rw [happended.tick] at hnot
      refine ⟨?_, hinfrastructure, fun _ => ⟨?_, receipt, happended.kind_eq, ?_⟩⟩
      · apply (hkept.of_appended happended hadmits ?_).congr hreceipts hhistory
        rintro - ⟨-, hattended⟩
        exact hnot hattended
      · rw [happender, hreceipts, hnext]
      · rw [hreceipts, happended.receipts]
  · intro evidence
    apply Triple.bind (Q := fun _ other => Kept start environment other ∧
      other.receipts = here.receipts ∧
      other.appender.nextSequence = here.appender.nextSequence)
    · apply Triple.modify
      rintro other ⟨hother, hreceipts, happender⟩
      exact ⟨hother.congr rfl rfl, hreceipts, by rw [← happender]; rfl⟩
    · intro _
      apply Triple.pure
      rintro other ⟨hother, hreceipts, hsequence⟩
      refine ⟨happended.kind_eq, hother, ?_, ?_⟩
      · rw [hreceipts, happended.receipts]
      · rw [hsequence, hreceipts, hnext]

end Append

structure Working (start : World) (environment : Environment) (existing : List Receipt)
    (pending present : List String) (world : World) : Prop where
  kept : Kept start environment world
  open_ : Open world
  found : ∀ receipt ∈ existing, receipt ∈ world.receipts
  pending : ∀ kind ∈ pending, hasKind kind world.receipts → hasKind kind existing
  present : ∀ kind ∈ present, hasKind kind world.receipts

theorem byKind_eq_none_iff (kind : String) (existing : List Receipt) :
    byKind kind existing = none ↔ ¬ hasKind kind existing := by
  simp [byKind, firstOfKind, hasKind]

theorem hasKind_of_byKind {kind : String} {existing : List Receipt} {receipt : Receipt}
    (h : byKind kind existing = some receipt) : hasKind kind existing := by
  by_contra hno
  rw [(byKind_eq_none_iff kind existing).mpr hno] at h
  cases h

section Stages

variable {environment : Environment} {plan : ExecutionPlan} {start : World}
  {existing : List Receipt} {kind : String} {rest present : List String} {payload : Payload}

section Working

variable {pending : List String} {world : World}

theorem Working.ticked (h : Working start environment existing pending present world) :
    Working start environment existing pending present world.ticked :=
  ⟨h.kept.ticked, ⟨h.open_.next, h.open_.running⟩, h.found, h.pending, h.present⟩

theorem Working.skip (h : Working start environment existing (kind :: rest) present world)
    (hfound : hasKind kind existing) :
    Working start environment existing rest (kind :: present) world where
  kept := h.kept
  open_ := h.open_
  found := h.found
  pending := fun other hother => h.pending other (List.mem_cons_of_mem _ hother)
  present := by
    intro other hother
    rcases List.mem_cons.mp hother with rfl | hother
    · obtain ⟨receipt, hmem, hkind⟩ := hfound
      exact ⟨receipt, h.found receipt hmem, hkind⟩
    · exact h.present other hother

theorem Working.pass (h : Working start environment existing (kind :: rest) present world) :
    Working start environment existing rest present world :=
  ⟨h.kept, h.open_, h.found, fun other hother => h.pending other (List.mem_cons_of_mem _ hother),
    h.present⟩

theorem Working.forget (h : Working start environment existing pending (kind :: present) world) :
    Working start environment existing pending present world :=
  ⟨h.kept, h.open_, h.found, h.pending, fun other hother =>
    h.present other (List.mem_cons_of_mem _ hother)⟩

theorem Working.halted (h : Working start environment existing pending present world)
    {condition : World → Prop} {raised : Raised}
    (hcondition : ∀ reason, raised = .evaluatorInfrastructure reason → condition world) :
    Halted start environment condition raised world :=
  ⟨h.kept, fun _ => h.open_, hcondition⟩

end Working

theorem appendFact_stage (habsent : ¬ hasKind kind existing) (hrest : kind ∉ rest)
    (hterminal : kind ≠ "execution_terminal") (hworkspace : kind = "model" → "workspace" ∈ present)
    {condition : World → Prop} :
    Triple (Working start environment existing (kind :: rest) present)
      (appendFact environment plan kind payload)
      (fun _ => Working start environment existing rest (kind :: present))
      (Halted start environment condition) := by
  apply Triple.of_forall
  intro world h
  have hnot : ¬ hasKind kind world.receipts :=
    fun hkind => habsent (h.pending kind List.mem_cons_self hkind)
  have hadmits : Admits world world.appender.nextSequence kind :=
    ⟨h.open_.next, fun _ => hnot, h.open_.running, fun hmodel =>
      h.present "workspace" (hworkspace hmodel)⟩
  have hrunning {receipt : Receipt} (hkind : receipt.kind = kind) :
      ¬ hasKind "execution_terminal" (world.receipts ++ [receipt]) := by
    rw [hasKind_append, hkind]
    rintro (hended | hended)
    · exact h.open_.running hended
    · exact hterminal hended
  apply (appendFact_spec h.kept hadmits).conseq (fun _ heq => heq)
  · rintro receipt other ⟨hkind, hkept, hreceipts, hnext⟩
    refine ⟨hkept, ⟨hnext, hreceipts ▸ hrunning hkind⟩, ?_, ?_, ?_⟩
    · intro found hfound
      rw [hreceipts]
      exact List.mem_append_left _ (h.found found hfound)
    · intro later hlater hhas
      rw [hreceipts, hasKind_append] at hhas
      rcases hhas with hhas | hhas
      · exact h.pending later (List.mem_cons_of_mem _ hlater) hhas
      · exact absurd hlater (hhas ▸ hkind ▸ hrest)
    · intro known hknown
      rw [hreceipts, hasKind_append]
      rcases List.mem_cons.mp hknown with rfl | hknown
      · exact Or.inr hkind
      · exact Or.inl (h.present known hknown)
  · rintro raised other ⟨hkept, hinfrastructure, hhandled⟩
    refine ⟨hkept, ?_, fun reason hreason => absurd hreason (hinfrastructure reason)⟩
    intro htrue
    obtain ⟨hnext, receipt, hkind, hreceipts⟩ := hhandled htrue
    exact ⟨hnext, hreceipts ▸ hrunning hkind⟩

theorem interact_stage {pending : List String} {α : Type} (answer : Nat → α)
    {condition : World → Prop} :
    Triple (Working start environment existing pending present) (interact environment answer)
      (fun _ => Working start environment existing pending present)
      (Halted start environment condition) := by
  apply Triple.of_forall
  intro world h
  apply (interact_spec answer world).conseq (fun _ heq => heq)
  · rintro value other ⟨-, -, rfl⟩
    exact h.ticked
  · rintro raised other ⟨-, rfl, rfl⟩
    exact h.halted nofun

theorem contract_stage {pending : List String} {α : Type} (checked : Except String α)
    {condition : World → Prop} :
    Triple (Working start environment existing pending present) (contract checked)
      (fun _ => Working start environment existing pending present)
      (Halted start environment condition) := by
  unfold contract
  cases checked with
  | ok value => exact Triple.pure fun _ h => h
  | error message => exact Triple.throw fun _ h => h.halted nofun

/-! ### Payloads -/

/-- No `except` clause names what the check raises. -/
def Plain {α : Type} (checked : Except Raised α) : Prop :=
  ∀ raised, checked = .error raised → handled raised = false

theorem Plain.pure {α : Type} (value : α) : Plain (pure value : Except Raised α) := nofun

theorem Plain.throw {α : Type} {raised : Raised} (h : handled raised = false) :
    Plain (throw raised : Except Raised α) := by
  rintro _ ⟨⟩
  exact h

theorem Plain.bind {α β : Type} {checked : Except Raised α} {next : α → Except Raised β}
    (h : Plain checked) (hnext : ∀ value, Plain (next value)) : Plain (checked >>= next) := by
  cases checked with
  | ok value => exact hnext value
  | error raised =>
    rintro _ ⟨⟩
    exact h raised rfl

theorem Plain.require (condition : Prop) [Decidable condition] {raised : Raised}
    (h : handled raised = false) : Plain (require condition raised) := by
  unfold Library.require
  split
  · exact Plain.pure ()
  · exact Plain.throw h

theorem Plain.mapError {α : Type} (checked : Except String α) :
    Plain (checked.mapError Raised.contractViolation) := by
  cases checked with
  | ok value => exact Plain.pure value
  | error message => exact Plain.throw rfl

theorem plain_internalTrace (plan : ExecutionPlan) (modelReceipt : Receipt) (fields : Payload)
    (file : TraceFile) : Plain (internalTrace plan modelReceipt fields file) := by
  unfold internalTrace
  apply Plain.bind (Plain.require _ rfl)
  intro _
  apply Plain.bind (Plain.mapError _)
  intro _
  split
  · exact Plain.throw rfl
  · apply Plain.bind (Plain.require _ rfl)
    intro _
    split
    · exact Plain.throw rfl
    · apply Plain.bind (Plain.mapError _)
      intro _
      split
      · exact Plain.bind (Plain.require _ rfl) fun _ => Plain.pure _
      · exact Plain.throw rfl
    · exact Plain.throw rfl

theorem plain_numericCost (environment : Environment) (value : Json) :
    Plain (numericCost environment value) := by
  unfold numericCost
  split
  · split
    · exact Plain.pure _
    · exact Plain.throw rfl
  · exact Plain.pure _
  · exact Plain.throw rfl

theorem plain_validatedCost (environment : Environment) (value : Json) :
    Plain (validatedCost environment value) := by
  unfold validatedCost
  apply Plain.bind (plain_numericCost _ _)
  intro numeric
  exact Plain.bind (Plain.require _ rfl) fun _ => Plain.pure _

theorem plain_intOf (environment : Environment) (value : Json) :
    Plain (intOf environment value) := by
  unfold intOf
  split
  · exact Plain.pure _
  · exact Plain.pure _
  · exact Plain.pure _
  · split
    · exact Plain.pure _
    · exact Plain.throw rfl
  · exact Plain.throw rfl

theorem plain_costPayload (environment : Environment) (plan : ExecutionPlan) (output : Payload) :
    Plain (costPayload environment plan output) :=
  Plain.bind (plain_validatedCost _ _) fun _ => Plain.bind (plain_intOf _ _) fun _ =>
    Plain.bind (plain_intOf _ _) fun _ => Plain.pure _

theorem plain_recordedCost (environment : Environment) (costReceipt : Receipt) :
    Plain (recordedCost environment costReceipt) := by
  unfold recordedCost
  split
  · exact Plain.pure _
  · exact Plain.throw rfl

theorem check_stage {pending : List String} {α : Type} {checked : Except Raised α}
    (hplain : Plain checked) {condition : World → Prop} :
    Triple (Working start environment existing pending present) (check checked)
      (fun _ => Working start environment existing pending present)
      (Halted start environment condition) := by
  apply Triple.check
  · exact fun value world hchecked h => h
  · exact fun raised world hchecked h => halted_of_unhandled (hplain raised hchecked) h.kept

/-! ### Stages -/

/-- The evaluator's failure comes from an adapter, so there is no receipt of
the stage that asked. -/
theorem workspaceStage_spec (hrest : "workspace" ∉ rest):
    Triple (Working start environment existing ("workspace" :: rest) present)
      (workspaceStage environment plan existing)
      (fun _ => Working start environment existing rest ("workspace" :: present))
      (Halted start environment fun _ => ¬ hasKind "model" existing) := by
  unfold workspaceStage
  split
  next hnone =>
    have habsent := (byKind_eq_none_iff _ _).mp hnone
    apply Triple.bind
      (Q := fun _ => Working start environment existing ("workspace" :: rest) present)
    · unfold materialize
      apply Triple.bind (interact_stage _)
      intro answer
      apply Triple.check
      · exact fun _ _ _ h => h
      · intro raised world _ h
        apply h.halted
        rintro reason - ⟨receipt, hmem, hkind⟩
        have hworkspace := h.kept.sound.model_workspace ⟨receipt, h.found receipt hmem, hkind⟩
        exact habsent (h.pending "workspace" List.mem_cons_self hworkspace)
    · intro materialized
      apply Triple.bind (appendFact_stage habsent hrest (by decide) (fun h => absurd h (by decide)))
      exact fun _ => Triple.pure fun _ h => h
  next receipt hsome =>
    have hfound := hasKind_of_byKind hsome
    apply Triple.bind (contract_stage _)
    exact fun _ => Triple.pure fun _ h => h.skip hfound

theorem predictionStage_spec (hrest : "mechanism_prediction" ∉ rest)
    (prediction : Option MechanismPrediction) {condition : World → Prop} :
    Triple (Working start environment existing ("mechanism_prediction" :: rest) present)
      (predictionStage environment plan existing prediction)
      (fun _ => Working start environment existing rest present)
      (Halted start environment condition) := by
  unfold predictionStage
  split
  next prediction hnone =>
    have habsent := (byKind_eq_none_iff _ _).mp hnone
    apply Triple.bind (contract_stage _)
    intro _
    apply Triple.bind (appendFact_stage habsent hrest (by decide) (fun h => absurd h (by decide)))
    exact fun _ => Triple.pure fun _ h => h.forget
  next => exact Triple.pure fun _ h => h.pass

theorem modelStage_spec (hrest : "model" ∉ rest) (hpresent : "workspace" ∈ present)
    (workspace : Payload) :
    Triple (Working start environment existing ("model" :: rest) present)
      (modelStage environment plan existing workspace)
      (fun _ => Working start environment existing rest ("model" :: present))
      (Halted start environment fun _ => ¬ hasKind "model" existing) := by
  unfold modelStage
  split
  next hnone =>
    have habsent := (byKind_eq_none_iff _ _).mp hnone
    apply Triple.bind
      (Q := fun _ => Working start environment existing ("model" :: rest) present)
    · unfold infer
      apply Triple.bind (interact_stage _)
      intro answer
      apply Triple.bind
        (Q := fun _ => Working start environment existing ("model" :: rest) present)
      · apply Triple.modify
        intro world h
        refine ⟨h.kept.noting nofun nofun (fun _ hmodel => ?_) nofun,
          ⟨h.open_.next, h.open_.running⟩, h.found, h.pending, h.present⟩
        exact habsent (h.pending "model" List.mem_cons_self hmodel)
      · intro _
        apply Triple.check
        · exact fun _ _ _ h => h
        · exact fun raised world _ h => h.halted fun _ _ => habsent
    · exact fun answer => appendFact_stage habsent hrest (by decide) fun _ => hpresent
  next receipt hsome => exact Triple.pure fun _ h => h.skip (hasKind_of_byKind hsome)

theorem traceStage_spec (hrest : "external_trace" ∉ rest) (modelReceipt : Receipt)
    {condition : World → Prop} :
    Triple (Working start environment existing ("external_trace" :: rest) present)
      (traceStage environment plan existing modelReceipt)
      (fun _ => Working start environment existing rest present)
      (Halted start environment condition) := by
  unfold traceStage
  split
  next hnone =>
    have habsent := (byKind_eq_none_iff _ _).mp hnone
    apply Triple.bind (contract_stage _)
    intro payload
    apply Triple.bind (appendFact_stage habsent hrest (by decide) (fun h => absurd h (by decide)))
    exact fun _ => Triple.pure fun _ h => h.forget
  next trace _ => exact (contract_stage _).post fun _ _ h => h.pass

theorem internalStage_spec (hrest : "internal_trace" ∉ rest) (modelReceipt : Receipt)
    {condition : World → Prop} :
    Triple (Working start environment existing ("internal_trace" :: rest) present)
      (internalStage environment plan existing modelReceipt)
      (fun _ => Working start environment existing rest present)
      (Halted start environment condition) := by
  unfold internalStage
  split
  next => exact Triple.pure fun _ h => h.pass
  next hnone _ =>
    have habsent := (byKind_eq_none_iff _ _).mp hnone
    apply Triple.bind (contract_stage _)
    rintro ⟨fields, path⟩
    apply Triple.bind (interact_stage _)
    intro file
    apply Triple.bind (check_stage (plain_internalTrace _ _ _ _))
    intro payload
    apply Triple.bind (appendFact_stage habsent hrest (by decide) (fun h => absurd h (by decide)))
    exact fun _ => Triple.pure fun _ h => h.forget
  next => exact Triple.throw fun _ h => h.halted nofun
  next => exact Triple.pure fun _ h => h.pass

theorem costStage_spec (hrest : "cost" ∉ rest) (modelReceipt : Receipt)
    {condition : World → Prop} :
    Triple (Working start environment existing ("cost" :: rest) present)
      (costStage environment plan existing modelReceipt)
      (fun _ => Working start environment existing rest present)
      (Halted start environment condition) := by
  unfold costStage
  split
  next hnone =>
    have habsent := (byKind_eq_none_iff _ _).mp hnone
    apply Triple.bind (check_stage (plain_costPayload _ _ _))
    intro payload
    apply (appendFact_stage habsent hrest (by decide) (fun h => absurd h (by decide))).post
    exact fun _ _ h => h.forget
  next => exact Triple.pure fun _ h => h.pass

theorem nativeStage_spec (hrest : "native_evaluation" ∉ rest) (workspace : Payload)
    (modelReceipt : Receipt) :
    Triple (Working start environment existing ("native_evaluation" :: rest) present)
      (nativeStage environment plan existing workspace modelReceipt)
      (fun _ => Working start environment existing rest present)
      (Halted start environment fun world => ¬ hasKind "native_evaluation" world.receipts) := by
  unfold nativeStage
  split
  next hnone =>
    have habsent := (byKind_eq_none_iff _ _).mp hnone
    have hnot {world : World} (h : Working start environment existing
        ("native_evaluation" :: rest) present world) :
        ¬ hasKind "native_evaluation" world.receipts :=
      fun hnative => habsent (h.pending "native_evaluation" List.mem_cons_self hnative)
    apply Triple.bind
      (Q := fun _ => Working start environment existing ("native_evaluation" :: rest) present)
    · unfold evaluate
      apply Triple.bind (interact_stage _)
      intro answer
      apply Triple.bind
        (Q := fun _ => Working start environment existing ("native_evaluation" :: rest) present)
      · apply Triple.modify
        intro world h
        exact ⟨h.kept.noting nofun nofun nofun fun _ => hnot h,
          ⟨h.open_.next, h.open_.running⟩, h.found, h.pending, h.present⟩
      · intro _
        apply Triple.check
        · exact fun _ _ _ h => h
        · exact fun raised world _ h => h.halted fun _ _ => hnot h
    · intro answer
      apply Triple.bind (contract_stage _)
      intro payload
      apply Triple.bind
        (appendFact_stage habsent hrest (by decide) (fun h => absurd h (by decide)))
      exact fun _ => Triple.pure fun _ h => h.forget
  next => exact Triple.pure fun _ h => h.pass

end Stages

end JlensEvolve.Runtime
