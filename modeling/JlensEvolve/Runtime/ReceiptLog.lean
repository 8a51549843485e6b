import JlensEvolve.Runtime.Execution

/-!
What every sequence of calls keeps of the receipts of a plan: they are numbered
from one, a singleton kind occurs at most once, nothing follows a terminal
receipt, and an adapter is not asked again once its receipt is in the log.
-/

namespace JlensEvolve.Runtime

open Library Contracts

def hasKind (kind : String) (receipts : List Receipt) : Prop :=
  ∃ receipt ∈ receipts, receipt.kind = kind

@[simp] theorem not_hasKind_nil (kind : String) : ¬ hasKind kind [] := by
  simp [hasKind]

/-- The sequences of `n` receipts without gaps or repeats. -/
def numbers (n : Nat) : List Int := (List.range n).map fun (i : Nat) => (i : Int) + 1

theorem numbers_succ (n : Nat) : numbers (n + 1) = numbers n ++ [(n : Int) + 1] := by
  simp [numbers, List.range_succ]

def Happening.receipt? : Happening → Option Receipt
  | .appended _ receipt => some receipt
  | _ => none

/-- No receipt of the kind was in the log whenever the thing happened. -/
def BeforeAny (happening : Happening) (kind : String) (history : List Happening) : Prop :=
  ∀ before after, history = before ++ happening :: after →
    ¬ hasKind kind (before.filterMap Happening.receipt?)

theorem BeforeAny.snoc {happening next : Happening} {kind : String} {history : List Happening}
    (h : BeforeAny happening kind history)
    (hnext : next = happening → ¬ hasKind kind (history.filterMap Happening.receipt?)) :
    BeforeAny happening kind (history ++ [next]) := by
  intro before after heq
  rcases List.eq_nil_or_concat after with rfl | ⟨rest, last, rfl⟩
  · obtain ⟨rfl, hlast⟩ := List.append_inj' heq rfl
    exact hnext (List.singleton_inj.mp hlast)
  · rw [List.concat_eq_append, ← List.cons_append, ← List.append_assoc] at heq
    exact h before rest (List.append_inj' heq rfl).1

structure Sound (world : World) : Prop where
  sequences : world.receipts.map (·.sequence) = numbers world.receipts.length
  singletons : ∀ kind ∈ singletonKinds,
    world.receipts.countP (fun receipt => receipt.kind = kind) ≤ 1
  terminal_last : ¬ hasKind "execution_terminal" world.receipts.dropLast
  model_workspace : hasKind "model" world.receipts → hasKind "workspace" world.receipts
  logged : world.history.filterMap Happening.receipt? = world.receipts
  inferred : BeforeAny .inferred "model" world.history
  evaluated : BeforeAny .evaluated "native_evaluation" world.history

theorem sound_empty : Sound World.empty where
  sequences := rfl
  singletons := fun kind _ => Nat.zero_le 1
  terminal_last := by simp [World.empty]
  model_workspace := by simp [World.empty]
  logged := rfl
  inferred := fun before after h => by simp [World.empty] at h
  evaluated := fun before after h => by simp [World.empty] at h

section Steps

variable {world : World}

theorem Sound.congr (h : Sound world) {other : World} (hreceipts : other.receipts = world.receipts)
    (hhistory : other.history = world.history) : Sound other := by
  obtain ⟨receipts, torn, tick, history, appender⟩ := other
  subst hreceipts hhistory
  exact ⟨h.sequences, h.singletons, h.terminal_last, h.model_workspace, h.logged, h.inferred,
    h.evaluated⟩

theorem Sound.noting (h : Sound world) {happening : Happening} (hno : happening.receipt? = none)
    (hinferred : happening = .inferred → ¬ hasKind "model" world.receipts)
    (hevaluated : happening = .evaluated → ¬ hasKind "native_evaluation" world.receipts) :
    Sound (world.noting happening) where
  sequences := h.sequences
  singletons := h.singletons
  terminal_last := h.terminal_last
  model_workspace := h.model_workspace
  logged := by
    change (world.history ++ [happening]).filterMap Happening.receipt? = world.receipts
    simp [List.filterMap_append, h.logged, hno]
  inferred := by
    apply h.inferred.snoc
    rw [h.logged]
    exact hinferred
  evaluated := by
    apply h.evaluated.snoc
    rw [h.logged]
    exact hevaluated

/-- What a receipt has to meet before its line is written. -/
structure Admits (world : World) (sequence : Int) (kind : String) : Prop where
  next : sequence = world.receipts.length + 1
  fresh : kind ∈ singletonKinds → ¬ hasKind kind world.receipts
  running : ¬ hasKind "execution_terminal" world.receipts
  workspace : kind = "model" → hasKind "workspace" world.receipts

theorem Admits.ticked {sequence : Int} {kind : String} (h : Admits world sequence kind) :
    Admits world.ticked sequence kind :=
  ⟨h.next, h.fresh, h.running, h.workspace⟩

theorem Sound.ticked (h : Sound world) : Sound world.ticked := h.congr rfl rfl

theorem hasKind_append (kind : String) (receipts : List Receipt) (receipt : Receipt) :
    hasKind kind (receipts ++ [receipt]) ↔ hasKind kind receipts ∨ receipt.kind = kind := by
  simp [hasKind, or_and_right, exists_or]

theorem countP_of_not_hasKind {kind : String} {receipts : List Receipt}
    (h : ¬ hasKind kind receipts) :
    receipts.countP (fun receipt => receipt.kind = kind) = 0 := by
  rw [List.countP_eq_zero]
  intro receipt hmem
  simpa using fun hkind => h ⟨receipt, hmem, hkind⟩

theorem Sound.storing (h : Sound world) {receipt : Receipt}
    (hadmits : Admits world receipt.sequence receipt.kind) (tick : Nat) :
    Sound (world.storing tick receipt) where
  sequences := by
    change (world.receipts ++ [receipt]).map (·.sequence) =
      numbers (world.receipts ++ [receipt]).length
    rw [List.map_append, h.sequences, List.length_append, List.length_singleton, numbers_succ,
      List.map_singleton, hadmits.next]
  singletons := by
    intro kind hkind
    change (world.receipts ++ [receipt]).countP _ ≤ 1
    rw [List.countP_append, List.countP_singleton]
    by_cases hsame : receipt.kind = kind
    · subst hsame
      rw [countP_of_not_hasKind (hadmits.fresh hkind)]
      simp
    · simpa [hsame] using h.singletons kind hkind
  terminal_last := by
    change ¬ hasKind _ (world.receipts ++ [receipt]).dropLast
    rw [List.dropLast_concat]
    exact hadmits.running
  model_workspace := by
    change hasKind _ (world.receipts ++ [receipt]) → hasKind _ (world.receipts ++ [receipt])
    rw [hasKind_append, hasKind_append]
    rintro (hmodel | hmodel)
    · exact Or.inl (h.model_workspace hmodel)
    · exact Or.inl (hadmits.workspace hmodel)
  logged := by
    change (world.history ++ [Happening.appended tick receipt]).filterMap Happening.receipt? =
      world.receipts ++ [receipt]
    rw [List.filterMap_append, h.logged]
    rfl
  inferred := h.inferred.snoc nofun
  evaluated := h.evaluated.snoc nofun

theorem Sound.sequence_le (h : Sound world) {receipt : Receipt}
    (hmem : receipt ∈ world.receipts) : receipt.sequence ≤ world.receipts.length := by
  have hsequence : receipt.sequence ∈ numbers world.receipts.length := by
    rw [← h.sequences]
    exact List.mem_map_of_mem hmem
  obtain ⟨i, hi, hvalue⟩ := List.mem_map.mp hsequence
  have hlt := List.mem_range.mp hi
  omega

end Steps

section Appending

variable (environment : Environment) (plan : ExecutionPlan)

theorem run_interact {α : Type} (answer : Nat → α) (world : World) :
    (interact environment answer).run world =
      if environment.stopped world.tick then .error .stopped world
      else .ok (answer world.tick) world.ticked := by
  simp only [interact, EStateM.run_bind, EStateM.run_get]
  cases hstopped : environment.stopped world.tick with
  | true => rfl
  | false => rfl

theorem interact_spec {environment : Environment} {α : Type} (answer : Nat → α) (world : World) :
    Triple (fun other => other = world) (interact environment answer)
      (fun value other => environment.stopped world.tick = false ∧ value = answer world.tick ∧
        other = world.ticked)
      (fun raised other => environment.stopped world.tick = true ∧ raised = .stopped ∧
        other = world) := by
  rintro other rfl
  rw [run_interact]
  cases hstopped : environment.stopped other.tick with
  | true => exact ⟨nofun, by rintro raised final ⟨⟩; exact ⟨rfl, rfl, rfl⟩⟩
  | false => exact ⟨by rintro value final ⟨⟩; exact ⟨rfl, rfl, rfl⟩, nofun⟩

theorem sameReceipt_eq_false {world : World} (hsound : Sound world) {receipt prior : Receipt}
    (hadmits : Admits world receipt.sequence receipt.kind) (hmem : prior ∈ world.receipts) :
    sameReceipt prior receipt = false := by
  have hle := hsound.sequence_le hmem
  have hnext := hadmits.next
  have hne : prior.sequence ≠ receipt.sequence := by omega
  simp [sameReceipt, hne]

/-- A new receipt goes to the end of the log, or the call raises an exception
that no `except` clause names; the log has its line all the same when the store
failed only then. -/
theorem storeAppend_spec {world : World} (hsound : Sound world) {receipt : Receipt}
    (hadmits : Admits world receipt.sequence receipt.kind) (answer : SinkAnswer) (tick : Nat) :
    Triple (fun other => other = world) (storeAppend answer tick receipt)
      (fun stored other => answer = .stored ∧ stored = receipt ∧
        other = world.storing tick receipt)
      (fun raised other => handled raised = false ∧
        (other = world ∨ other = world.tearing ∨
          answer = .storedThenFailed ∧ other = world.storing tick receipt)) := by
  unfold storeAppend
  apply Triple.bind (Q := fun current other => current = world ∧ other = world)
    (Triple.get fun other h => ⟨h, h⟩)
  intro current
  apply Triple.of_forall
  rintro other ⟨rfl, rfl⟩
  apply Triple.bind (Q := fun _ final => final = other)
  · exact Triple.raiseIf (fun _ _ h => h) (fun _ _ h => ⟨rfl, Or.inl h⟩)
  intro _
  split
  next prior hprior =>
    have hsame := sameReceipt_eq_false hsound hadmits (List.mem_of_find?_eq_some hprior)
    rw [hsame]
    exact Triple.throw fun _ h => ⟨rfl, Or.inl h⟩
  next =>
    cases answer with
    | stored =>
      apply Triple.bind (Q := fun _ final => final = other.storing tick receipt)
      · exact Triple.modify fun _ h => h ▸ rfl
      · exact fun _ => Triple.pure fun _ h => ⟨rfl, rfl, h⟩
    | refused => exact Triple.throw fun _ h => ⟨rfl, Or.inl h⟩
    | torn =>
      apply Triple.bind (Q := fun _ final => final = other.tearing)
      · exact Triple.modify fun _ h => h ▸ rfl
      · exact fun _ => Triple.throw fun _ h => ⟨rfl, Or.inr (Or.inl h)⟩
    | storedThenFailed =>
      apply Triple.bind (Q := fun _ final => final = other.storing tick receipt)
      · exact Triple.modify fun _ h => h ▸ rfl
      · exact fun _ => Triple.throw fun _ h => ⟨rfl, Or.inr (Or.inr ⟨rfl, h⟩)⟩

theorem sinkAppend_spec {world : World} (hsound : Sound world) {receipt : Receipt}
    (hadmits : Admits world receipt.sequence receipt.kind) :
    Triple (fun other => other = world) (sinkAppend environment receipt)
      (fun stored other => environment.sink world.tick = .stored ∧ stored = receipt ∧
        other = world.ticked.storing world.tick receipt)
      (fun raised other => handled raised = false ∧
        (other = world ∨ other = world.ticked ∨ other = world.ticked.tearing ∨
          environment.sink world.tick = .storedThenFailed ∧
            other = world.ticked.storing world.tick receipt)) := by
  unfold sinkAppend
  apply Triple.bind (Q := fun before other => before = world ∧ other = world)
    (Triple.get fun other h => ⟨h, h⟩)
  intro before
  apply Triple.of_forall
  rintro here ⟨rfl, rfl⟩
  apply Triple.bind
    ((interact_spec environment.sink here).exc fun raised other h => by
      obtain ⟨-, rfl, rfl⟩ := h
      exact ⟨rfl, Or.inl rfl⟩)
  intro answer
  apply Triple.of_forall
  rintro other ⟨-, rfl, rfl⟩
  apply (storeAppend_spec hsound.ticked hadmits.ticked _ _).exc
  rintro raised other ⟨hraised, h⟩
  exact ⟨hraised, Or.inr h⟩

end Appending

def factKinds : List String :=
  ["workspace", "mechanism_prediction", "model", "external_trace", "internal_trace", "cost",
    "native_evaluation"]

/-- The line is written at this tick without a failure, and at the next the
process goes on and the hub takes the receipt. -/
def Attended (environment : Environment) (tick : Nat) (receipt : Receipt) : Prop :=
  environment.sink tick = .stored ∧ environment.stopped (tick + 1) = false ∧
    ∃ evidence, environment.hub (tick + 1) receipt = .returned evidence

/-- What a call adds to the history: it observes receipts of its own only, and
of the facts it appends those it attends to. -/
structure Told (environment : Environment) (added : List Happening) : Prop where
  own : ∀ receipt, .observed receipt ∈ added → ∃ tick, .appended tick receipt ∈ added
  facts : ∀ tick receipt, .appended tick receipt ∈ added → receipt.kind ∈ factKinds →
    (Attended environment tick receipt ↔ .observed receipt ∈ added)

theorem told_nil (environment : Environment) : Told environment [] where
  own := nofun
  facts := nofun

section Told

variable {environment : Environment} {added : List Happening}

theorem Told.snoc_other (h : Told environment added) {happening : Happening}
    (happended : ∀ tick receipt, happening ≠ .appended tick receipt)
    (hobserved : ∀ receipt, happening ≠ .observed receipt) :
    Told environment (added ++ [happening]) where
  own := by
    intro receipt hmem
    rcases List.mem_append.mp hmem with hmem | hmem
    · obtain ⟨tick, htick⟩ := h.own receipt hmem
      exact ⟨tick, List.mem_append_left _ htick⟩
    · exact absurd (List.mem_singleton.mp hmem).symm (hobserved receipt)
  facts := by
    intro tick receipt hmem hfact
    rcases List.mem_append.mp hmem with hmem | hmem
    · rw [h.facts tick receipt hmem hfact]
      constructor
      · exact List.mem_append_left _
      · intro hobs
        rcases List.mem_append.mp hobs with hobs | hobs
        · exact hobs
        · exact absurd (List.mem_singleton.mp hobs).symm (hobserved receipt)
    · exact absurd (List.mem_singleton.mp hmem).symm (happended tick receipt)

theorem Told.snoc_unattended (h : Told environment added) {tick : Nat} {receipt : Receipt}
    (hnew : ∀ tick, .appended tick receipt ∉ added)
    (hnot : receipt.kind ∈ factKinds → ¬ Attended environment tick receipt) :
    Told environment (added ++ [.appended tick receipt]) where
  own := by
    intro other hmem
    rcases List.mem_append.mp hmem with hmem | hmem
    · obtain ⟨moment, htick⟩ := h.own other hmem
      exact ⟨moment, List.mem_append_left _ htick⟩
    · cases List.mem_singleton.mp hmem
  facts := by
    intro moment other hmem hfact
    have hobs : .observed other ∈ added ++ [Happening.appended tick receipt] ↔
        .observed other ∈ added := by simp
    rw [hobs]
    rcases List.mem_append.mp hmem with hmem | hmem
    · exact h.facts moment other hmem hfact
    · cases List.mem_singleton.mp hmem
      constructor
      · exact fun hattended => absurd hattended (hnot hfact)
      · intro hobserved
        obtain ⟨earlier, hearlier⟩ := h.own receipt hobserved
        exact absurd hearlier (hnew earlier)

theorem Told.snoc_attended (h : Told environment added) {tick : Nat} {receipt : Receipt}
    (hnew : ∀ tick, .appended tick receipt ∉ added) (hattended : Attended environment tick receipt) :
    Told environment (added ++ [.appended tick receipt, .observed receipt]) where
  own := by
    intro other hmem
    rcases List.mem_append.mp hmem with hmem | hmem
    · obtain ⟨moment, htick⟩ := h.own other hmem
      exact ⟨moment, List.mem_append_left _ htick⟩
    · obtain rfl : other = receipt := by simpa using hmem
      exact ⟨tick, by simp⟩
  facts := by
    intro moment other hmem hfact
    rcases List.mem_append.mp hmem with hmem | hmem
    · rw [h.facts moment other hmem hfact]
      have hne : other ≠ receipt := fun heq => hnew moment (heq ▸ hmem)
      simp [hne]
    · obtain ⟨rfl, rfl⟩ : moment = tick ∧ other = receipt := by simpa using hmem
      exact ⟨fun _ => by simp, fun _ => hattended⟩

end Told

end JlensEvolve.Runtime
