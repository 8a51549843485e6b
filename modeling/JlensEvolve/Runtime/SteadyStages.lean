import JlensEvolve.Runtime.ExecutionRuns
import JlensEvolve.Runtime.Settlement

/-!
The stages of a call in surroundings that answer the same whenever they are
asked, against the moves of `stages`. Wherever the process stops in one of
them, a call that starts on the log left there comes to the same outcome.
-/

namespace JlensEvolve.Runtime

open Library Contracts

/-! ## Logs without points in time -/

def blank (receipt : Receipt) : Receipt := { receipt with createdAt := "" }

theorem firstOfKind_map_blank (kind : String) (receipts : List Receipt) :
    firstOfKind kind (receipts.map blank) = (firstOfKind kind receipts).map blank := by
  unfold firstOfKind
  rw [List.find?_map]
  rfl

theorem byKind_map_blank (kind : String) (receipts : List Receipt) :
    byKind kind (receipts.map blank) = (byKind kind receipts).map blank := by
  unfold byKind
  rw [← List.map_reverse, firstOfKind_map_blank]

theorem terminalStatus?_map_blank (receipts : List Receipt) :
    terminalStatus? (receipts.map blank) = terminalStatus? receipts := by
  unfold terminalStatus?
  rw [byKind_map_blank]
  cases byKind "execution_terminal" receipts <;> rfl

theorem blank_runtimeReceipt (plan : ExecutionPlan) (sequence : Int) (kind createdAt : String)
    (payload : Payload) :
    blank (runtimeReceipt plan sequence kind createdAt payload) =
      runtimeReceipt plan sequence kind "" payload := rfl

theorem externalTrace_blank (plan : ExecutionPlan) (modelReceipt : Receipt) :
    externalTrace plan (blank modelReceipt) = externalTrace plan modelReceipt := rfl

theorem internalTrace_blank (plan : ExecutionPlan) (modelReceipt : Receipt) (fields : Payload)
    (file : TraceFile) :
    internalTrace plan (blank modelReceipt) fields file =
      internalTrace plan modelReceipt fields file := rfl

/-- The last receipt is the native fact of an evaluator that failed. -/
def EvaluatorErrorLast (reason : String) (log : List Receipt) : Prop :=
  ∃ last, log.getLast? = some last ∧ last.kind = "native_evaluation" ∧
    payloadGet last.payload "evaluator_error" = .str ("EvaluatorInfrastructureError: " ++ reason)

theorem evaluatorErrorLast_snoc (reason : String) (log : List Receipt) (receipt : Receipt) :
    EvaluatorErrorLast reason (log ++ [receipt]) ↔
      receipt.kind = "native_evaluation" ∧ payloadGet receipt.payload "evaluator_error" =
        .str ("EvaluatorInfrastructureError: " ++ reason) := by
  simp [EvaluatorErrorLast]

theorem evaluatorErrorLast_map_blank (reason : String) (receipts : List Receipt) :
    EvaluatorErrorLast reason (receipts.map blank) ↔ EvaluatorErrorLast reason receipts := by
  unfold EvaluatorErrorLast
  rw [List.getLast?_map]
  cases receipts.getLast? <;> simp [blank]

theorem EvaluatorErrorLast.unique {first second : String} {log : List Receipt}
    (h : EvaluatorErrorLast first log) (hother : EvaluatorErrorLast second log) :
    first = second := by
  obtain ⟨last, hlast, -, hfirst⟩ := h
  obtain ⟨other, hsame, -, hsecond⟩ := hother
  obtain rfl : last = other := Option.some.inj (hlast.symm.trans hsame)
  rw [hfirst, Json.str.injEq] at hsecond
  exact String.append_right_inj _ |>.mp hsecond

/-- The log of the plan, readable, is this one up to points in time. -/
structure Holds (log : List Receipt) (world : World) : Prop where
  receipts : world.receipts.map blank = log
  intact : world.torn = false
  bounded : ∀ receipt ∈ world.receipts, receipt.sequence ≤ world.receipts.length

theorem Holds.congr {log : List Receipt} {world other : World} (h : Holds log world)
    (hreceipts : other.receipts = world.receipts) (htorn : other.torn = world.torn) :
    Holds log other := by
  refine ⟨hreceipts ▸ h.receipts, htorn ▸ h.intact, ?_⟩
  rw [hreceipts]
  exact h.bounded

/-! ## Surroundings that answer the same -/

structure Steady (environment : Environment) (authorization : Authorization) : Prop where
  clock : ∀ tick, ∃ now, environment.clock tick = some now ∧ now < authorization.expiresAt
  materialize : ∀ tick, environment.materialize tick = environment.materialize 0
  infer : ∀ tick, environment.infer tick = environment.infer 0
  evaluate : ∀ tick, environment.evaluate tick = environment.evaluate 0
  traceFile : ∀ tick, environment.traceFile tick = environment.traceFile 0
  listed : ∀ tick, environment.listed tick = true
  sink : ∀ tick, environment.sink tick = .stored
  hub : ∀ tick receipt, ∃ evidence, environment.hub tick receipt = .returned evidence

def Stops (environment : Environment) : Prop := ∃ tick, environment.stopped tick = true

section Append

variable {environment : Environment} {plan : ExecutionPlan} {authorization : Authorization}
  {log : List Receipt} {world : World} {kind : String} {payload : Payload}

theorem any_receiptId (h : Holds log world) (id : String) :
    log.any (fun prior => prior.receiptId = id) =
      (world.receipts.find? (fun item => item.receiptId = id)).isSome := by
  rw [← h.receipts, List.any_map, List.isSome_find?]
  rfl

theorem Holds.length (h : Holds log world) : log.length = world.receipts.length := by
  rw [← h.receipts, List.length_map]

theorem storeAppend_steady (h : Holds log world) {receipt : Receipt}
    (hsequence : receipt.sequence = world.receipts.length + 1) (tick : Nat) :
    Triple (fun other => other = world) (storeAppend .stored tick receipt)
      (fun stored other => stored = receipt ∧ other = world.storing tick receipt ∧
        log.any (fun prior => prior.receiptId = receipt.receiptId) = false)
      (fun raised other => handled raised = false ∧ other = world ∧
        log.any (fun prior => prior.receiptId = receipt.receiptId) = true) := by
  unfold storeAppend
  apply Triple.bind (Q := fun current other => current = world ∧ other = world)
    (Triple.get fun other h => ⟨h, h⟩)
  intro current
  apply Triple.of_forall
  rintro here ⟨rfl, rfl⟩
  rw [h.intact, any_receiptId h]
  apply Triple.bind (Q := fun _ other => other = here) (Triple.raiseIf (fun _ _ h => h) nofun)
  intro _
  cases hprior : here.receipts.find? (fun item => item.receiptId = receipt.receiptId) with
  | some prior =>
    have hle := h.bounded prior (List.mem_of_find?_eq_some hprior)
    have hne : prior.sequence ≠ receipt.sequence := by omega
    have hsame : sameReceipt prior receipt = false := by simp [sameReceipt, hne]
    dsimp only
    rw [hsame]
    exact Triple.throw fun _ hother => ⟨rfl, hother, rfl⟩
  | none =>
    apply Triple.bind (Q := fun _ other => other = here.storing tick receipt)
    · exact Triple.modify fun _ hother => hother ▸ rfl
    · exact fun _ => Triple.pure fun _ hother => ⟨rfl, hother, rfl⟩

theorem Holds.storing (h : Holds log world) {receipt : Receipt}
    (hsequence : receipt.sequence = world.receipts.length + 1) (tick : Nat) :
    Holds (log ++ [blank receipt]) (world.storing tick receipt) where
  receipts := by
    change (world.receipts ++ [receipt]).map blank = _
    rw [List.map_append, h.receipts, List.map_singleton]
  intact := h.intact
  bounded := by
    intro other hmem
    change other ∈ world.receipts ++ [receipt] at hmem
    change other.sequence ≤ (world.receipts ++ [receipt]).length
    rw [List.length_append, List.length_singleton]
    rcases List.mem_append.mp hmem with hmem | hmem
    · have hle := h.bounded other hmem
      omega
    · rw [List.mem_singleton.mp hmem, hsequence]
      omega

def StopsBefore (environment : Environment) (limit : Nat) (world : World) : Prop :=
  environment.stopped world.tick = true ∧ world.tick < limit

theorem StopsBefore.stops {limit : Nat} (h : StopsBefore environment limit world) :
    Stops environment := ⟨_, h.1⟩

theorem append_paced (hsteady : Steady environment authorization) (h : Holds log world)
    (hnext : world.appender.nextSequence = log.length + 1) :
    Triple (fun other => other = world) (append environment plan kind payload)
      (fun receipt other => blank receipt = entry plan log kind payload ∧
        put plan kind payload log = some (log ++ [blank receipt]) ∧
        Holds (log ++ [blank receipt]) other ∧
        other.appender.nextSequence = (log ++ [blank receipt]).length + 1 ∧
        other.tick = world.tick + 2 ∧
        other.history = world.history ++ [.appended (world.tick + 1) receipt])
      (fun raised other => handled raised = false ∧ Holds log other ∧
        (StopsBefore environment (world.tick + 2) other ∧ other.history = world.history ∨
          put plan kind payload log = none)) := by
  unfold append
  apply Triple.bind (Q := fun before other => before = world ∧ other = world)
    (Triple.get fun other h => ⟨h, h⟩)
  intro before
  apply Triple.of_forall
  rintro here ⟨rfl, rfl⟩
  apply Triple.bind
    ((interact_spec environment.clock here).exc fun raised other hraised => by
      obtain ⟨hstopped, rfl, rfl⟩ := hraised
      exact ⟨rfl, h, Or.inl ⟨⟨hstopped, by omega⟩, rfl⟩⟩)
  intro reading
  apply Triple.of_forall
  rintro ticked ⟨-, rfl, rfl⟩
  obtain ⟨now, hnow, -⟩ := hsteady.clock here.tick
  rw [hnow]
  dsimp only
  have hlength : (log.length : Int) + 1 = here.receipts.length + 1 := by rw [h.length]
  have hbuilt (createdAt : String) :
      blank (runtimeReceipt plan here.appender.nextSequence kind createdAt payload) =
        entry plan log kind payload := by
    rw [blank_runtimeReceipt, hnext, entry]
  have hsequence (createdAt : String) :
      (runtimeReceipt plan here.appender.nextSequence kind createdAt payload).sequence =
        here.ticked.receipts.length + 1 := hnext.trans hlength
  have hblank := hbuilt (isoformat now)
  have hnumber := hsequence (isoformat now)
  generalize runtimeReceipt plan here.appender.nextSequence kind (isoformat now) payload = built
    at hblank hnumber ⊢
  have hid : built.receiptId = (entry plan log kind payload).receiptId := by
    rw [← hblank]
    rfl
  apply Triple.bind (Q := fun stored other => stored = built ∧
    put plan kind payload log = some (log ++ [blank built]) ∧
    Holds (log ++ [blank built]) other ∧
    other.appender.nextSequence = here.appender.nextSequence ∧ other.tick = here.tick + 2 ∧
    other.history = here.history ++ [.appended (here.tick + 1) built])
  · unfold sinkAppend
    apply Triple.bind (Q := fun before other => before = here.ticked ∧ other = here.ticked)
      (Triple.get fun other h => ⟨h, h⟩)
    intro before
    apply Triple.of_forall
    rintro current ⟨rfl, rfl⟩
    apply Triple.bind
      ((interact_spec environment.sink here.ticked).exc fun raised other hraised => by
        obtain ⟨hstopped, rfl, rfl⟩ := hraised
        exact ⟨rfl, h.congr rfl rfl, Or.inl ⟨⟨hstopped, Nat.lt_succ_self _⟩, rfl⟩⟩)
    intro answer
    apply Triple.of_forall
    rintro ticked ⟨-, rfl, rfl⟩
    rw [hsteady.sink]
    have hholds : Holds log here.ticked.ticked := h.congr rfl rfl
    apply (storeAppend_steady hholds hnumber here.ticked.tick).conseq (fun _ h => h)
    · rintro stored other ⟨rfl, rfl, hfree⟩
      rw [hid] at hfree
      refine ⟨rfl, ?_, hholds.storing hnumber _, rfl, rfl, rfl⟩
      rw [put, if_neg (by rw [hfree]; decide), hblank]
    · rintro raised other ⟨hraised, rfl, htaken⟩
      rw [hid] at htaken
      refine ⟨hraised, hholds, Or.inr ?_⟩
      rw [put, if_pos htaken]
  · intro stored
    apply Triple.bind (Q := fun _ other => stored = built ∧
      put plan kind payload log = some (log ++ [blank built]) ∧
      Holds (log ++ [blank built]) other ∧
      other.appender.nextSequence = here.appender.nextSequence + 1 ∧
      other.tick = here.tick + 2 ∧
      other.history = here.history ++ [.appended (here.tick + 1) built])
    · apply Triple.modify
      rintro other ⟨hstored, hput, hother, hsame, hticks⟩
      refine ⟨hstored, hput, hother.congr rfl rfl, ?_, hticks⟩
      change other.appender.nextSequence + 1 = _
      rw [hsame]
    · intro _
      apply Triple.pure
      rintro other ⟨rfl, hput, hother, hsame, hticks⟩
      refine ⟨hblank, hput, hother, ?_, hticks⟩
      rw [hsame, hnext, List.length_append, List.length_singleton]
      push_cast
      rfl

theorem append_steady (hsteady : Steady environment authorization) (h : Holds log world)
    (hnext : world.appender.nextSequence = log.length + 1) :
    Triple (fun other => other = world) (append environment plan kind payload)
      (fun receipt other => blank receipt = entry plan log kind payload ∧
        put plan kind payload log = some (log ++ [blank receipt]) ∧
        Holds (log ++ [blank receipt]) other ∧
        other.appender.nextSequence = (log ++ [blank receipt]).length + 1)
      (fun raised other => handled raised = false ∧ Holds log other ∧
        (Stops environment ∨ put plan kind payload log = none)) := by
  apply (append_paced hsteady h hnext).conseq (fun _ heq => heq)
  · rintro receipt other ⟨hblank, hput, hholds, hsequence, -⟩
    exact ⟨hblank, hput, hholds, hsequence⟩
  · rintro raised other ⟨hraised, hholds, hend⟩
    exact ⟨hraised, hholds, hend.imp_left fun hstopped => hstopped.1.stops⟩

/-- What a call that ended without a named exception leaves of a log: the log
itself if the process stopped or nothing may follow, or the log with its next
receipt, behind which the process stopped. -/
def Leaves (environment : Environment) (log : List Receipt) (next : Option (List Receipt))
    (world : World) : Prop :=
  (Holds log world ∧ (Stops environment ∨ next = none)) ∨
    (Stops environment ∧ ∃ longer, next = some longer ∧ Holds longer world)

theorem appendFact_paced (hsteady : Steady environment authorization) (h : Holds log world)
    (hnext : world.appender.nextSequence = log.length + 1) :
    Triple (fun other => other = world) (appendFact environment plan kind payload)
      (fun receipt other => blank receipt = entry plan log kind payload ∧
        put plan kind payload log = some (log ++ [blank receipt]) ∧
        Holds (log ++ [blank receipt]) other ∧
        other.appender.nextSequence = (log ++ [blank receipt]).length + 1 ∧
        other.tick = world.tick + 3 ∧ other.history =
          world.history ++ [.appended (world.tick + 1) receipt, .observed receipt] ∧
        environment.stopped (world.tick + 2) = false)
      (fun raised other => handled raised = false ∧
        ((Holds log other ∧ (StopsBefore environment (world.tick + 2) other ∧
            other.history = world.history ∨ put plan kind payload log = none)) ∨
          StopsBefore environment (world.tick + 3) other ∧ ∃ receipt,
            put plan kind payload log = some (log ++ [blank receipt]) ∧
            Holds (log ++ [blank receipt]) other ∧
            other.history = world.history ++ [.appended (world.tick + 1) receipt])) := by
  unfold appendFact
  apply Triple.bind ((append_paced hsteady h hnext).exc fun raised other hraised =>
    ⟨hraised.1, Or.inl hraised.2⟩)
  intro receipt
  apply Triple.of_forall
  rintro here ⟨hblank, hput, hholds, hsequence, htick, hhistory⟩
  have hpaced : here.tick + 1 = world.tick + 3 ∧
      here.history ++ [.observed receipt] =
        world.history ++ [.appended (world.tick + 1) receipt, .observed receipt] := by
    rw [htick, hhistory, List.append_assoc]
    exact ⟨rfl, rfl⟩
  apply Triple.bind (Q := fun _ other => Holds (log ++ [blank receipt]) other ∧
    other.appender.nextSequence = here.appender.nextSequence ∧ other.tick = here.tick + 1 ∧
    other.history = here.history ++ [.observed receipt] ∧
    environment.stopped (world.tick + 2) = false)
  · unfold hubObserve
    apply Triple.bind
      ((interact_spec (fun tick => environment.hub tick receipt) here).exc
        fun raised other hraised => by
          obtain ⟨hstopped, rfl, rfl⟩ := hraised
          exact ⟨rfl, Or.inr ⟨⟨hstopped, by omega⟩, receipt, hput, hholds, hhistory⟩⟩)
    intro answer
    apply Triple.of_forall
    rintro ticked ⟨hgo, rfl, rfl⟩
    rw [htick] at hgo
    obtain ⟨evidence, hreturned⟩ := hsteady.hub here.tick receipt
    rw [hreturned]
    apply Triple.bind (Q := fun _ other => other = here.ticked.noting (.observed receipt))
    · exact Triple.modify fun _ hother => hother ▸ rfl
    · intro _
      apply Triple.pure
      rintro other rfl
      exact ⟨hholds.congr rfl rfl, rfl, rfl, rfl, hgo⟩
  · intro evidence
    apply Triple.bind (Q := fun _ other => Holds (log ++ [blank receipt]) other ∧
      other.appender.nextSequence = here.appender.nextSequence ∧ other.tick = here.tick + 1 ∧
      other.history = here.history ++ [.observed receipt] ∧
      environment.stopped (world.tick + 2) = false)
    · apply Triple.modify
      rintro other ⟨hother, hsame, hticks⟩
      exact ⟨hother.congr rfl rfl, hsame, hticks⟩
    · intro _
      apply Triple.pure
      rintro other ⟨hother, hsame, hticks, htold, hgo⟩
      exact ⟨hblank, hput, hother, hsame.trans hsequence, hticks.trans hpaced.1,
        htold.trans hpaced.2, hgo⟩

theorem appendFact_steady (hsteady : Steady environment authorization) (h : Holds log world)
    (hnext : world.appender.nextSequence = log.length + 1) :
    Triple (fun other => other = world) (appendFact environment plan kind payload)
      (fun receipt other => blank receipt = entry plan log kind payload ∧
        put plan kind payload log = some (log ++ [blank receipt]) ∧
        Holds (log ++ [blank receipt]) other ∧
        other.appender.nextSequence = (log ++ [blank receipt]).length + 1)
      (fun raised other => handled raised = false ∧
        Leaves environment log (put plan kind payload log) other) := by
  apply (appendFact_paced hsteady h hnext).conseq (fun _ heq => heq)
  · rintro receipt other ⟨hblank, hput, hholds, hsequence, -⟩
    exact ⟨hblank, hput, hholds, hsequence⟩
  · rintro raised other ⟨hraised, hleaves⟩
    refine ⟨hraised, ?_⟩
    rcases hleaves with ⟨hholds, hend⟩ | ⟨hstopped, receipt, hput, hholds, -⟩
    · exact Or.inl ⟨hholds, hend.imp_left fun hstopped => hstopped.1.stops⟩
    · exact Or.inr ⟨hstopped.stops, _, hput, hholds⟩

end Append

/-- What the stages of a call and the log they began on have in common. -/
structure Course where
  environment : Environment
  plan : ExecutionPlan
  prediction : Option MechanismPrediction
  existing : List Receipt
  /-- The log the call began on. -/
  origin : List Receipt
  /-- The terminal status it comes to. -/
  outcome : Option String

def Course.stages (course : Course) : List (List Receipt → Option (List Receipt)) :=
  Runtime.stages course.environment course.plan course.prediction

/-- The first stages are settled in a log that no terminal receipt ends, and a
call that starts on it comes to the outcome. -/
structure Reached (course : Course) (settled : Nat) (log : List Receipt) : Prop where
  running : byKind "execution_terminal" log = none
  fits : checkPrediction log course.prediction = .ok ()
  quiet : ∀ reason, EvaluatorErrorLast reason log → EvaluatorErrorLast reason course.origin
  settled : Settled (course.stages.take settled) log
  outcome : (runStages course.stages log).bind (settleEnd course.environment course.plan) =
    course.outcome

/-- The call has come to this log: the kinds of the stages to come are in it
only as the call found them, and the receipts the call works with are in it. -/
structure Standing (course : Course) (settled : Nat) (pending : List String)
    (known log : List Receipt) (world : World) : Prop where
  reached : Reached course settled log
  holds : Holds log world
  next : world.appender.nextSequence = log.length + 1
  found : ∀ kind ∈ pending, (byKind kind course.existing).map blank = byKind kind log
  known : ∀ receipt ∈ known, byKind receipt.kind log = some receipt

/-- The terminal receipt of a failed evaluator is still to come. -/
def Unfinished (course : Course) (log : List Receipt) : Prop :=
  ∃ reason, EvaluatorErrorLast reason log ∧
    verdict course.environment course.plan course.prediction log =
      finish course.plan "completed" [] log ∧
    course.outcome = finish course.plan "infra_failure" [("reason", .str reason)] log

/-- Where a call ends, or its process stops: a call that starts there comes to
the same outcome, or a failed evaluator's terminal receipt is missing. -/
structure Comes (course : Course) (world : World) : Prop where
  ends : ∃ log, Holds log world ∧ checkPrediction log course.prediction = .ok () ∧
    (verdict course.environment course.plan course.prediction log = course.outcome ∧
        (∀ reason, EvaluatorErrorLast reason log → EvaluatorErrorLast reason course.origin) ∨
      Unfinished course log) ∧
    (Stops course.environment ∨ terminalStatus? log = course.outcome)

section Standing

variable {course : Course} {settled : Nat} {kind : String} {pending : List String}
  {known log : List Receipt} {world other : World}

theorem checkPrediction_snoc {receipt : Receipt} (h : receipt.kind ≠ "mechanism_prediction")
    (prediction : Option MechanismPrediction) :
    checkPrediction (log ++ [receipt]) prediction = checkPrediction log prediction := by
  have hfirst : firstOfKind "mechanism_prediction" (log ++ [receipt]) =
      firstOfKind "mechanism_prediction" log := by
    unfold firstOfKind
    simp [h]
  unfold checkPrediction
  rw [hfirst]

theorem checkPrediction_frozen {prediction : MechanismPrediction}
    (h : checkPrediction log (some prediction) = .ok ()) :
    checkPrediction
      (log ++ [entry course.plan log "mechanism_prediction" prediction.asPayload])
      (some prediction) = .ok () := by
  unfold checkPrediction firstOfKind at *
  rw [List.find?_append]
  cases hfound : log.find? (fun receipt => receipt.kind = "mechanism_prediction") with
  | some receipt =>
    rw [hfound] at h
    exact h
  | none => simp [require]

theorem verdict_of_running (course : Course) (h : byKind "execution_terminal" log = none) :
    verdict course.environment course.plan course.prediction log =
      (runStages course.stages log).bind (settleEnd course.environment course.plan) := by
  unfold verdict
  rw [h]
  rfl

theorem terminalStatus?_of_running (h : byKind "execution_terminal" log = none) :
    terminalStatus? log = none := by
  unfold terminalStatus?
  rw [h]
  rfl

theorem Reached.verdict (h : Reached course settled log) :
    verdict course.environment course.plan course.prediction log = course.outcome :=
  (verdict_of_running course h.running).trans h.outcome

theorem Reached.comes (h : Reached course settled log) (hholds : Holds log world)
    (hend : Stops course.environment ∨ course.outcome = none) : Comes course world := by
  refine ⟨log, hholds, h.fits, Or.inl ⟨h.verdict, h.quiet⟩, ?_⟩
  apply hend.imp_right
  intro hnone
  rw [terminalStatus?_of_running h.running, hnone]

/-! ### A stage -/

theorem take_succ_of_drop {α : Type} {items rest : List α} {n : Nat} {item : α}
    (h : items.drop n = item :: rest) : items.take (n + 1) = items.take n ++ [item] := by
  rw [List.take_add, h]
  rfl

theorem eq_of_drop {α : Type} {items rest : List α} {n : Nat} {item : α}
    (h : items.drop n = item :: rest) : items = items.take n ++ item :: rest := by
  rw [← h, List.take_append_drop]

/-- What a stage may append. -/
structure Fact (course : Course) (kind : String) (pending : List String) (payload : Payload) :
    Prop where
  fact : kind ∈ factKinds
  notNative : kind ≠ "native_evaluation"
  fresh : kind ∉ pending
  frozen : kind = "mechanism_prediction" →
    ∃ prediction, course.prediction = some prediction ∧ payload = prediction.asPayload

section Stage

variable {move : List Receipt → Move} {later : List (List Receipt → Option (List Receipt))}
  {payload : Payload}

theorem Reached.keep (h : Reached course settled log)
    (hstage : course.stages.drop settled = settle course.plan kind move :: later)
    (hmove : move log = .keep) : Reached course (settled + 1) log where
  running := h.running
  fits := h.fits
  quiet := h.quiet
  settled := by
    rw [take_succ_of_drop hstage]
    exact h.settled.snoc ((settle_eq_self_iff kind move).mpr hmove)
  outcome := h.outcome

theorem Reached.append (h : Reached course settled log)
    (hstage : course.stages.drop settled = settle course.plan kind move :: later)
    (hmove : move log = .append payload) (hfact : Fact course kind pending payload)
    (hput : put course.plan kind payload log =
      some (log ++ [entry course.plan log kind payload])) :
    Reached course (settled + 1) (log ++ [entry course.plan log kind payload]) := by
  have hresumable : Resumable (course.stages.take settled ++
      settle course.plan kind move :: later) := by
    rw [← eq_of_drop hstage]
    exact stages_resumable
  have hsettle : settle course.plan kind move log =
      some (log ++ [entry course.plan log kind payload]) := by
    rw [settle, hmove]
    exact hput
  refine ⟨?_, ?_, ?_, ?_, ?_⟩
  · rw [byKind_snoc_of_ne, h.running]
    rw [entry_kind]
    rintro rfl
    exact absurd hfact.fact (by decide)
  · by_cases hkind : kind = "mechanism_prediction"
    · obtain ⟨prediction, hprediction, rfl⟩ := hfact.frozen hkind
      have hfits := h.fits
      subst hkind
      rw [hprediction] at hfits ⊢
      exact checkPrediction_frozen hfits
    · rw [checkPrediction_snoc hkind]
      exact h.fits
  · intro reason
    rw [evaluatorErrorLast_snoc]
    exact fun hlast => absurd hlast.1 hfact.notNative
  · rw [take_succ_of_drop hstage]
    exact hresumable.settled h.settled hsettle
  · rw [← h.outcome, eq_of_drop hstage, hresumable.resume h.settled hsettle]

theorem Reached.outcome_of_refused (h : Reached course settled log)
    (hstage : course.stages.drop settled = settle course.plan kind move :: later)
    (hrefused : settle course.plan kind move log = none) : course.outcome = none := by
  rw [← h.outcome, eq_of_drop hstage, runStages_of_refused h.settled hrefused]
  rfl

theorem Standing.keep (h : Standing course settled (kind :: pending) known log world)
    (hstage : course.stages.drop settled = settle course.plan kind move :: later)
    (hmove : move log = .keep) : Standing course (settled + 1) pending known log world :=
  ⟨h.reached.keep hstage hmove, h.holds, h.next,
    fun other hother => h.found other (List.mem_cons_of_mem _ hother), h.known⟩

theorem Standing.appendFact {authorization : Authorization}
    (hsteady : Steady course.environment authorization)
    (h : Standing course settled (kind :: pending) known log world)
    (hstage : course.stages.drop settled = settle course.plan kind move :: later)
    (hmove : move log = .append payload) (hfact : Fact course kind pending payload)
    (hknown : ∀ receipt ∈ known, receipt.kind ≠ kind) :
    Triple (fun other => other = world)
      (Runtime.appendFact course.environment course.plan kind payload)
      (fun receipt other => (blank receipt).kind = kind ∧
        Standing course (settled + 1) pending (blank receipt :: known) (log ++ [blank receipt])
          other)
      (fun raised other => handled raised = false ∧ Comes course other) := by
  apply (appendFact_steady hsteady h.holds h.next).conseq (fun _ heq => heq)
  · rintro receipt other ⟨hblank, hput, hholds, hnext⟩
    rw [hblank] at hput hholds hnext ⊢
    refine ⟨rfl, h.reached.append hstage hmove hfact hput, hholds, hnext, ?_, ?_⟩
    · intro later hlater
      rw [byKind_snoc_of_ne, h.found later (List.mem_cons_of_mem _ hlater)]
      rw [entry_kind]
      rintro rfl
      exact hfact.fresh hlater
    · intro held hheld
      rcases List.mem_cons.mp hheld with rfl | hheld
      · exact byKind_snoc_self _ _
      · rw [byKind_snoc_of_ne (by simpa using (hknown held hheld).symm), h.known held hheld]
  · rintro raised other ⟨hraised, hleaves⟩
    refine ⟨hraised, ?_⟩
    rcases hleaves with ⟨hholds, hend⟩ | ⟨hstops, longer, hput, hholds⟩
    · apply h.reached.comes hholds
      apply hend.imp_right
      intro hnone
      apply h.reached.outcome_of_refused hstage
      rw [settle, hmove]
      exact hnone
    · obtain rfl := put_eq_some hput
      exact (h.reached.append hstage hmove hfact hput).comes hholds (Or.inl hstops)

end Stage

theorem Standing.ticked (h : Standing course settled pending known log world) :
    Standing course settled pending known log world.ticked :=
  ⟨h.reached, h.holds.congr rfl rfl, h.next, h.found, h.known⟩

theorem Standing.noting (h : Standing course settled pending known log world)
    (happening : Happening) :
    Standing course settled pending known log (world.noting happening) :=
  ⟨h.reached, h.holds.congr rfl rfl, h.next, h.found, h.known⟩

theorem Standing.interact (h : Standing course settled pending known log world) {α : Type}
    (answer : Nat → α) :
    Triple (fun other => other = world) (Runtime.interact course.environment answer)
      (fun value other => value = answer world.tick ∧ other = world.ticked)
      (fun raised other => handled raised = false ∧ Comes course other) := by
  apply (interact_spec answer world).conseq (fun _ heq => heq)
  · exact fun value other hother => hother.2
  · rintro raised other ⟨hstopped, rfl, rfl⟩
    exact ⟨rfl, h.reached.comes h.holds (Or.inl ⟨_, hstopped⟩)⟩

/-- A stage that an adapter's exception ended, which an `except` clause may
name. -/
structure Refused (course : Course) (raised : Raised) (log : List Receipt) (world : World) :
    Prop where
  reached : ∃ settled, Reached course settled log
  holds : Holds log world
  next : world.appender.nextSequence = log.length + 1
  outcome : course.outcome = none
  again : ∀ receipt, receipt.kind = "execution_partial" →
    verdict course.environment course.plan course.prediction (log ++ [receipt]) = none
  model : ∀ reason, raised = .evaluatorInfrastructure reason →
    byKind "model" course.existing = none

def Halts (course : Course) (raised : Raised) (world : World) : Prop :=
  handled raised = false ∧ Comes course world ∨ ∃ log, Refused course raised log world

theorem Standing.refused {move : List Receipt → Move}
    {later : List (List Receipt → Option (List Receipt))}
    (h : Standing course settled pending known log world)
    (hstage : course.stages.drop settled = settle course.plan kind move :: later)
    (hmove : move log = .refuse)
    (hagain : ∀ receipt, receipt.kind = "execution_partial" → move (log ++ [receipt]) = move log)
    {raised : Raised} (hmodel : ∀ reason, raised = .evaluatorInfrastructure reason →
      byKind "model" course.existing = none) : Refused course raised log world := by
  have hrefused {log : List Receipt} (hlog : move log = .refuse) :
      settle course.plan kind move log = none := by
    rw [settle, hlog]
  refine ⟨⟨settled, h.reached⟩, h.holds, h.next,
    h.reached.outcome_of_refused hstage (hrefused hmove), ?_, hmodel⟩
  intro receipt hinterrupted
  have hrunning : byKind "execution_terminal" (log ++ [receipt]) = none := by
    rw [byKind_snoc_of_ne (by rw [hinterrupted]; decide), h.reached.running]
  have hsettled : Settled (course.stages.take settled) (log ++ [receipt]) := fun stage hmem =>
    stages_snoc (by rw [hinterrupted]; decide) (List.mem_of_mem_take hmem)
      (h.reached.settled stage hmem)
  rw [verdict_of_running course hrunning, eq_of_drop hstage,
    runStages_of_refused hsettled (hrefused ((hagain receipt hinterrupted).trans hmove))]
  rfl

theorem Standing.byKind_none (h : Standing course settled (kind :: pending) known log world)
    (hnone : byKind kind course.existing = none) : byKind kind log = none := by
  rw [← h.found kind List.mem_cons_self, hnone]
  rfl

theorem Standing.byKind_some (h : Standing course settled (kind :: pending) known log world)
    {receipt : Receipt} (hsome : byKind kind course.existing = some receipt) :
    byKind kind log = some (blank receipt) := by
  rw [← h.found kind List.mem_cons_self, hsome]
  rfl

theorem byKind_kind {receipt : Receipt} (h : byKind kind log = some receipt) :
    receipt.kind = kind := by
  simpa using List.find?_some h

theorem Standing.forget {receipt : Receipt}
    (h : Standing course settled pending (receipt :: known) log world) :
    Standing course settled pending known log world :=
  ⟨h.reached, h.holds, h.next, h.found, fun held hheld =>
    h.known held (List.mem_cons_of_mem _ hheld)⟩

theorem Standing.learn (h : Standing course settled pending known log world) {receipt : Receipt}
    (hfound : byKind kind log = some receipt) :
    Standing course settled pending (receipt :: known) log world := by
  refine ⟨h.reached, h.holds, h.next, h.found, ?_⟩
  intro held hheld
  rcases List.mem_cons.mp hheld with rfl | hheld
  · rw [byKind_kind hfound]
    exact hfound
  · exact h.known held hheld

theorem not_of_require_error {condition : Prop} [Decidable condition] {ε : Type} {error raised : ε}
    (h : require condition error = .error raised) : ¬ condition := by
  intro hcondition
  rw [(require_ok_iff condition error ()).mpr hcondition] at h
  cases h

theorem contract_rule {α : Type} {checked : Except String α} {P : World → Prop}
    {Q : α → World → Prop} {E : Raised → World → Prop}
    (hok : ∀ value world, checked = .ok value → P world → Q value world)
    (herror : ∀ message world, checked = .error message → P world →
      E (.contractViolation message) world) : Triple P (contract checked) Q E := by
  cases checked with
  | ok value => exact Triple.pure fun world h => hok value world rfl h
  | error message => exact Triple.throw fun world h => herror message world rfl h

theorem Standing.comes_of_refuse {move : List Receipt → Move}
    {later : List (List Receipt → Option (List Receipt))}
    (h : Standing course settled pending known log world)
    (hstage : course.stages.drop settled = settle course.plan kind move :: later)
    (hmove : move log = .refuse) : Comes course world := by
  apply h.reached.comes h.holds
  apply Or.inr
  apply h.reached.outcome_of_refused hstage
  rw [settle, hmove]

/-! ### The stages before a model receipt is at hand -/

section Dispatch

variable {authorization : Authorization}

theorem workspaceStage_steady (hsteady : Steady course.environment authorization)
    (hmodel : byKind "workspace" course.existing = none → byKind "model" course.existing = none) :
    Triple (fun world => ∃ log, Standing course 0 factKinds [] log world)
      (workspaceStage course.environment course.plan course.existing)
      (fun payload world => ∃ log receipt, receipt.kind = "workspace" ∧
        receipt.payload = payload ∧ Standing course 1 (factKinds.drop 1) [receipt] log world)
      (Halts course) := by
  apply Triple.of_forall
  rintro world ⟨log, h⟩
  unfold workspaceStage
  cases hexisting : byKind "workspace" course.existing with
  | none =>
    have hnone := h.byKind_none hexisting
    have hmove : workspaceMove course.environment course.plan log =
        .ofAnswer ((course.environment.materialize 0 course.plan).map
          (workspacePayload course.plan)) := by
      rw [workspaceMove, hnone]
    apply Triple.bind (Q := fun materialized other =>
      course.environment.materialize 0 course.plan = .ok materialized ∧ other = world.ticked)
    · unfold materialize
      apply Triple.bind ((h.interact _).exc fun _ _ hraised => Or.inl hraised)
      intro answer
      apply Triple.of_forall
      rintro other ⟨rfl, rfl⟩
      rw [hsteady.materialize]
      apply Triple.check
      · exact fun materialized other hanswer hother => ⟨hanswer, hother⟩
      · rintro raised other hanswer rfl
        refine Or.inr ⟨log, h.ticked.refused rfl ?_ ?_ fun _ _ => hmodel hexisting⟩
        · rw [hmove, hanswer]
          rfl
        · exact fun receipt hinterrupted => workspaceMove_snoc (by rw [hinterrupted]; decide)
    · intro materialized
      apply Triple.of_forall
      rintro other ⟨hanswer, rfl⟩
      rw [hanswer] at hmove
      apply Triple.bind ((h.ticked.appendFact hsteady rfl hmove
        ⟨by decide, by decide, by decide, fun heq => absurd heq (by decide)⟩ nofun).exc
          fun _ _ hraised => Or.inl hraised)
      intro receipt
      apply Triple.pure
      rintro final ⟨hkind, hfinal⟩
      exact ⟨_, blank receipt, hkind, rfl, hfinal⟩
  | some receipt =>
    have hsome := h.byKind_some hexisting
    apply Triple.bind (Q := fun _ other => namesPlan course.plan receipt ∧ other = world)
    · apply contract_rule
      · exact fun _ other hnames hother => ⟨(require_ok_iff _ _ _).mp hnames, hother⟩
      · rintro message other hrefused rfl
        refine Or.inl ⟨rfl, h.comes_of_refuse rfl ?_⟩
        rw [workspaceMove, hsome]
        exact if_neg (not_of_require_error hrefused)
    · intro _
      apply Triple.pure
      rintro other ⟨hnames, rfl⟩
      have hmove : workspaceMove course.environment course.plan log = .keep := by
        rw [workspaceMove, hsome]
        exact if_pos hnames
      exact ⟨log, blank receipt, byKind_kind hsome, rfl, (h.keep rfl hmove).learn hsome⟩

theorem predictionStage_steady (hsteady : Steady course.environment authorization)
    {workspace : Receipt} (hworkspace : workspace.kind = "workspace") :
    Triple (fun world => ∃ log, Standing course 1 (factKinds.drop 1) [workspace] log world)
      (predictionStage course.environment course.plan course.existing course.prediction)
      (fun _ world => ∃ log, Standing course 2 (factKinds.drop 2) [workspace] log world)
      (Halts course) := by
  apply Triple.of_forall
  rintro world ⟨log, h⟩
  have hmodel : (byKind "model" course.existing).map blank = byKind "model" log :=
    h.found "model" (by decide)
  unfold predictionStage
  cases hprediction : course.prediction with
  | none =>
    apply Triple.pure
    rintro other rfl
    exact ⟨log, h.keep rfl (predictionMove_eq_keep_iff.mpr (Or.inl hprediction))⟩
  | some prediction =>
    cases hexisting : byKind "mechanism_prediction" course.existing with
    | some receipt =>
      apply Triple.pure
      rintro other rfl
      refine ⟨log, h.keep rfl (predictionMove_eq_keep_iff.mpr (Or.inr ?_))⟩
      rw [h.byKind_some hexisting]
      exact nofun
    | none =>
      have hmove : predictionMove course.prediction log =
          if byKind "model" log = none then .append prediction.asPayload else .refuse := by
        unfold predictionMove
        rw [hprediction, h.byKind_none hexisting]
      apply Triple.bind (Q := fun _ other => byKind "model" log = none ∧ other = world)
      · apply contract_rule
        · intro _ other hok hother
          have hnone := (require_ok_iff _ _ _).mp hok
          rw [Option.isNone_iff_eq_none] at hnone
          exact ⟨by rw [← hmodel, hnone]; rfl, hother⟩
        · rintro message other hrefused rfl
          refine Or.inl ⟨rfl, h.comes_of_refuse rfl ?_⟩
          have hnot : byKind "model" log ≠ none := by
            intro hnone
            rw [← hmodel, Option.map_eq_none_iff] at hnone
            rw [hnone] at hrefused
            cases hrefused
          rw [hmove, if_neg hnot]
      · intro _
        apply Triple.of_forall
        rintro other ⟨hnone, rfl⟩
        rw [if_pos hnone] at hmove
        have hfact : Fact course "mechanism_prediction" (factKinds.drop 2)
            prediction.asPayload :=
          ⟨by decide, by decide, by decide, fun _ => ⟨prediction, hprediction, rfl⟩⟩
        have hknown : ∀ receipt ∈ [workspace], receipt.kind ≠ "mechanism_prediction" := by
          intro receipt hmem
          rw [List.mem_singleton.mp hmem, hworkspace]
          decide
        apply Triple.bind ((h.appendFact hsteady rfl hmove hfact hknown).exc
          fun _ _ hraised => Or.inl hraised)
        intro receipt
        apply Triple.pure
        rintro final ⟨-, hfinal⟩
        exact ⟨_, hfinal.forget⟩

theorem modelStage_steady (hsteady : Steady course.environment authorization)
    {workspace : Receipt} (hworkspace : workspace.kind = "workspace") :
    Triple (fun world => ∃ log, Standing course 2 (factKinds.drop 2) [workspace] log world)
      (modelStage course.environment course.plan course.existing workspace.payload)
      (fun modelReceipt world => (blank modelReceipt).kind = "model" ∧
        ∃ log, Standing course 3 (factKinds.drop 3) [blank modelReceipt, workspace] log world)
      (Halts course) := by
  apply Triple.of_forall
  rintro world ⟨log, h⟩
  have hfound : byKind "workspace" log = some workspace := by
    rw [← hworkspace]
    exact h.known workspace (List.mem_singleton_self _)
  unfold modelStage
  cases hexisting : byKind "model" course.existing with
  | none =>
    have hmove : modelMove course.environment course.plan log =
        .ofAnswer ((course.environment.infer 0 course.plan workspace.payload).map
          (modelPayload course.plan)) := by
      rw [modelMove, h.byKind_none hexisting, hfound]
    apply Triple.bind (Q := fun answer other =>
      course.environment.infer 0 course.plan workspace.payload = .ok answer ∧
        other = world.ticked.noting .inferred)
    · unfold infer
      apply Triple.bind ((h.interact _).exc fun _ _ hraised => Or.inl hraised)
      intro answer
      apply Triple.of_forall
      rintro other ⟨rfl, rfl⟩
      rw [hsteady.infer]
      apply Triple.bind (Q := fun _ other => other = world.ticked.noting .inferred)
      · exact Triple.modify fun _ hother => hother ▸ rfl
      · intro _
        apply Triple.check
        · exact fun answer other hanswer hother => ⟨hanswer, hother⟩
        · rintro raised other hanswer rfl
          refine Or.inr ⟨log, (h.ticked.noting _).refused rfl ?_ ?_ fun _ _ => hexisting⟩
          · rw [hmove, hanswer]
            rfl
          · exact fun receipt hinterrupted => modelMove_snoc (by rw [hinterrupted]; decide)
              (by rw [hinterrupted]; decide)
    · intro answer
      apply Triple.of_forall
      rintro other ⟨hanswer, rfl⟩
      rw [hanswer] at hmove
      have hknown : ∀ receipt ∈ [workspace], receipt.kind ≠ "model" := by
        intro receipt hmem
        rw [List.mem_singleton.mp hmem, hworkspace]
        decide
      apply ((h.ticked.noting _).appendFact hsteady rfl hmove
        ⟨by decide, by decide, by decide, fun heq => absurd heq (by decide)⟩ hknown).conseq
          (fun _ heq => heq)
      · exact fun receipt other hother => ⟨hother.1, _, hother.2⟩
      · exact fun _ _ hraised => Or.inl hraised
  | some receipt =>
    have hsome := h.byKind_some hexisting
    apply Triple.pure
    rintro other rfl
    have hmove : modelMove course.environment course.plan log = .keep := by
      rw [modelMove, hsome]
    exact ⟨byKind_kind hsome, log, (h.keep rfl hmove).learn hsome⟩

end Dispatch

/-! ### The stages that need a model receipt -/

section Conclude

variable {authorization : Authorization} {workspace modelReceipt : Receipt}

theorem kinds_ne (hworkspace : workspace.kind = "workspace")
    (hmodel : (blank modelReceipt).kind = "model") (hnotWorkspace : kind ≠ "workspace")
    (hnotModel : kind ≠ "model") :
    ∀ receipt ∈ [blank modelReceipt, workspace], receipt.kind ≠ kind := by
  intro receipt hmem
  rcases List.mem_cons.mp hmem with rfl | hmem
  · rw [hmodel]
    exact hnotModel.symm
  · rw [List.mem_singleton.mp hmem, hworkspace]
    exact hnotWorkspace.symm

theorem Standing.byKind_model (hmodel : (blank modelReceipt).kind = "model")
    (h : Standing course settled pending (blank modelReceipt :: known) log world) :
    byKind "model" log = some (blank modelReceipt) := by
  rw [← hmodel]
  exact h.known _ List.mem_cons_self

theorem traceStage_steady (hsteady : Steady course.environment authorization)
    (hworkspace : workspace.kind = "workspace") (hmodel : (blank modelReceipt).kind = "model") :
    Triple
      (fun world => ∃ log,
        Standing course 3 (factKinds.drop 3) [blank modelReceipt, workspace] log world)
      (traceStage course.environment course.plan course.existing modelReceipt)
      (fun _ world => ∃ log,
        Standing course 4 (factKinds.drop 4) [blank modelReceipt, workspace] log world)
      (fun raised world => handled raised = false ∧ Comes course world) := by
  apply Triple.of_forall
  rintro world ⟨log, h⟩
  have hfound := h.byKind_model hmodel
  unfold traceStage
  cases hexisting : byKind "external_trace" course.existing with
  | none =>
    have hmove : traceMove course.plan log =
        .ofAnswer (externalTrace course.plan modelReceipt) := by
      rw [traceMove, hfound, h.byKind_none hexisting]
      exact congrArg Move.ofAnswer (externalTrace_blank _ _)
    apply Triple.bind (Q := fun payload other =>
      externalTrace course.plan modelReceipt = .ok payload ∧ other = world)
    · apply contract_rule
      · exact fun payload other hpayload hother => ⟨hpayload, hother⟩
      · rintro message other hrefused rfl
        refine ⟨rfl, h.comes_of_refuse rfl ?_⟩
        rw [hmove, hrefused]
        rfl
    · intro payload
      apply Triple.of_forall
      rintro other ⟨hpayload, rfl⟩
      rw [hpayload] at hmove
      apply Triple.bind (h.appendFact hsteady rfl hmove
        ⟨by decide, by decide, by decide, fun heq => absurd heq (by decide)⟩
        (kinds_ne hworkspace hmodel (by decide) (by decide)))
      intro receipt
      apply Triple.pure
      rintro final ⟨-, hfinal⟩
      exact ⟨_, hfinal.forget⟩
  | some trace =>
    have hsome := h.byKind_some hexisting
    apply contract_rule
    · rintro _ other hok rfl
      refine ⟨log, h.keep rfl ?_⟩
      rw [traceMove, hfound, hsome]
      exact if_pos ((require_ok_iff _ _ _).mp hok)
    · rintro message other hrefused rfl
      refine ⟨rfl, h.comes_of_refuse rfl ?_⟩
      rw [traceMove, hfound, hsome]
      exact if_neg (not_of_require_error hrefused)

theorem internalPayload_of_path {environment : Environment} {plan : ExecutionPlan} {trace : Json}
    {path : Payload × String} (h : internalTracePath trace = .ok path) :
    internalPayload environment plan modelReceipt trace =
      internalTrace plan modelReceipt path.1 (environment.traceFile 0 path.2) := by
  unfold internalPayload
  rw [h]
  rfl

theorem internalStage_steady (hsteady : Steady course.environment authorization)
    (hworkspace : workspace.kind = "workspace") (hmodel : (blank modelReceipt).kind = "model") :
    Triple
      (fun world => ∃ log,
        Standing course 4 (factKinds.drop 4) [blank modelReceipt, workspace] log world)
      (internalStage course.environment course.plan course.existing modelReceipt)
      (fun _ world => ∃ log,
        Standing course 5 (factKinds.drop 5) [blank modelReceipt, workspace] log world)
      (fun raised world => handled raised = false ∧ Comes course world) := by
  apply Triple.of_forall
  rintro world ⟨log, h⟩
  have hfound := h.byKind_model hmodel
  unfold internalStage
  split
  next hexisting hnull =>
    apply Triple.pure
    rintro other rfl
    refine ⟨log, h.keep rfl ?_⟩
    rw [internalMove, hfound]
    dsimp only
    rw [h.byKind_none hexisting, show payloadGet (blank modelReceipt).payload _ = _ from hnull]
  next hexisting hannounced =>
    have hmove : internalMove course.environment course.plan log =
        .ofAnswer (internalPayload course.environment course.plan (blank modelReceipt)
          (payloadGet modelReceipt.payload "internal_trace")) := by
      rw [internalMove_of_announced hfound hannounced, if_pos (h.byKind_none hexisting)]
      rfl
    apply Triple.bind (Q := fun path other =>
      internalTracePath (payloadGet modelReceipt.payload "internal_trace") = .ok path ∧
        other = world)
    · apply contract_rule
      · exact fun path other hpath hother => ⟨hpath, hother⟩
      · rintro message other hrefused rfl
        refine ⟨rfl, h.comes_of_refuse rfl ?_⟩
        rw [hmove, internalPayload, hrefused]
        rfl
    · intro path
      apply Triple.of_forall
      rintro other ⟨hpath, rfl⟩
      rw [internalPayload_of_path hpath, internalTrace_blank] at hmove
      apply Triple.bind (h.interact _)
      intro file
      apply Triple.of_forall
      rintro ticked ⟨rfl, rfl⟩
      rw [hsteady.traceFile]
      apply Triple.bind (Q := fun payload final => internalTrace course.plan modelReceipt path.1
        (course.environment.traceFile 0 path.2) = .ok payload ∧ final = other.ticked)
      · apply Triple.check
        · exact fun payload final hpayload hfinal => ⟨hpayload, hfinal⟩
        · rintro raised final hrefused rfl
          refine ⟨plain_internalTrace _ _ _ _ raised hrefused, h.ticked.comes_of_refuse rfl ?_⟩
          rw [hmove, hrefused]
          rfl
      · intro payload
        apply Triple.of_forall
        rintro final ⟨hpayload, rfl⟩
        rw [hpayload] at hmove
        apply Triple.bind (h.ticked.appendFact hsteady rfl hmove
          ⟨by decide, by decide, by decide, fun heq => absurd heq (by decide)⟩
          (kinds_ne hworkspace hmodel (by decide) (by decide)))
        intro receipt
        apply Triple.pure
        rintro final ⟨-, hfinal⟩
        exact ⟨_, hfinal.forget⟩
  next receipt hexisting hnull =>
    apply Triple.throw
    rintro other rfl
    refine ⟨rfl, h.comes_of_refuse rfl ?_⟩
    rw [internalMove, hfound]
    dsimp only
    rw [h.byKind_some hexisting, show payloadGet (blank modelReceipt).payload _ = _ from hnull]
  next receipt hexisting hannounced =>
    apply Triple.pure
    rintro other rfl
    refine ⟨log, h.keep rfl ?_⟩
    rw [internalMove_of_announced hfound hannounced, if_neg]
    rw [h.byKind_some hexisting]
    exact Option.some_ne_none _

theorem costStage_steady (hsteady : Steady course.environment authorization)
    (hworkspace : workspace.kind = "workspace") (hmodel : (blank modelReceipt).kind = "model") :
    Triple
      (fun world => ∃ log,
        Standing course 5 (factKinds.drop 5) [blank modelReceipt, workspace] log world)
      (costStage course.environment course.plan course.existing modelReceipt)
      (fun costReceipt world => ∃ log, byKind "cost" log = some (blank costReceipt) ∧
        Standing course 6 (factKinds.drop 6) [blank modelReceipt, workspace] log world)
      (fun raised world => handled raised = false ∧ Comes course world) := by
  apply Triple.of_forall
  rintro world ⟨log, h⟩
  have hfound := h.byKind_model hmodel
  unfold costStage
  cases hexisting : byKind "cost" course.existing with
  | none =>
    have hmove : costMove course.environment course.plan log =
        .ofAnswer (costPayload course.environment course.plan modelReceipt.payload) := by
      rw [costMove, h.byKind_none hexisting, hfound]
      rfl
    apply Triple.bind (Q := fun payload other =>
      costPayload course.environment course.plan modelReceipt.payload = .ok payload ∧
        other = world)
    · apply Triple.check
      · exact fun payload other hpayload hother => ⟨hpayload, hother⟩
      · rintro raised other hrefused rfl
        refine ⟨plain_costPayload _ _ _ raised hrefused, h.comes_of_refuse rfl ?_⟩
        rw [hmove, hrefused]
        rfl
    · intro payload
      apply Triple.of_forall
      rintro other ⟨hpayload, rfl⟩
      rw [hpayload] at hmove
      apply (h.appendFact hsteady rfl hmove
        ⟨by decide, by decide, by decide, fun heq => absurd heq (by decide)⟩
        (kinds_ne hworkspace hmodel (by decide) (by decide))).post
      rintro receipt final ⟨hkind, hfinal⟩
      refine ⟨_, ?_, hfinal.forget⟩
      rw [← hkind]
      exact byKind_snoc_self _ _
  | some receipt =>
    have hsome := h.byKind_some hexisting
    apply Triple.pure
    rintro other rfl
    refine ⟨log, hsome, h.keep rfl ?_⟩
    rw [costMove, hsome]

end Conclude

end Standing

end JlensEvolve.Runtime
