import JlensEvolve.Runtime.FailedRun

/-!
A call of `execute` that is stopped anywhere and made again, against the
uninterrupted call: the terminal status is the same but for one place to stop.
-/

namespace JlensEvolve.Runtime

open Library Contracts

section Resume

variable {plan : ExecutionPlan} {call : Call}

theorem finish_map_blank (plan : ExecutionPlan) (status : String) (fields : Payload)
    (log : List Receipt) :
    finish plan status fields (log.map blank) = finish plan status fields log := by
  have hentry : entry plan (log.map blank) = entry plan log := by
    funext kind payload
    rw [entry, entry, List.length_map]
  have hany (id : String) : (log.map blank).any (fun prior => prior.receiptId = id) =
      log.any (fun prior => prior.receiptId = id) := by
    rw [List.any_map]
    rfl
  unfold finish put
  rw [hentry, hany]
  split <;> rfl

theorem finish_eq_none_or (plan : ExecutionPlan) (status : String) (fields : Payload)
    (log : List Receipt) :
    finish plan status fields log = none ∨ finish plan status fields log = some status := by
  unfold finish
  cases put plan "execution_terminal" (("status", .str status) :: fields) log with
  | none => exact Or.inl rfl
  | some next => exact Or.inr rfl

theorem finish_eq_iff (plan : ExecutionPlan) {first second : String} (hne : first ≠ second)
    (fields others : Payload) (log : List Receipt) :
    finish plan first fields log = finish plan second others log ↔
      finish plan first fields log = none ∧ finish plan second others log = none := by
  constructor
  · intro heq
    rcases finish_eq_none_or plan first fields log with hfirst | hfirst
    · exact ⟨hfirst, heq ▸ hfirst⟩
    · rcases finish_eq_none_or plan second others log with hsecond | hsecond
      · exact ⟨heq.trans hsecond, hsecond⟩
      · rw [hfirst, hsecond] at heq
        exact absurd (Option.some.inj heq) hne
  · rintro ⟨hfirst, hsecond⟩
    rw [hfirst, hsecond]

theorem checkPrediction_nil (prediction : Option MechanismPrediction) :
    checkPrediction [] prediction = .ok () := by
  cases prediction <;> rfl

theorem afterCall_refused (hsteady : Steady call.environment call.authorization)
    (hrefused : ¬ call.Admitted plan) {world : World} (hsound : Sound world) :
    (afterCall plan world call).receipts = world.receipts :=
  afterCall_of_triple (execute_refused hsteady hrefused hsound)

theorem afterCall_comes (hsteady : Steady call.environment call.authorization)
    (hadmitted : call.Admitted plan) {world : World} (hsound : Sound world)
    (hintact : world.torn = false)
    (hfits : checkPrediction (world.receipts.map blank) call.prediction = .ok ()) :
    Comes (call.course plan world) (afterCall plan world call) :=
  afterCall_of_triple (execute_steady hsteady hadmitted hsound hintact hfits)

theorem not_stops_uninterrupted : ¬ Stops call.uninterrupted.environment := by
  rintro ⟨tick, hstopped⟩
  cases hstopped

theorem status_uninterrupted (hsteady : Steady call.environment call.authorization)
    (hadmitted : call.Admitted plan) {world : World} (hsound : Sound world)
    (hintact : world.torn = false)
    (hfits : checkPrediction (world.receipts.map blank) call.prediction = .ok ()) :
    terminalStatus? (afterCall plan world call.uninterrupted).receipts =
      verdict call.environment plan call.prediction (world.receipts.map blank) := by
  obtain ⟨log, hholds, -, -, hend⟩ := (afterCall_comes (hsteady.stopping fun _ => false)
    (hadmitted.stopping fun _ => false) hsound hintact hfits).ends
  change Holds log (afterCall plan world call.uninterrupted) at hholds
  rw [← terminalStatus?_map_blank, hholds.receipts]
  exact hend.resolve_left not_stops_uninterrupted

/-- Stopped between the native fact of a failed evaluator and its terminal
receipt, and made again, the call completes. -/
theorem FailedRun.statuses (run : FailedRun plan call)
    (hsteady : Steady call.environment call.authorization) (hadmitted : call.Admitted plan) :
    terminalStatus?
        (afterCalls plan [call.stopping atNativeFact, call.uninterrupted]).receipts =
        finish plan "completed" [] run.nativeLog ∧
      terminalStatus? (afterCalls plan [call.uninterrupted]).receipts =
        finish plan "infra_failure" [("reason", .str run.reason)] run.nativeLog := by
  obtain ⟨log, hholds, hfits, hcomes, -⟩ := (afterCall_comes (hsteady.stopping atNativeFact)
    (hadmitted.stopping atNativeFact) sound_empty rfl (checkPrediction_nil _)).ends
  change Holds log (afterCalls plan [call.stopping atNativeFact]) at hholds
  obtain rfl : log = run.nativeLog :=
    hholds.receipts.symm.trans (run.left hsteady hadmitted).1.receipts
  have hlast : EvaluatorErrorLast run.reason run.nativeLog := by
    rw [put_eq_some run.putNative, evaluatorErrorLast_snoc]
    exact ⟨entry_kind _ _, payloadGet_evaluatorErrorPayload _ _⟩
  have hresumed := status_uninterrupted hsteady hadmitted
    (afterCalls_sound plan [call.stopping atNativeFact]) hholds.intact (hholds.receipts ▸ hfits)
  have hwhole : terminalStatus? (afterCalls plan [call.uninterrupted]).receipts =
      verdict call.environment plan call.prediction [] :=
    status_uninterrupted hsteady hadmitted sound_empty rfl (checkPrediction_nil _)
  rw [hholds.receipts] at hresumed
  rcases hcomes with ⟨-, hquiet⟩ | ⟨reason, hreason, hverdict, houtcome⟩
  · obtain ⟨last, hnone, -⟩ := hquiet _ hlast
    cases hnone
  · obtain rfl := hreason.unique hlast
    exact ⟨hresumed.trans hverdict, hwhole.trans houtcome⟩

/-- A call on a plan that is stopped and made again comes to the terminal
status of the uninterrupted call, exactly when the stop does not fall between
the native fact of a failed evaluator and its terminal receipt (or the store
refuses either terminal receipt, whose id it has). -/
theorem status_resumed_iff (plan : ExecutionPlan) (call : Call) (stopped : Nat → Bool)
    (hsteady : Steady call.environment call.authorization) :
    terminalStatus? (afterCalls plan [call.stopping stopped, call.uninterrupted]).receipts =
        terminalStatus? (afterCalls plan [call.uninterrupted]).receipts ↔
      ∀ reason, EvaluatorErrorLast reason (afterCalls plan [call.stopping stopped]).receipts →
        finish plan "completed" [] (afterCalls plan [call.stopping stopped]).receipts = none ∧
          finish plan "infra_failure" [("reason", .str reason)]
            (afterCalls plan [call.stopping stopped]).receipts = none := by
  have hsound := afterCalls_sound plan [call.stopping stopped]
  have hnone (reason : String) : ¬ EvaluatorErrorLast reason [] := by
    rintro ⟨last, hlast, -⟩
    cases hlast
  rw [afterCalls_pair]
  by_cases hadmitted : call.Admitted plan
  · obtain ⟨log, hholds, hfits, hcomes, -⟩ := (afterCall_comes (hsteady.stopping stopped)
      (hadmitted.stopping stopped) sound_empty rfl (checkPrediction_nil _)).ends
    change Holds log (afterCalls plan [call.stopping stopped]) at hholds
    have hwhole : terminalStatus? (afterCalls plan [call.uninterrupted]).receipts =
        verdict call.environment plan call.prediction [] :=
      status_uninterrupted hsteady hadmitted sound_empty rfl (checkPrediction_nil _)
    have hresumed := status_uninterrupted hsteady hadmitted hsound hholds.intact
      (hholds.receipts ▸ hfits)
    rw [hwhole, hresumed]
    simp only [← evaluatorErrorLast_map_blank _ (afterCalls plan [call.stopping stopped]).receipts,
      ← finish_map_blank plan _ _ (afterCalls plan [call.stopping stopped]).receipts,
      hholds.receipts]
    rcases hcomes with ⟨hverdict, hquiet⟩ | ⟨reason, hlast, hverdict, houtcome⟩
    · exact iff_of_true hverdict fun reason hlast => absurd (hquiet reason hlast) (hnone reason)
    · have hcompleted : verdict call.environment plan call.prediction log =
          finish plan "completed" [] log := hverdict
      have hfailed : verdict call.environment plan call.prediction [] =
          finish plan "infra_failure" [("reason", .str reason)] log := houtcome
      rw [hcompleted, hfailed, finish_eq_iff plan (by decide)]
      constructor
      · intro hboth other hother
        obtain rfl := hother.unique hlast
        exact hboth
      · exact fun hall => hall reason hlast
  · have hfirst : (afterCalls plan [call.stopping stopped]).receipts = [] :=
      afterCall_refused (hsteady.stopping stopped)
        (fun h => hadmitted (h.stopping call.environment.stopped)) sound_empty
    have hwhole : (afterCalls plan [call.uninterrupted]).receipts = [] :=
      afterCall_refused (hsteady.stopping fun _ => false)
        (fun h => hadmitted (h.stopping call.environment.stopped)) sound_empty
    have hsecond := afterCall_refused (hsteady.stopping fun _ => false)
      (fun h => hadmitted (h.stopping call.environment.stopped)) hsound
    change (afterCall plan _ call.uninterrupted).receipts = _ at hsecond
    rw [hwhole, hsecond, hfirst]
    exact iff_of_true rfl fun reason hlast => absurd hlast (hnone reason)

theorem status_resumed_iff_failing :
    terminalStatus? (afterCalls samplePlan
        [failingCall.stopping atNativeFact, failingCall.uninterrupted]).receipts =
        terminalStatus? (afterCalls samplePlan [failingCall.uninterrupted]).receipts ↔
      ∀ reason, EvaluatorErrorLast reason
          (afterCalls samplePlan [failingCall.stopping atNativeFact]).receipts →
        finish samplePlan "completed" []
            (afterCalls samplePlan [failingCall.stopping atNativeFact]).receipts = none ∧
          finish samplePlan "infra_failure" [("reason", .str reason)]
            (afterCalls samplePlan [failingCall.stopping atNativeFact]).receipts = none :=
  status_resumed_iff samplePlan failingCall atNativeFact failingCall_steady

/-- The failed evaluator's call is resumed as a completed one. -/
theorem failedEvaluator_resumesCompleted :
    terminalStatus? (afterCalls samplePlan
        [failingCall.stopping atNativeFact, failingCall.uninterrupted]).receipts =
        some "completed" ∧
      terminalStatus? (afterCalls samplePlan [failingCall.uninterrupted]).receipts =
        some "infra_failure" := by
  obtain ⟨hresumed, hwhole⟩ :=
    failingRun.statuses failingCall_steady failingCall_admitted
  exact ⟨hresumed.trans failingRun_completes, hwhole.trans failingRun_fails⟩

end Resume

end JlensEvolve.Runtime
