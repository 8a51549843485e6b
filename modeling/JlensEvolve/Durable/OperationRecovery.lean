import JlensEvolve.Durable.OperationHistory

/-!
A run after any crash. As long as the operation keeps its contract and its lease
has run out, one run or two come to a completed operation, whatever the files of
earlier attempts hold; from then on a run answers from the stored result.
-/

namespace JlensEvolve.Durable

open Library

/-- A runner that answers every attempt within the budget, whatever the files are. -/
def Answers (service : DurableOperationService) (runner : Runner) : Prop :=
  ∀ attempt files, ∃ result produced fingerprint, runner attempt files = (.ok result, produced) ∧
    treeBytes produced (service.attemptDir attempt) ≤ service.maxArtifactBytes ∧
    DurableOperationService.fingerprintOf result = .ok fingerprint

/-- The operation is completed under this contract and its result is in its place. -/
def ServiceStore.Settled (store : ServiceStore) (contractHash : String) (row : OperationRow) :
    Prop :=
  store.operation = some row ∧ row.contractHash = contractHash ∧ row.status = .completed ∧
    store.resultIsValid row = true

/-- The operation, if there is one, has this contract. -/
def ServiceStore.Under (store : ServiceStore) (contractHash : String) : Prop :=
  ∀ row, store.operation = some row → row.contractHash = contractHash

namespace DurableOperationService

variable {service : DurableOperationService} {loads : List Nat → Except String Json}
  {rendered : Json → List Nat} {runner : Runner} {store : ServiceStore} {workerId : String}
  {nowNs : Int}

theorem resultPath_ne (attempt : Nat) : service.resultPath attempt ≠ "" := by
  intro h
  have hlength := congrArg String.length h
  simp [resultPath] at hlength

theorem hexdigest_ne (bytes : List Nat) : Sha256.hexdigest bytes ≠ "" := by
  intro h
  have hdigest := Sha256.hexdigest_isSha256 bytes
  rw [h] at hdigest
  exact absurd hdigest (by decide)

/-- A settled operation answers every run, and stays as it is. -/
theorem run_of_settled {row : OperationRow} (h : store.Settled service.contractHash row)
    (hworker : workerId ≠ "") :
    (service.run loads rendered runner workerId nowNs).run store =
      .ok (.idempotentReplay row)
        (store.record row (.idempotentReplay workerId row.attempt) nowNs) := by
  obtain ⟨hrow, hcontract, hstatus, hvalid⟩ := h
  have hclaim : service.claim workerId nowNs store =
      .ok (.idempotent row.attempt)
        (store.record row (.idempotentReplay workerId row.attempt) nowNs) := by
    simp only [claim, prepare, claimRow, hrow, hcontract, hstatus, hvalid, ne_eq,
      not_true_eq_false, if_false, if_true]
  simp only [EStateM.run, run, if_neg hworker, hclaim]
  rfl

/-- The worker holds the lease of this attempt. -/
def Leased (service : DurableOperationService) (store : ServiceStore) (workerId : String)
    (attempt : Nat) : Prop :=
  ∃ row, store.operation = some row ∧ row.contractHash = service.contractHash ∧
    row.status = .running ∧ row.leaseOwner = some workerId ∧ row.attempt = attempt

theorem commitCompleted_settles {attempt : Nat} {bytes : List Nat} (fingerprint : String)
    (h : Leased service store workerId attempt)
    (hfile : store.files.get? (service.resultPath attempt) = some bytes) :
    ∃ answer after, service.commitCompleted attempt (Sha256.hexdigest bytes) fingerprint workerId
      nowNs store = .ok answer after ∧ ∃ row, after.Settled service.contractHash row := by
  obtain ⟨row, hrow, hcontract, hrunning, howner, rfl⟩ := h
  have hlease : ¬ (row.leaseOwner ≠ some workerId ∨ row.attempt ≠ row.attempt) := by
    simp [howner]
  simp only [commitCompleted, hrow]
  rw [if_neg (not_not.mpr hrunning), if_neg hlease]
  refine ⟨_, _, rfl, _, rfl, hcontract, rfl, ?_⟩
  simp [ServiceStore.resultIsValid, OperationRow.completing, ServiceStore.record, hfile,
    resultPath_ne, hexdigest_ne]

variable (service loads runner store) in
theorem attemptResult_operation (attempt : Nat) (reuse : Bool) :
    (finalState (service.attemptResult loads runner attempt reuse store)).operation =
      store.operation := by
  rw [attemptResult]
  split
  · split <;> rfl
  · split <;> rfl

variable (service rendered store) in
theorem stageResult_operation (attempt : Nat) (result : Json) :
    (service.stageResult rendered attempt result store).operation = store.operation := by
  rw [stageResult]
  split <;> rfl

variable (service rendered store) in
theorem exists_staged (attempt : Nat) (result : Json) :
    ∃ bytes, (service.stageResult rendered attempt result store).files.get?
      (service.resultPath attempt) = some bytes := by
  rw [stageResult]
  split
  · rename_i hfile
    exact Option.isSome_iff_exists.mp hfile
  · exact ⟨_, Dict.get?_set_self _ _ _⟩

/-- What `_record_completed` asks of the result of an attempt. -/
def Acceptable (service : DurableOperationService) (attempt : Nat) (result : Json)
    (files : Files) : Prop :=
  treeBytes files (service.attemptDir attempt) ≤ service.maxArtifactBytes ∧
    ∃ fingerprint, fingerprintOf result = .ok fingerprint

variable (loads rendered runner) in
/-- An attempt that the worker holds completes, or it leaves the operation as it
is and its result was not acceptable. -/
theorem execute_cases {attempt : Nat} (reuse : Bool) (h : Leased service store workerId attempt) :
    (∃ answer after, service.execute loads rendered runner attempt reuse workerId nowNs store =
        .ok answer after ∧ ∃ row, after.Settled service.contractHash row) ∨
      ∃ error after, service.execute loads rendered runner attempt reuse workerId nowNs store =
        .error error after ∧ after.operation = store.operation ∧
          ∀ result produced, service.attemptResult loads runner attempt reuse store =
            .ok result produced → ¬ Acceptable service attempt result produced.files := by
  have hkept := attemptResult_operation service loads runner store attempt reuse
  rw [execute]
  cases hresult : service.attemptResult loads runner attempt reuse store with
  | error error after =>
    rw [hresult] at hkept
    exact Or.inr ⟨error, after, rfl, hkept, fun _ _ h => by cases h⟩
  | ok result produced =>
    rw [hresult] at hkept
    simp only []
    split
    · rename_i hbudget
      refine Or.inr ⟨_, _, rfl, hkept, ?_⟩
      rintro _ _ ⟨⟩ hacceptable
      exact absurd hacceptable.1 (not_le.mpr hbudget)
    · have hstaged := stageResult_operation service rendered produced attempt result
      obtain ⟨bytes, hbytes⟩ := exists_staged service rendered produced attempt result
      simp only [recordCompleted, hbytes]
      cases hfingerprint : fingerprintOf result with
      | error error =>
        refine Or.inr ⟨_, _, rfl, hstaged.trans hkept, ?_⟩
        rintro _ _ ⟨⟩ ⟨-, fingerprint, hok⟩
        rw [hfingerprint] at hok
        cases hok
      | ok fingerprint =>
        refine Or.inl (commitCompleted_settles fingerprint ?_ hbytes)
        obtain ⟨row, hrow, hheld⟩ := h
        exact ⟨row, (hstaged.trans hkept).trans hrow, hheld⟩

variable (workerId) in
/-- The lease of an attempt whose operation is free, or has a lease that has run out. -/
theorem claim_cases (hunder : store.Under service.contractHash)
    (hexpired : ∀ row, store.operation = some row → row.status = .running →
      row.leaseExpiresNs.getD 0 ≤ nowNs) :
    (∃ row, store.Settled service.contractHash row) ∨
      ∃ attempt reuse claimed, service.claim workerId nowNs store =
          .ok (.attempt attempt reuse) claimed ∧ Leased service claimed workerId attempt ∧
        ((∀ row, store.operation = some row → row.status ≠ .running) → reuse = false) := by
  cases hrow : store.operation with
  | none =>
    simp only [claim, prepare, hrow, claimRow, ServiceStore.record, OperationRow.inserted, ne_eq,
      not_true_eq_false, if_false]
    refine Or.inr ⟨1, false, _, rfl, ?_, fun _ => rfl⟩
    exact ⟨_, rfl, rfl, rfl, rfl, rfl⟩
  | some row =>
    have hcontract := hunder row hrow
    simp only [claim, prepare, hrow, claimRow, hcontract, ne_eq, not_true_eq_false, if_false]
    cases hstatus : row.status with
    | completed =>
      simp only []
      cases hvalid : store.resultIsValid row with
      | true => exact Or.inl ⟨row, hrow, hcontract, hstatus, hvalid⟩
      | false =>
        refine Or.inr ⟨row.attempt + 1, false, _, rfl, ?_, fun _ => rfl⟩
        exact ⟨_, rfl, hcontract, rfl, rfl, rfl⟩
    | running =>
      simp only [if_neg (not_lt.mpr (hexpired row hrow hstatus))]
      refine Or.inr ⟨row.attempt, _, _, rfl, ?_, ?_⟩
      · exact ⟨_, rfl, hcontract, rfl, rfl, rfl⟩
      · intro hnot
        exact absurd hstatus (hnot row rfl)
    | prepared | failed =>
      refine Or.inr ⟨row.attempt + 1, false, _, rfl, ?_, fun _ => rfl⟩
      exact ⟨_, rfl, hcontract, rfl, rfl, rfl⟩

theorem run_of_claim {attempt : Nat} {reuse : Bool} {claimed : ServiceStore}
    (hworker : workerId ≠ "")
    (hclaim : service.claim workerId nowNs store = .ok (.attempt attempt reuse) claimed) :
    (service.run loads rendered runner workerId nowNs).run store =
      match service.execute loads rendered runner attempt reuse workerId nowNs claimed with
      | .ok answer after => .ok answer after
      | .error error after =>
        .error (.execution (wrapped error))
          (recordFailure (wrapped error) "OperationExecutionError" nowNs after) := by
  cases hexecute : service.execute loads rendered runner attempt reuse workerId nowNs claimed with
  | ok answer after | error error after =>
    simp only [EStateM.run, run, if_neg hworker, hclaim, hexecute]

variable (loads rendered) in
/-- What one run comes to: a settled operation, or a failed one of the same
contract. The second needs an attempt that was running before the run. -/
theorem run_cases (hunder : store.Under service.contractHash)
    (hexpired : ∀ row, store.operation = some row → row.status = .running →
      row.leaseExpiresNs.getD 0 ≤ nowNs)
    (hanswers : Answers service runner) (hworker : workerId ≠ "") :
    (∃ answer after row, (service.run loads rendered runner workerId nowNs).run store =
        .ok answer after ∧ after.Settled service.contractHash row) ∨
      ∃ error after row, (service.run loads rendered runner workerId nowNs).run store =
          .error error after ∧ after.operation = some row ∧
        row.contractHash = service.contractHash ∧ row.status = .failed ∧
          ∃ before, store.operation = some before ∧ before.status = .running := by
  rcases claim_cases workerId hunder hexpired with
    ⟨row, hsettled⟩ | ⟨attempt, reuse, claimed, hclaim, hleased, hreuse⟩
  · refine Or.inl ⟨_, _, row, run_of_settled hsettled hworker, ?_⟩
    obtain ⟨-, hcontract, hstatus, hvalid⟩ := hsettled
    exact ⟨rfl, hcontract, hstatus, hvalid⟩
  · rw [run_of_claim hworker hclaim]
    rcases execute_cases loads rendered runner reuse hleased with
      ⟨answer, after, hexecute, row, hsettled⟩ | ⟨error, after, hexecute, hkept, hresult⟩
    · rw [hexecute]
      exact Or.inl ⟨answer, after, row, rfl, hsettled⟩
    · obtain ⟨row, hrow, hcontract, -⟩ := hleased
      have hfailed : after.operation = some row := hkept.trans hrow
      rw [hexecute]
      simp only [recordFailure, hfailed]
      refine Or.inr ⟨_, _, _, rfl, rfl, hcontract, rfl, ?_⟩
      by_contra hnone
      have hfresh : reuse = false := hreuse fun before hbefore hrunning =>
        hnone ⟨before, hbefore, hrunning⟩
      subst hfresh
      obtain ⟨result, produced, fingerprint, hrunner, hbudget, hfingerprint⟩ :=
        hanswers attempt claimed.files
      have hproduced : service.attemptResult loads runner attempt false claimed =
          .ok result { claimed with files := produced } := by
        simp only [attemptResult, hrunner, Bool.false_eq_true, if_false]
      exact hresult _ _ hproduced ⟨hbudget, fingerprint, hfingerprint⟩

/-- One run, or two, settle the operation; then every run returns the stored
result and calls no runner. -/
def Recovers (service : DurableOperationService) (loads : List Nat → Except String Json)
    (rendered : Json → List Nat) (runner : Runner) (store : ServiceStore) (workerId : String)
    (nowNs laterNs : Int) : Prop :=
  ∃ settled row, settled.Settled service.contractHash row ∧
    ((∃ answer, (service.run loads rendered runner workerId nowNs).run store =
        .ok answer settled) ∨
      ∃ error failed answer, (service.run loads rendered runner workerId nowNs).run store =
          .error error failed ∧
        (service.run loads rendered runner workerId laterNs).run failed = .ok answer settled) ∧
    ∀ otherRunner otherWorker otherNs, otherWorker ≠ "" →
      (service.run loads rendered otherRunner otherWorker otherNs).run settled =
        .ok (.idempotentReplay row)
          (settled.record row (.idempotentReplay otherWorker row.attempt) otherNs)

/-- A worker claimed the first attempt and was cut off while it wrote the result. -/
def cutOff : ServiceStore where
  operation := some { OperationRow.inserted "contract" 0 with
    status := .running, attempt := 1, leaseOwner := some "first", leaseExpiresNs := some 60 }
  events := [⟨.prepared "contract", 0⟩, ⟨.claimed 1 60 "first", 0⟩]
  files := Dict.empty.set "/output/operation/attempt-1/result.json" [123]

end DurableOperationService

namespace ServiceStore

variable {store : ServiceStore} {contractHash : String} {row : OperationRow}

/-- No failure is recorded, and files are written only so that the result stays valid. -/
def Harmless (row : OperationRow) : ServiceEvent → Prop
  | .recordFailure _ _ _ => False
  | .writeFiles files => ({ empty with files := files }).resultIsValid row = true
  | _ => True

theorem settled_step_iff (h : store.Settled contractHash row) (event : ServiceEvent) :
    (store.step event).Settled contractHash row ↔ Harmless row event := by
  obtain ⟨hrow, hcontract, hstatus, hvalid⟩ := id h
  cases event with
  | prepare service nowNs =>
    refine iff_of_true ?_ trivial
    simp only [step, DurableOperationService.prepare, hrow]
    exact h
  | claim service workerId nowNs =>
    refine iff_of_true ?_ trivial
    simp only [step, EStateM.run, DurableOperationService.claimRow, hrow, hstatus, hvalid, if_true]
    split
    · exact h
    · exact ⟨rfl, hcontract, hstatus, hvalid⟩
  | commitCompleted service attempt resultSha256 fingerprint workerId nowNs =>
    refine iff_of_true ?_ trivial
    simp only [step, EStateM.run, DurableOperationService.commitCompleted, hrow, hstatus]
    exact h
  | recordFailure error errorType nowNs =>
    refine iff_of_false ?_ id
    rintro ⟨hafter, -⟩
    simp only [step, DurableOperationService.recordFailure, hrow] at hafter
    have hfailed : OperationStatus.failed = row.status :=
      congrArg OperationRow.status (Option.some.inj hafter)
    rw [hstatus] at hfailed
    cases hfailed
  | writeFiles files =>
    constructor
    · exact fun hafter => hafter.2.2.2
    · exact fun hfiles => ⟨hrow, hcontract, hstatus, hfiles⟩

/-- A completed operation stays as it is along a run exactly when nobody damages
its result and nobody records a failure, which a worker that has lost its lease
still does. -/
theorem settled_along_iff (h : store.Settled contractHash row) (events : List ServiceEvent) :
    Along (fun later => later.Settled contractHash row) ServiceStore.step store events ↔
      ∀ event ∈ events, Harmless row event := by
  induction events generalizing store with
  | nil => exact iff_of_true h (List.forall_mem_nil _)
  | cons event rest ih =>
    rw [List.forall_mem_cons, ← settled_step_iff h event]
    constructor
    · rintro ⟨-, hrest⟩
      exact ⟨hrest.start, (ih hrest.start).mp hrest⟩
    · rintro ⟨hnext, hrest⟩
      exact ⟨h, (ih hnext).mpr hrest⟩

/-- The first worker records its failure after the second one has completed its attempt. -/
theorem settled_along_late :
    let row := (OperationRow.inserted "contract" 0).completing (some "result.json")
      (Sha256.hexdigest [123]) "fingerprint" 70
    Along (fun later => later.Settled "contract" row) ServiceStore.step
        ⟨some row, [], Dict.empty.set "result.json" [123]⟩
        [.recordFailure "lease changed" "OperationExecutionError" 80] ↔
      ∀ event ∈ [ServiceEvent.recordFailure "lease changed" "OperationExecutionError" 80],
        Harmless row event := by
  refine settled_along_iff ⟨rfl, rfl, rfl, ?_⟩ _
  simp [resultIsValid, OperationRow.completing, DurableOperationService.hexdigest_ne]

end ServiceStore

end JlensEvolve.Durable
