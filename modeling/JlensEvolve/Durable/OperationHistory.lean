import JlensEvolve.Durable.OperationService

/-!
What the events of an operation say. Whatever transactions anybody makes in
whatever order, the operation is what its events replay to, each of them allowed
where it stands; so attempts are numbered without a gap, none is completed twice
and a lease is taken over only after it has run out.
-/

namespace JlensEvolve.Durable

open Library

/-- One transaction, with any arguments, or somebody who changes the files. -/
inductive ServiceEvent where
  | prepare (service : DurableOperationService) (nowNs : Int)
  | claim (service : DurableOperationService) (workerId : String) (nowNs : Int)
  | commitCompleted (service : DurableOperationService) (attempt : Nat)
      (resultSha256 fingerprint workerId : String) (nowNs : Int)
  | recordFailure (error errorType : String) (nowNs : Int)
  | writeFiles (files : Files)

def ServiceStore.step (store : ServiceStore) : ServiceEvent → ServiceStore
  | .prepare service nowNs => service.prepare nowNs store
  | .claim service workerId nowNs => finalState ((service.claimRow workerId nowNs).run store)
  | .commitCompleted service attempt resultSha256 fingerprint workerId nowNs =>
    finalState ((service.commitCompleted attempt resultSha256 fingerprint workerId nowNs).run store)
  | .recordFailure error errorType nowNs =>
    DurableOperationService.recordFailure error errorType nowNs store
  | .writeFiles files => { store with files := files }

/-- What an event makes of the operation. -/
def OperationRow.after (row : OperationRow) (logged : EventRow) : OperationRow :=
  match logged.event with
  | .prepared _ | .idempotentReplay _ _ => row
  | .integrityFailure _ _ => row.reverted logged.createdNs
  | .claimed attempt leaseExpiresNs workerId | .leaseRecovered attempt leaseExpiresNs workerId =>
    row.leased attempt leaseExpiresNs workerId logged.createdNs
  | .failed error _ => row.failing error logged.createdNs
  | .completed _ resultSha256 fingerprint =>
    row.completing none resultSha256 fingerprint logged.createdNs

def replayed (operation : Option OperationRow) (logged : EventRow) : Option OperationRow :=
  match operation, logged.event with
  | none, .prepared contractHash => some (.inserted contractHash logged.createdNs)
  | operation, _ => operation.map (·.after logged)

/-- The events that may follow on the operation as it stands. A failure is
recorded whoever owns the lease. -/
def Allowed (operation : Option OperationRow) (logged : EventRow) : Prop :=
  match operation, logged.event with
  | none, .prepared _ => True
  | some row, .idempotentReplay _ attempt => row.status = .completed ∧ attempt = row.attempt
  | some row, .integrityFailure expectedSha256 _ =>
    row.status = .completed ∧ expectedSha256 = row.resultSha256
  | some row, .claimed attempt _ _ =>
    (row.status = .prepared ∨ row.status = .failed) ∧ attempt = row.attempt + 1
  | some row, .leaseRecovered attempt _ _ =>
    row.status = .running ∧ attempt = row.attempt ∧
      row.leaseExpiresNs.getD 0 ≤ logged.createdNs
  | some row, .completed attempt _ _ => row.status = .running ∧ attempt = row.attempt
  | some _, .failed _ _ => True
  | _, _ => False

/-- The columns that the events tell of: all but the place of the result. -/
def OperationRow.told (row : OperationRow) : OperationRow := { row with resultPath := none }

/-- The operation is what its events replay to. -/
def ServiceStore.Told (store : ServiceStore) : Prop :=
  Sourced Allowed replayed none store.events (store.operation.map OperationRow.told)

namespace ServiceStore

variable {store : ServiceStore}

/-- A transaction that records an event records what the event makes of the operation. -/
theorem Told.record {row next : OperationRow} (h : store.Told) (hrow : store.operation = some row)
    {event : OperationEvent} {nowNs : Int} (hallowed : Allowed (some row.told) ⟨event, nowNs⟩)
    (hnext : next.told = row.told.after ⟨event, nowNs⟩) (files : Files) :
    ({ store with files := files }.record next event nowNs).Told := by
  rw [Told, hrow] at h
  have hconcat := h.concat hallowed
  have hreplayed : replayed (some row.told) ⟨event, nowNs⟩ = some next.told := by
    rw [hnext]
    rfl
  change Sourced Allowed replayed none (store.events ++ [⟨event, nowNs⟩]) (some next.told)
  exact hreplayed ▸ hconcat

theorem Told.takeLease {service : DurableOperationService} {row : OperationRow} (h : store.Told)
    (hrow : store.operation = some row) {recovering : Bool} {workerId : String} {nowNs : Int}
    (hrunning : recovering = true → row.status = .running ∧ row.leaseExpiresNs.getD 0 ≤ nowNs)
    (hidle : recovering = false → row.status = .prepared ∨ row.status = .failed) :
    (finalState (service.takeLease row recovering workerId nowNs store)).Told := by
  cases recovering with
  | true =>
    obtain ⟨hstatus, hexpired⟩ := hrunning rfl
    refine h.record hrow ?_ rfl store.files
    exact ⟨hstatus, rfl, hexpired⟩
  | false =>
    refine h.record hrow ?_ rfl store.files
    exact ⟨hidle rfl, rfl⟩

theorem Told.prepare (h : store.Told) (service : DurableOperationService) (nowNs : Int) :
    (service.prepare nowNs store).Told := by
  rw [DurableOperationService.prepare]
  cases hrow : store.operation with
  | some row => exact h
  | none =>
    rw [Told, hrow] at h
    have hallowed : Allowed none ⟨.prepared service.contractHash, nowNs⟩ := trivial
    exact h.concat hallowed

theorem Told.claimRow (h : store.Told) (service : DurableOperationService) (workerId : String)
    (nowNs : Int) : (finalState ((service.claimRow workerId nowNs).run store)).Told := by
  rw [EStateM.run, DurableOperationService.claimRow]
  cases hrow : store.operation with
  | none => exact h
  | some row =>
    simp only []
    split
    · exact h
    · split
      · rename_i hstatus
        split
        · refine h.record hrow ?_ rfl store.files
          exact ⟨hstatus, rfl⟩
        · have hallowed : Allowed (some row.told) ⟨.integrityFailure row.resultSha256
            (store.preserveCorruptResult row).1, nowNs⟩ := ⟨hstatus, rfl⟩
          have hreverted : ({ store with files := (store.preserveCorruptResult row).2 }.record
              (row.reverted nowNs) _ nowNs).Told := h.record hrow hallowed rfl _
          refine hreverted.takeLease rfl ?_ ?_
          · intro hrecovering
            cases hrecovering
          · intro _
            exact Or.inl rfl
      · rename_i hstatus
        split
        · exact h
        · rename_i hexpired
          refine h.takeLease hrow (fun _ => ⟨hstatus, not_lt.mp hexpired⟩) ?_
          intro hrecovering
          cases hrecovering
      · rename_i hstatus
        exact h.takeLease hrow (by intro hrecovering; cases hrecovering) (fun _ => Or.inl hstatus)
      · rename_i hstatus
        exact h.takeLease hrow (by intro hrecovering; cases hrecovering) (fun _ => Or.inr hstatus)

theorem Told.commitCompleted (h : store.Told) (service : DurableOperationService) (attempt : Nat)
    (resultSha256 fingerprint workerId : String) (nowNs : Int) :
    (finalState ((service.commitCompleted attempt resultSha256 fingerprint workerId nowNs).run
      store)).Told := by
  rw [EStateM.run, DurableOperationService.commitCompleted]
  cases hrow : store.operation with
  | none => exact h
  | some row =>
    simp only []
    split
    · exact h
    · rename_i hstatus
      split
      · exact h
      · rename_i howner
        rw [not_or, not_not, not_not] at howner
        refine h.record hrow ?_ rfl store.files
        exact ⟨not_not.mp hstatus, howner.2.symm⟩

theorem Told.recordFailure (h : store.Told) (error errorType : String) (nowNs : Int) :
    (DurableOperationService.recordFailure error errorType nowNs store).Told := by
  rw [DurableOperationService.recordFailure]
  cases hrow : store.operation with
  | none => exact h
  | some row =>
    refine h.record hrow ?_ rfl store.files
    trivial

theorem Told.step (h : store.Told) (event : ServiceEvent) : (store.step event).Told := by
  cases event with
  | prepare service nowNs => exact h.prepare service nowNs
  | claim service workerId nowNs => exact h.claimRow service workerId nowNs
  | commitCompleted service attempt resultSha256 fingerprint workerId nowNs =>
    exact h.commitCompleted service attempt resultSha256 fingerprint workerId nowNs
  | recordFailure error errorType nowNs => exact h.recordFailure error errorType nowNs
  | writeFiles files => exact h

theorem told_along (events : List ServiceEvent) :
    Along ServiceStore.Told ServiceStore.step ServiceStore.empty events :=
  along_invariant (fun _ event h => Told.step h event) _ _ sourced_nil

/-- Along every run the operation is what its events replay to, and each event was
allowed by what the events before it replay to. -/
theorem operation_replays (events : List ServiceEvent) :
    Along (fun store =>
        run replayed none store.events = store.operation.map OperationRow.told ∧
          ∀ before logged after, store.events = before ++ logged :: after →
            Allowed (run replayed none before) logged)
      ServiceStore.step ServiceStore.empty events := by
  refine (told_along events).mono ?_
  intro store htold
  refine ⟨htold.replayed, ?_⟩
  intro before logged after hevents
  rw [Told, hevents] at htold
  exact htold.allowed_at

end ServiceStore

def EventRow.claimedAttempt? (logged : EventRow) : Option Nat :=
  match logged.event with
  | .claimed attempt _ _ => some attempt
  | _ => none

def EventRow.completedAttempt? (logged : EventRow) : Option Nat :=
  match logged.event with
  | .completed attempt _ _ => some attempt
  | _ => none

def claimedAttempts (events : List EventRow) : List Nat := events.filterMap (·.claimedAttempt?)

def completedAttempts (events : List EventRow) : List Nat := events.filterMap (·.completedAttempt?)

/-- The last attempt, zero before the first one. -/
def lastAttempt (operation : Option OperationRow) : Nat := (operation.map (·.attempt)).getD 0

/-- Attempts are claimed in the order of their numbers, without a gap, and
completed in that order, the current one only when it does not run any more. -/
structure Numbered (events : List EventRow) (operation : Option OperationRow) : Prop where
  claimed : claimedAttempts events = List.range' 1 (lastAttempt operation)
  completed : (completedAttempts events).Pairwise (· < ·)
  reached : ∀ attempt ∈ completedAttempts events, attempt ≤ lastAttempt operation
  running : ∀ row, operation = some row → row.status = .running →
    ∀ attempt ∈ completedAttempts events, attempt < row.attempt

namespace Numbered

variable {events : List EventRow} {view : Option OperationRow} {row next : OperationRow}
  {logged : EventRow}

/-- An event that neither claims nor completes an attempt. -/
theorem quiet (h : Numbered events view) (hclaimed : logged.claimedAttempt? = none)
    (hcompleted : logged.completedAttempt? = none) (hattempt : next.attempt = lastAttempt view)
    (hrunning : next.status = .running → ∃ row, view = some row ∧ row.status = .running) :
    Numbered (events ++ [logged]) (some next) := by
  have hclaims : claimedAttempts (events ++ [logged]) = claimedAttempts events := by
    simp [claimedAttempts, hclaimed]
  have hcompletions : completedAttempts (events ++ [logged]) = completedAttempts events := by
    simp [completedAttempts, hcompleted]
  have hlast : lastAttempt (some next) = lastAttempt view := hattempt
  constructor
  · rw [hclaims, hlast, h.claimed]
  · rw [hcompletions]
    exact h.completed
  · rw [hcompletions, hlast]
    exact h.reached
  · intro found hfound hstatus
    cases hfound
    obtain ⟨row, rfl, hrow⟩ := hrunning hstatus
    rw [hcompletions, hattempt]
    exact h.running row rfl hrow

theorem claim (h : Numbered events (some row)) (leaseExpiresNs : Int) (workerId : String)
    (nowNs : Int) :
    Numbered (events ++ [⟨.claimed (row.attempt + 1) leaseExpiresNs workerId, nowNs⟩])
      (some (row.leased (row.attempt + 1) leaseExpiresNs workerId nowNs)) := by
  have hcompletions : completedAttempts
      (events ++ [⟨.claimed (row.attempt + 1) leaseExpiresNs workerId, nowNs⟩]) =
        completedAttempts events := by
    simp [completedAttempts, EventRow.completedAttempt?]
  have hreached : ∀ attempt ∈ completedAttempts events, attempt ≤ row.attempt := h.reached
  constructor
  · have hclaimed : claimedAttempts events = List.range' 1 row.attempt := h.claimed
    rw [claimedAttempts, List.filterMap_append]
    change claimedAttempts events ++ [row.attempt + 1] = List.range' 1 (row.attempt + 1)
    rw [hclaimed, List.range'_1_concat, Nat.add_comm 1]
  · rw [hcompletions]
    exact h.completed
  · intro attempt hattempt
    rw [hcompletions] at hattempt
    exact (hreached attempt hattempt).trans (Nat.le_succ _)
  · intro found hfound _ attempt hattempt
    cases hfound
    rw [hcompletions] at hattempt
    exact Nat.lt_succ_of_le (hreached attempt hattempt)

theorem complete (h : Numbered events (some row)) (hrunning : row.status = .running)
    (resultSha256 fingerprint : String) (nowNs : Int) :
    Numbered (events ++ [⟨.completed row.attempt resultSha256 fingerprint, nowNs⟩])
      (some (row.completing none resultSha256 fingerprint nowNs)) := by
  have hbefore := h.running row rfl hrunning
  have hcompletions : completedAttempts
      (events ++ [⟨.completed row.attempt resultSha256 fingerprint, nowNs⟩]) =
        completedAttempts events ++ [row.attempt] := by
    simp [completedAttempts, EventRow.completedAttempt?]
  constructor
  · rw [claimedAttempts, List.filterMap_append]
    change claimedAttempts events ++ [] = _
    rw [List.append_nil]
    exact h.claimed
  · rw [hcompletions, List.pairwise_append]
    refine ⟨h.completed, List.pairwise_singleton _ _, ?_⟩
    intro attempt hattempt last hlast
    rw [List.mem_singleton.mp hlast]
    exact hbefore attempt hattempt
  · intro attempt hattempt
    rw [hcompletions, List.mem_append, List.mem_singleton] at hattempt
    rcases hattempt with hattempt | rfl
    · exact h.reached attempt hattempt
    · exact le_refl _
  · intro found hfound hstatus
    cases hfound
    cases hstatus

theorem step (h : Numbered events view) (hallowed : Allowed view logged) :
    Numbered (events ++ [logged]) (replayed view logged) := by
  obtain ⟨event, nowNs⟩ := logged
  cases view with
  | none =>
    cases event with
    | prepared contractHash =>
      refine h.quiet rfl rfl rfl ?_
      intro hstatus
      cases hstatus
    | _ => exact hallowed.elim
  | some row =>
    cases event with
    | prepared contractHash => exact hallowed.elim
    | idempotentReplay workerId attempt => exact h.quiet rfl rfl rfl fun hstatus => ⟨row, rfl, hstatus⟩
    | integrityFailure expectedSha256 preservedPath =>
      refine h.quiet rfl rfl rfl ?_
      intro hstatus
      cases hstatus
    | claimed attempt leaseExpiresNs workerId =>
      obtain ⟨-, rfl⟩ := hallowed
      exact h.claim leaseExpiresNs workerId nowNs
    | leaseRecovered attempt leaseExpiresNs workerId =>
      obtain ⟨hrunning, rfl, -⟩ := hallowed
      exact h.quiet rfl rfl rfl fun _ => ⟨row, rfl, hrunning⟩
    | failed error errorType =>
      refine h.quiet rfl rfl rfl ?_
      intro hstatus
      cases hstatus
    | completed attempt resultSha256 fingerprint =>
      obtain ⟨hrunning, rfl⟩ := hallowed
      exact h.complete hrunning resultSha256 fingerprint nowNs

end Numbered

theorem numbered_nil : Numbered [] none where
  claimed := rfl
  completed := List.Pairwise.nil
  reached := by simp [completedAttempts]
  running := by simp

/-- The lease an event gives: its attempt and when it runs out. -/
def EventRow.lease? (logged : EventRow) : Option (Nat × Int) :=
  match logged.event with
  | .claimed attempt leaseExpiresNs _ | .leaseRecovered attempt leaseExpiresNs _ =>
    some (attempt, leaseExpiresNs)
  | _ => none

/-- The event ends the attempt, or it takes the lease of the same attempt over
when that has run out. -/
def EventRow.EndsLease (logged : EventRow) (attempt : Nat) (leaseExpiresNs : Int) : Prop :=
  match logged.event with
  | .completed ended _ _ => ended = attempt
  | .failed _ _ => True
  | .leaseRecovered recovered _ _ => recovered = attempt ∧ leaseExpiresNs ≤ logged.createdNs
  | _ => False

theorem replayed_of_lease {view : Option OperationRow} {logged : EventRow} {attempt : Nat}
    {leaseExpiresNs : Int} (hallowed : Allowed view logged)
    (hlease : logged.lease? = some (attempt, leaseExpiresNs)) :
    ∃ row, replayed view logged = some row ∧ row.status = .running ∧ row.attempt = attempt ∧
      row.leaseExpiresNs = some leaseExpiresNs := by
  obtain ⟨event, nowNs⟩ := logged
  cases view with
  | none =>
    cases event with
    | claimed | leaseRecovered => exact hallowed.elim
    | _ => cases hlease
  | some row =>
    cases event with
    | claimed | leaseRecovered =>
      cases hlease
      exact ⟨_, rfl, rfl, rfl, rfl⟩
    | _ => cases hlease

theorem endsLease_of_allowed {row : OperationRow} {logged : EventRow}
    {leaseExpiresNs : Int} (hrunning : row.status = .running)
    (hlease : row.leaseExpiresNs = some leaseExpiresNs) (hallowed : Allowed (some row) logged) :
    logged.EndsLease row.attempt leaseExpiresNs := by
  obtain ⟨event, nowNs⟩ := logged
  cases event with
  | prepared contractHash => exact hallowed
  | idempotentReplay workerId attempt =>
    have hcompleted : row.status = .completed := hallowed.1
    rw [hrunning] at hcompleted
    cases hcompleted
  | integrityFailure expectedSha256 preservedPath =>
    have hcompleted : row.status = .completed := hallowed.1
    rw [hrunning] at hcompleted
    cases hcompleted
  | claimed attempt leaseExpiresNs workerId =>
    have hidle : row.status = .prepared ∨ row.status = .failed := hallowed.1
    rw [hrunning] at hidle
    rcases hidle with hidle | hidle <;> cases hidle
  | leaseRecovered attempt leaseExpiresNs workerId =>
    obtain ⟨-, hattempt, hexpired⟩ := hallowed
    rw [hlease] at hexpired
    exact ⟨hattempt, hexpired⟩
  | failed error errorType => trivial
  | completed attempt resultSha256 fingerprint => exact hallowed.2

namespace ServiceStore

/-- Whatever transactions workers make, with whatever arguments and clocks: the
attempts in the events are numbered from one without a gap, up to the attempt of
the operation, and no attempt is completed twice. -/
theorem attempts_numbered (events : List ServiceEvent) :
    Along (fun store => Numbered store.events store.operation) ServiceStore.step
      ServiceStore.empty events := by
  refine (told_along events).mono ?_
  intro store htold
  have hnumbered := htold.induct numbered_nil fun _ _ _ h hallowed => h.step hallowed
  cases hrow : store.operation with
  | none => rwa [hrow] at hnumbered
  | some row =>
    rw [hrow] at hnumbered
    exact
      { claimed := hnumbered.claimed
        completed := hnumbered.completed
        reached := hnumbered.reached
        running := by
          rintro _ ⟨⟩ hstatus
          exact hnumbered.running row.told rfl hstatus }

/-- The event after one that gives a lease ends its attempt or finds it run out. -/
theorem lease_respected (events : List ServiceEvent) :
    Along (fun store => ∀ before first second after attempt leaseExpiresNs,
        store.events = before ++ first :: second :: after →
          first.lease? = some (attempt, leaseExpiresNs) →
            second.EndsLease attempt leaseExpiresNs)
      ServiceStore.step ServiceStore.empty events := by
  refine (told_along events).mono ?_
  intro store htold before first second after attempt leaseExpiresNs hevents hlease
  rw [Told, hevents] at htold
  have hfirst := htold.allowed_at
  rw [List.append_cons] at htold
  have hsecond := htold.allowed_at
  obtain ⟨row, hrow, hrunning, rfl, hexpires⟩ := replayed_of_lease hfirst hlease
  rw [run_append, run_cons, run_nil, hrow] at hsecond
  exact endsLease_of_allowed hrunning hexpires hsecond

end ServiceStore

end JlensEvolve.Durable
