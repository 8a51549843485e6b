import JlensEvolve.Kernel.CostLedgerClosure

/-!
The two calls that write to a ledger, what their own checks let through, and
what a call that passes them leaves to the replay of the next reader.
-/

namespace JlensEvolve.Kernel

open Library Contracts

inductive LedgerCall where
  | reserve (reservationId : String) (cost : ℚ) (calls : Int)
  | record (reservationId resultId : String) (cost : ℚ) (calls : Int)

def LedgerCall.apply (ledger : DurableCostLedger) : LedgerCall → LedgerM Bool
  | .reserve reservationId cost calls => Kernel.reserve ledger reservationId cost calls
  | .record reservationId resultId cost calls =>
    Kernel.record ledger reservationId resultId cost calls

def LedgerCall.event (ledger : DurableCostLedger) : LedgerCall → Event
  | .reserve reservationId cost calls =>
    ⟨reservationId, ledger.campaignId, .reservation cost calls⟩
  | .record reservationId resultId cost calls =>
    ⟨resultId, ledger.campaignId, .charge reservationId cost calls⟩

def LedgerCall.lineFree : LedgerCall → Bool
  | .reserve reservationId _ _ => Library.lineFree reservationId
  | .record reservationId resultId _ _ =>
    Library.lineFree reservationId && Library.lineFree resultId

theorem LedgerCall.event_lineFree (ledger : DurableCostLedger) (call : LedgerCall) :
    (call.event ledger).lineFree = (Library.lineFree ledger.campaignId && call.lineFree) := by
  rw [Bool.eq_iff_iff]
  cases call with
  | reserve reservationId cost calls =>
    simp [LedgerCall.event, Event.lineFree, LedgerCall.lineFree, and_comm]
  | record reservationId resultId cost calls =>
    simp [LedgerCall.event, Event.lineFree, LedgerCall.lineFree, and_comm, and_assoc]

/-- The check a call makes against the events read under its lease. -/
def LedgerCall.validate (ledger : DurableCostLedger) :
    LedgerCall → List StoredEvent → Except LedgerError Unit
  | .reserve _ cost calls => validateReservation ledger cost calls
  | .record reservationId _ cost calls => validateCharge ledger reservationId cost calls

/-- The errors that say something about the call and not about the log. -/
def LedgerError.isIntegrity : LedgerError → Bool
  | .ledgerIntegrity _ => true
  | _ => false

theorem validateEventId_cases (value field : String) :
    (isText value = true ∧ validateEventId value field = .ok ()) ∨
      (isText value = false ∧
        ∃ e, e.isIntegrity = false ∧ validateEventId value field = .error e) := by
  cases h : isText value
  · exact Or.inr ⟨rfl, _, rfl, by simp only [validateEventId, h]; rfl⟩
  · exact Or.inl ⟨rfl, by simp [validateEventId, h]⟩

theorem validateAmount_cases (value : ℚ) (field : String) :
    (0 ≤ value ∧ validateAmount value field = .ok ()) ∨
      (¬ 0 ≤ value ∧ ∃ e, e.isIntegrity = false ∧ validateAmount value field = .error e) := by
  by_cases h : value < 0
  · exact Or.inr ⟨not_le.mpr h, _, rfl, by simp only [validateAmount, h, if_true]; rfl⟩
  · exact Or.inl ⟨not_lt.mp h, by simp [validateAmount, h]⟩

theorem validateCalls_cases (value : Int) (field : String) :
    (0 ≤ value ∧ validateCalls value field = .ok ()) ∨
      (¬ 0 ≤ value ∧ ∃ e, e.isIntegrity = false ∧ validateCalls value field = .error e) := by
  by_cases h : value < 0
  · exact Or.inr ⟨not_le.mpr h, _, rfl, by simp only [validateCalls, h, if_true]; rfl⟩
  · exact Or.inl ⟨not_lt.mp h, by simp [validateCalls, h]⟩

/-- The arguments are checked before the files are touched: a call either goes
on to append its event, which is then admissible, or raises there. -/
theorem run_apply_cases (ledger : DurableCostLedger) (call : LedgerCall) (files : LedgerFiles) :
    ((call.event ledger).Admissible ledger ∧ (call.apply ledger).run files =
        (appendMutation ledger (call.event ledger) (call.validate ledger)).run files) ∨
      (¬ (call.event ledger).Admissible ledger ∧
        ∃ e, e.isIntegrity = false ∧ (call.apply ledger).run files = .error e files) := by
  cases call with
  | reserve reservationId cost calls =>
    simp only [LedgerCall.apply, reserve, EStateM.run_bind]
    rcases validateEventId_cases reservationId "reservation_id" with
      ⟨hid, hrun⟩ | ⟨hno, e, he, hrun⟩
    · rcases validateAmount_cases cost "reservation cost" with
        ⟨hcost, hrun₁⟩ | ⟨hno, e, he, hrun₁⟩
      · rcases validateCalls_cases calls "reservation model_calls" with
          ⟨hcalls, hrun₂⟩ | ⟨hno, e, he, hrun₂⟩
        · refine Or.inl ⟨⟨hid, rfl, hcost, hcalls⟩, ?_⟩
          simp [hrun, hrun₁, hrun₂, LedgerCall.event, LedgerCall.validate]
        · exact Or.inr ⟨fun h => hno h.body.2, e, he, by simp [hrun, hrun₁, hrun₂]⟩
      · exact Or.inr ⟨fun h => hno h.body.1, e, he, by simp [hrun, hrun₁]⟩
    · refine Or.inr ⟨fun h => ?_, e, he, by simp [hrun]⟩
      exact Bool.false_ne_true (hno.symm.trans h.eventId)
  | record reservationId resultId cost calls =>
    simp only [LedgerCall.apply, record, EStateM.run_bind]
    rcases validateEventId_cases reservationId "reservation_id" with
      ⟨hid, hrun⟩ | ⟨hno, e, he, hrun⟩
    · rcases validateEventId_cases resultId "result_id" with
        ⟨hres, hrun₁⟩ | ⟨hno, e, he, hrun₁⟩
      · rcases validateAmount_cases cost "actual cost" with
          ⟨hcost, hrun₂⟩ | ⟨hno, e, he, hrun₂⟩
        · rcases validateCalls_cases calls "actual model_calls" with
            ⟨hcalls, hrun₃⟩ | ⟨hno, e, he, hrun₃⟩
          · refine Or.inl ⟨⟨hres, rfl, hid, hcost, hcalls⟩, ?_⟩
            simp [hrun, hrun₁, hrun₂, hrun₃, LedgerCall.event, LedgerCall.validate]
          · exact Or.inr ⟨fun h => hno h.body.2.2, e, he, by simp [hrun, hrun₁, hrun₂, hrun₃]⟩
        · exact Or.inr ⟨fun h => hno h.body.2.1, e, he, by simp [hrun, hrun₁, hrun₂]⟩
      · refine Or.inr ⟨fun h => ?_, e, he, by simp [hrun, hrun₁]⟩
        exact Bool.false_ne_true (hno.symm.trans h.eventId)
    · refine Or.inr ⟨fun h => ?_, e, he, by simp [hrun]⟩
      exact Bool.false_ne_true (hno.symm.trans h.body.1)

/-- Spent and outstanding amounts together stay inside the authorization. -/
def WithinAuthorization (ledger : DurableCostLedger) (events : List StoredEvent) : Prop :=
  (snapshotOf ledger events).spentCostCny + (snapshotOf ledger events).reservedCostCny ≤
      ledger.maxCostCny ∧
    (snapshotOf ledger events).spentModelCalls + (snapshotOf ledger events).reservedModelCalls ≤
      ledger.maxModelCalls

/-- A log that grows by one accountable event is accepted exactly when its
totals stay inside the authorization. -/
theorem replay_grown_iff {ledger : DurableCostLedger} {events : List StoredEvent}
    {replay next : Replay} {event : StoredEvent}
    (hnodup : (events.map StoredEvent.eventId).Nodup)
    (hreplay : validateReplay ledger events = .ok replay)
    (hnew : event.eventId ∉ events.map StoredEvent.eventId)
    (haccount : replay.account (events.length + 1) event = .ok next) :
    (∃ last, validateReplay ledger (events ++ [event]) = .ok last) ↔
      WithinAuthorization ledger (events ++ [event]) := by
  have hdescribes := (validateReplay_describes hnodup hreplay).account hnew haccount
  have hcost : next.reservedCost = (snapshotOf ledger (events ++ [event])).reservedCostCny := by
    simp only [Replay.reservedCost, hdescribes.outstanding, snapshotOf]
  have hcalls : next.reservedCalls =
      (snapshotOf ledger (events ++ [event])).reservedModelCalls := by
    simp only [Replay.reservedCalls, hdescribes.outstanding, snapshotOf]
  rw [validateReplay_append event hreplay, haccount]
  simp only [Except.bind, withinAuthorization_ok_iff, exists_eq_left, WithinAuthorization, hcost,
    hcalls, hdescribes.spentCost, hdescribes.spentCalls]
  simp only [snapshotOf]

theorem validateReplay_header {ledger : DurableCostLedger} {events : List StoredEvent}
    {replay : Replay} (h : validateReplay ledger events = .ok replay) :
    validateHeader ledger events = .ok () := by
  unfold validateReplay at h
  cases hheader : validateHeader ledger events with
  | error e => simp [hheader] at h
  | ok _ => rfl

theorem validateReservation_ok_iff {ledger : DurableCostLedger} {events : List StoredEvent}
    (hheader : validateHeader ledger events = .ok ()) (cost : ℚ) (calls : Int) :
    validateReservation ledger cost calls events = .ok () ↔
      (snapshotOf ledger events).spentCostCny + (snapshotOf ledger events).reservedCostCny + cost ≤
          ledger.maxCostCny ∧
        (snapshotOf ledger events).spentModelCalls +
            (snapshotOf ledger events).reservedModelCalls + calls ≤ ledger.maxModelCalls := by
  unfold validateReservation
  rw [checkedSnapshot, hheader]
  simp only [Except.map, bind, Except.bind]
  split
  · rename_i hcost
    simp [throw, throwThe, MonadExceptOf.throw, not_le.mpr hcost]
  · rename_i hcost
    split
    · rename_i hcalls
      simp [throw, throwThe, MonadExceptOf.throw, not_le.mpr hcalls]
    · rename_i hcalls
      simp [pure, Except.pure, not_lt.mp hcost, not_lt.mp hcalls]

theorem reservation_accepted {ledger : DurableCostLedger} {events : List StoredEvent}
    {replay : Replay} (event : StoredEvent) {cost : ℚ} {calls : Int}
    (hnodup : (events.map StoredEvent.eventId).Nodup)
    (hreplay : validateReplay ledger events = .ok replay)
    (hnew : event.eventId ∉ events.map StoredEvent.eventId)
    (hbody : event.body = .reservation cost calls)
    (hadmitted : validateReservation ledger cost calls events = .ok ()) :
    ∃ last, validateReplay ledger (events ++ [event]) = .ok last := by
  have hdescribes := validateReplay_describes hnodup hreplay
  have haccount : replay.account (events.length + 1) event =
      .ok { replay with
        reservations := replay.reservations.set event.eventId (cost, calls) } := by
    simp [Replay.account, hbody]
  rw [replay_grown_iff hnodup hreplay hnew haccount]
  have hchg : chargesOf (events ++ [event]) = chargesOf events := by
    rw [chargesOf_append]
    simp [chargeOf?, hbody]
  have hout := outstandingOf_append_reservation hdescribes hnew hbody
  obtain ⟨hcost, hcalls⟩ :=
    (validateReservation_ok_iff (validateReplay_header hreplay) cost calls).mp hadmitted
  simp only [snapshotOf] at hcost hcalls
  simp only [WithinAuthorization, snapshotOf, hchg, hout, List.map_append, List.sum_append,
    List.map_cons, List.map_nil, List.sum_cons, List.sum_nil, add_zero]
  exact ⟨by linarith, by linarith⟩

theorem mem_outstandingOf_iff (events : List StoredEvent) (reservationId : String) :
    (∃ amounts, (reservationId, amounts) ∈ outstandingOf events) ↔
      reservationId ∈ (reservationsOf events).map Prod.fst ∧
        reservationId ∉ (chargesOf events).map Prod.fst := by
  simp only [outstandingOf, List.mem_filter, List.mem_map, Prod.exists, exists_and_right,
    exists_eq_right, decide_not, Bool.not_eq_eq_eq_not, Bool.not_true, decide_eq_false_iff_not]

theorem validateCharge_ok_iff {ledger : DurableCostLedger} {events : List StoredEvent}
    (hheader : validateHeader ledger events = .ok ()) (reservationId : String) (cost : ℚ)
    (calls : Int) :
    validateCharge ledger reservationId cost calls events = .ok () ↔
      (∃ amounts, (reservationId, amounts) ∈ outstandingOf events) ∧
        (snapshotOf ledger events).spentCostCny + cost ≤ ledger.maxCostCny ∧
        (snapshotOf ledger events).spentModelCalls + calls ≤ ledger.maxModelCalls := by
  have hknown : (reservationsOf events).all (fun entry => entry.1 ≠ reservationId) = true ↔
      reservationId ∉ (reservationsOf events).map Prod.fst := by
    simp only [List.all_eq_true, decide_eq_true_eq, List.mem_map, not_exists, not_and]
  have hcharged : (chargesOf events).any (fun entry => entry.1 = reservationId) = true ↔
      reservationId ∈ (chargesOf events).map Prod.fst := by
    simp only [List.any_eq_true, decide_eq_true_eq, List.mem_map]
  rw [mem_outstandingOf_iff]
  unfold validateCharge
  rw [checkedSnapshot, hheader]
  simp only [Except.map, bind, Except.bind, hknown, hcharged]
  by_cases hopen : reservationId ∈ (reservationsOf events).map Prod.fst
  · by_cases hclosed : reservationId ∈ (chargesOf events).map Prod.fst
    · simp [throw, throwThe, MonadExceptOf.throw, hopen, hclosed]
    by_cases hcost : (snapshotOf ledger events).spentCostCny + cost > ledger.maxCostCny
    · simp [throw, throwThe, MonadExceptOf.throw, hopen, hclosed, hcost, not_le.mpr hcost]
    by_cases hcalls : (snapshotOf ledger events).spentModelCalls + calls > ledger.maxModelCalls
    · simp [throw, throwThe, MonadExceptOf.throw, hopen, hclosed, hcost, hcalls,
        not_le.mpr hcalls]
    · simp [hopen, hclosed, hcost, hcalls, pure, Except.pure, not_lt.mp hcost,
        not_lt.mp hcalls]
  · simp [throw, throwThe, MonadExceptOf.throw, hopen]

/-- A charge is accepted by the next read exactly when the actual amounts fit
beside everything that stays reserved. -/
theorem charge_accepted_iff {ledger : DurableCostLedger} {events : List StoredEvent}
    {replay : Replay} (event : StoredEvent) {reservationId : String} {cost : ℚ} {calls : Int}
    {amounts : ℚ × Int} (hnodup : (events.map StoredEvent.eventId).Nodup)
    (hreplay : validateReplay ledger events = .ok replay)
    (hnew : event.eventId ∉ events.map StoredEvent.eventId)
    (hbody : event.body = .charge reservationId cost calls)
    (hmem : (reservationId, amounts) ∈ outstandingOf events) :
    (∃ last, validateReplay ledger (events ++ [event]) = .ok last) ↔
      (snapshotOf ledger events).spentCostCny + cost +
            ((snapshotOf ledger events).reservedCostCny - amounts.1) ≤ ledger.maxCostCny ∧
        (snapshotOf ledger events).spentModelCalls + calls +
            ((snapshotOf ledger events).reservedModelCalls - amounts.2) ≤
          ledger.maxModelCalls := by
  have hdescribes := validateReplay_describes hnodup hreplay
  obtain ⟨hknown, hopen⟩ := (mem_outstandingOf_iff events reservationId).mp ⟨amounts, hmem⟩
  have hpresent : (replay.reservations.get? reservationId).isSome = true := by
    rw [← Dict.mem_keys_iff, Dict.keys, hdescribes.reservations]
    exact hknown
  have hfree : reservationId ∉ replay.chargedReservations := by
    rw [hdescribes.charged]
    exact hopen
  have haccount : replay.account (events.length + 1) event =
      .ok { replay with
        chargedReservations := reservationId :: replay.chargedReservations
        spentCost := replay.spentCost + cost
        spentCalls := replay.spentCalls + calls } := by
    simp [Replay.account, hbody, hfree, Option.isSome_iff_ne_none.mp hpresent]
  obtain ⟨hcost, hcalls⟩ := outstandingOf_append_charge hdescribes hbody hmem
  have hcharges : chargesOf (events ++ [event]) =
      chargesOf events ++ [(reservationId, cost, calls)] := by
    rw [chargesOf_append]
    simp [chargeOf?, hbody]
  rw [replay_grown_iff hnodup hreplay hnew haccount]
  simp only [WithinAuthorization, snapshotOf, hcharges, List.map_append, List.sum_append,
    List.map_cons, List.map_nil, List.sum_cons, List.sum_nil, add_zero]
  constructor
  · rintro ⟨hc, hn⟩
    exact ⟨by linarith, by linarith⟩
  · rintro ⟨hc, hn⟩
    exact ⟨by linarith, by linarith⟩

/-- A call that passes every check of its own. -/
structure LedgerCall.Admitted (ledger : DurableCostLedger) (events : List StoredEvent)
    (call : LedgerCall) : Prop where
  admissible : (call.event ledger).Admissible ledger
  new : (call.event ledger).eventId ∉ events.map StoredEvent.eventId
  validate : call.validate ledger events = .ok ()

/-- A charge that `record` admits although the actual amounts do not fit beside
what the other outstanding reservations still hold. -/
def Overcommits (ledger : DurableCostLedger) (files : LedgerFiles) : LedgerCall → Prop
  | .reserve _ _ _ => False
  | .record reservationId resultId cost calls =>
    ∃ events amounts, loadEvents ledger files = .ok events ∧
      isText reservationId = true ∧ isText resultId = true ∧ 0 ≤ cost ∧ 0 ≤ calls ∧
      resultId ∉ events.map StoredEvent.eventId ∧
      (reservationId, amounts) ∈ outstandingOf events ∧
      (snapshotOf ledger events).spentCostCny + cost ≤ ledger.maxCostCny ∧
      (snapshotOf ledger events).spentModelCalls + calls ≤ ledger.maxModelCalls ∧
      (ledger.maxCostCny < (snapshotOf ledger events).spentCostCny + cost +
          ((snapshotOf ledger events).reservedCostCny - amounts.1) ∨
        ledger.maxModelCalls < (snapshotOf ledger events).spentModelCalls + calls +
          ((snapshotOf ledger events).reservedModelCalls - amounts.2))

theorem validate_error_not_integrity {ledger : DurableCostLedger} {events : List StoredEvent}
    {e : LedgerError} (hheader : validateHeader ledger events = .ok ()) (call : LedgerCall)
    (h : call.validate ledger events = .error e) : e.isIntegrity = false := by
  cases call with
  | reserve reservationId cost calls =>
    simp only [LedgerCall.validate, validateReservation, checkedSnapshot, hheader, Except.map,
      bind, Except.bind, throw, throwThe, MonadExceptOf.throw, pure, Except.pure] at h
    split at h
    · cases h
      rfl
    · split at h <;> cases h
      rfl
  | record reservationId resultId cost calls =>
    simp only [LedgerCall.validate, validateCharge, checkedSnapshot, hheader, Except.map,
      bind, Except.bind, throw, throwThe, MonadExceptOf.throw, pure, Except.pure] at h
    by_cases hunknown : (reservationsOf events).all (fun entry => entry.1 ≠ reservationId) = true
    · rw [if_pos hunknown] at h
      cases h
      rfl
    rw [if_neg hunknown] at h
    by_cases hclosed : (chargesOf events).any (fun entry => entry.1 = reservationId) = true
    · simp only [if_pos hclosed] at h
      cases h
      rfl
    simp only [if_neg hclosed] at h
    split at h
    · cases h
      rfl
    · split at h <;> cases h
      rfl

end JlensEvolve.Kernel
