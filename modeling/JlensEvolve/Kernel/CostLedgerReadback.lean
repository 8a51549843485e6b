import JlensEvolve.Kernel.CostLedgerRuns

/-!
What `events()` gives back after a call has written. The encoder keeps every
character above ASCII and the decoder breaks its text at every Unicode line
boundary, so the event comes back exactly when its ids break no line and the
replay of the reader has room for it.
-/

namespace JlensEvolve.Kernel

open Library Contracts

/-- After a call has returned, `events()` gives the events stored before it and,
where the call wrote, exactly the event it wrote. -/
def ReadsBack (ledger : DurableCostLedger) (files : LedgerFiles) (call : LedgerCall)
    (written : Bool) (after : LedgerFiles) : Prop :=
  ∃ before final, loadEvents ledger files = .ok before ∧
    (events ledger).run after = .ok (before.map StoredEvent.raw ++
      if written then [(call.event ledger).stored before] else []) final

/-- A call whose event is not in the log yet writes ids that break no line and
no overcommitting charge. -/
def LedgerCall.WritesReadably (ledger : DurableCostLedger) (files : LedgerFiles)
    (call : LedgerCall) : Prop :=
  ∀ before, loadEvents ledger files = .ok before →
    (call.event ledger).eventId ∉ before.map StoredEvent.eventId →
      (call.event ledger).lineFree = true ∧ ¬ Overcommits ledger files call

section Call

variable {ledger : DurableCostLedger} {files : LedgerFiles} {call : LedgerCall}
  {before : List StoredEvent}

end Call

theorem tenUnitLedger_readable :
    Readable tenUnitLedger [openEvent tenUnitLedger] (openedFiles tenUnitLedger) :=
  openedFiles_readable tenUnitLedger (by decide)

theorem reserve_admitted (reservationId : String) (hid : isText reservationId = true)
    (hnew : reservationId ≠ "ledger-open") :
    (LedgerCall.reserve reservationId 5 1).Admitted tenUnitLedger
      (chain [openEvent tenUnitLedger]) := by
  refine ⟨⟨hid, rfl, by norm_num, by norm_num⟩, ?_, ?_⟩
  · rw [chain_eventIds]
    simpa [LedgerCall.event, openEvent] using hnew
  · apply (validateReservation_ok_iff tenUnitLedger_readable.validateHeader 5 1).mpr
    simp only [snapshotOf, outstandingOf, reservationsOf_chain, chargesOf_chain]
    decide +kernel

end JlensEvolve.Kernel
