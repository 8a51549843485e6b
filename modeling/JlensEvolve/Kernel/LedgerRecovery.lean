import JlensEvolve.Kernel.CostLedgerReadback
import JlensEvolve.Kernel.LedgerSolo

/-!
A process that is killed between its line and its head. Whatever the processes
have done before, the head of a ledger that exists is one the ledger has written
itself, so it is one event behind the log and the next reader repairs it; only
the opening event has no head to repair.
-/

namespace JlensEvolve.Kernel

open Library Contracts

/-- The append is no opening event, its ids break no line, and it is no
overcommitting charge. -/
def Purpose.Recoverable (ledger : DurableCostLedger) (files : LedgerFiles) : Purpose → Prop
  | .mutate call _ => (call.event ledger).lineFree = true ∧ ¬ Overcommits ledger files call
  | _ => False

/-- A head exists only beside a log, and it is one that the ledger writes. -/
structure LedgerFiles.OwnHead (files : LedgerFiles) : Prop where
  absent : files.log = none → files.head = none
  written : ∀ head, files.head = some head → ∃ ledger events, events ≠ [] ∧
    head = headFile ledger events

section Step

variable {ledger : DurableCostLedger} {files : LedgerFiles}

theorem LedgerFiles.OwnHead.of_eq {after : LedgerFiles} (h : files.OwnHead)
    (hlog : after.log = none → files.log = none) (hhead : after.head = files.head) :
    after.OwnHead := by
  constructor
  · intro habsent
    rw [hhead]
    exact h.absent (hlog habsent)
  · rw [hhead]
    exact h.written

end Step

section Run

variable {ledgers : Nat → DurableCostLedger}

end Run

section Reopen

variable {ledger : DurableCostLedger} {files : LedgerFiles} {before : List StoredEvent}

end Reopen

section Stop

variable {ledgers : Nat → DurableCostLedger} {process : Nat} {purpose : Purpose} {event : Event}
  {before : List StoredEvent}

end Stop

def advances (steps : Nat) : List SystemEvent :=
  List.replicate steps (.act 0 .advance)

def opening (steps : Nat) : List SystemEvent :=
  .act 0 (.begin .openLedger) :: advances steps

theorem solo_appending {ledger : DurableCostLedger} {history : List Event} {files : LedgerFiles}
    (h : Readable ledger history files) {call : LedgerCall}
    (hadmitted : call.Admitted ledger (chain history)) (dispatched : List String) :
    (soloStep ledger)^[3] (files, .acquiring (.mutate call false), dispatched) =
      ({ files with lease := true },
        .appending (.mutate call false) (call.event ledger) (chain history), dispatched) := by
  have hload : loadEvents ledger { files with lease := true } = .ok (chain history) :=
    loadEvents_ok_iff.mpr (loadEvents_ok_iff.mp h.loadEvents)
  have habsent : (chain history).find? (fun item => item.eventId = (call.event ledger).eventId) =
      none := by
    apply List.find?_eq_none.mpr
    intro item hitem hid
    exact hadmitted.new (List.mem_map.mpr ⟨item, hitem, by simpa using hid⟩)
  have hproceed : (Purpose.mutate call false).proceed ledger (chain history) =
      .appending (.mutate call false) (call.event ledger) (chain history) := by
    simp only [Purpose.proceed, h.validateHeader, habsent, hadmitted.validate]
  have hhead := h.inspectHead
  simp only [Function.iterate_succ_apply, Function.iterate_zero, id_eq, soloStep, Stage.turn,
    h.lease, hload, hhead, hproceed, Bool.false_eq_true, if_false, Option.toList_none,
    List.nil_append]

end JlensEvolve.Kernel
