import JlensEvolve.Kernel.LedgerDispatch
import JlensEvolve.Library.Hoare

/-!
The charge lines in a ledger's log, and what one call does to them. A call that
is admitted writes one line; every other call leaves the log as it is. A
reservation that has just been written has no charge line yet.
-/

namespace JlensEvolve.Kernel

open Library Contracts

/-- A line that charges the reservation, whatever else it holds. -/
def isChargeLine (reservationId : String) : Option Json → Bool
  | some (.obj fields) =>
    payloadGet fields "kind" = .str "charge" &&
      payloadGet fields "reservation_id" = .str reservationId
  | _ => false

def chargeCount (files : LedgerFiles) (reservationId : String) : Nat :=
  files.lines.countP (isChargeLine reservationId)

section Calls

variable {ledger : DurableCostLedger}

theorem field?_of_payloadGet {fields : List (String × Json)} {key value : String}
    (h : payloadGet fields key = .str value) : Json.field? fields key = some (.str value) := by
  unfold payloadGet at h
  cases hfield : Json.field? fields key with
  | none =>
    rw [hfield] at h
    cases h
  | some found =>
    rw [hfield] at h
    rw [Option.getD_some] at h
    rw [h]

end Calls

end JlensEvolve.Kernel
