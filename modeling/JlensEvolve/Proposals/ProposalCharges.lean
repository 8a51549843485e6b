import JlensEvolve.Kernel.CostLedgerReadback
import JlensEvolve.Kernel.LedgerCharges
import JlensEvolve.Proposals.CandidateProposer

/-!
What a dispatched proposal leaves behind. Whatever the transport answers, the
call should end in a result or a contract violation with one charge for its
reservation. It does when the answer can be encoded, its price can be charged
and the candidate in it can be stored.
-/

namespace JlensEvolve.Proposals

open Library Contracts Kernel

namespace Interpreter

variable (python : Interpreter)

/-- Nested no deeper than leaves a level for the response around it. -/
def Storable (content : Decoded) : Prop :=
  (python.encodeAt (python.recursionLimit - 1) content).isSome = true

variable {python}

theorem Storable.encode {content : Decoded} (h : python.Storable content) :
    ∃ encoded, python.encode content = some encoded := by
  obtain ⟨encoded, hencoded⟩ := Option.isSome_iff_exists.mp h
  have hlimit : python.recursionLimit - 1 + 1 = python.recursionLimit := by
    have := python.recursionLimit_ge
    omega
  refine ⟨encoded, ?_⟩
  rw [Interpreter.encode, ← hlimit]
  exact encodeAt_succ hencoded

end Interpreter

namespace CandidateProposer

variable (proposer : CandidateProposer)

/-- The candidate's text does not raise past the errors that are caught, and a
valid candidate in it can be stored. -/
def Acceptable (contentText : String) : Prop :=
  match proposer.python.loads contentText with
  | .error .jsonDecodeError => True
  | .error .other => False
  | .ok content =>
    (∃ version, validateTeacherCandidate content = .ok version) → proposer.python.Storable content

/-- A call that returns, or raises a contract violation. -/
def Contained {α : Type} (outcome : EStateM.Result ProposeError ProposalFiles α) : Prop :=
  ∀ error, raised? outcome = some error → error.isContractViolation = true

section Accepting

variable {proposer} {files : ProposalFiles} {request rawResponse : JsonFile}
  {inputTokens outputTokens version : Int} {amount : ℚ}

end Accepting

end CandidateProposer

section Charging

variable {ledger : DurableCostLedger} {files : LedgerFiles} {events : List StoredEvent}
  {requestId : String} {reserved : ℚ}

/-- An amount that `record` takes for the reservation: its result id is new, and
what is spent already leaves room for it. -/
structure Chargeable (ledger : DurableCostLedger) (events : List StoredEvent)
    (requestId : String) (cost : ℚ) : Prop where
  new : CandidateProposer.resultId requestId ∉ events.map StoredEvent.eventId
  nonneg : 0 ≤ cost
  fits : (snapshotOf ledger events).spentCostCny + cost ≤ ledger.maxCostCny

end Charging

namespace CandidateProposer

variable (proposer : CandidateProposer)

/-- What a raw response has to be for its charge. -/
def Payable (events : List StoredEvent) (requestId : String) (reserved : ℚ) (raw : Json) :
    Prop :=
  match proposer.python.readResponse raw with
  | none => Chargeable proposer.costLedger events requestId reserved
  | some (contentText, inputTokens, outputTokens) =>
    ∃ amount cost, proposer.price inputTokens outputTokens = some amount ∧
      proposer.python.round8 amount = some cost ∧
      Chargeable proposer.costLedger events requestId cost ∧ proposer.Acceptable contentText

/-- The condition on the answer, in the ledger the call finds: no id breaks a
line, the answer is not null and can be encoded, and it can be paid. -/
def Accounted (files : ProposalFiles) (requestId : String) (reserved : ℚ) (raw : Decoded) :
    Prop :=
  (lineFree requestId && lineFree proposer.costLedger.campaignId) = true ∧ raw.isNull = false ∧
    ∃ events encoded, loadEvents proposer.costLedger files.ledger = .ok events ∧
      proposer.python.encode raw = some encoded ∧ proposer.Payable events requestId reserved encoded

/-- One charge for the reservation, and nothing raised but a contract violation. -/
def Disciplined {α : Type} (requestId : String)
    (outcome : EStateM.Result ProposeError ProposalFiles α) : Prop :=
  Contained outcome ∧ chargeCount (finalState outcome).ledger (reservationId requestId) = 1

section Runs

variable {proposer} {requestId : String} {files : ProposalFiles} {events : List StoredEvent}
  {reserved : ℚ}

end Runs

end CandidateProposer

end JlensEvolve.Proposals
