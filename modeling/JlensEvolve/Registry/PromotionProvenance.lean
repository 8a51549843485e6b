import JlensEvolve.Registry.CapabilityAuthority

/-!
Where a stored capability comes from. When nobody but `decide` writes a line that
a user reads as an approved decision, a stored capability leads back to a call of
`decide` on its candidate, with the evidence that an approval asks for.
-/

namespace JlensEvolve.Registry

open Library Contracts Evidence Governance

/-- The decision that the call makes, before the log is touched. -/
def DecideCall.decision (call : DecideCall) : Except GovernanceError PromotionDecision :=
  call.service.decision call.candidate call.evidence call.rows call.humanApproval call.decidedAt

/-- A user reads the line as an approved decision, with a valid signature. -/
def ReadsApproved (users : Nat → RegistryUser) (line : Option Json) : Prop :=
  ∃ user log number decision, (users user).registry.decisionLog = .promotionLog log ∧
    log.readLine number line = .ok decision ∧ decision.gateDecision.text = "approved"

/-- A call of `decide` in the run made the line. -/
def DecidedLine (events : List AssetEvent) (line : Option Json) : Prop :=
  ∃ path call decision, AssetEvent.decide path call ∈ events ∧ call.decision = .ok decision ∧
    line = some decision.logPayload

section Run

variable {users : Nat → RegistryUser} {files start : AssetFiles} {events : List AssetEvent}

/-- The lines that a user reads as approved decisions come from calls of the run. -/
def DecidedLines (users : Nat → RegistryUser) (events : List AssetEvent)
    (lines : List (Option Json)) : Prop :=
  ∀ line ∈ lines, ReadsApproved users line → DecidedLine events line

theorem DecidedLines.append {lines : List (Option Json)} {decision : PromotionDecision}
    (h : DecidedLines users events lines)
    (hdecision : ReadsApproved users (some decision.logPayload) →
      DecidedLine events (some decision.logPayload)) :
    DecidedLines users events (lines ++ AppendLog.written decision.logPayload) := by
  intro line hline happroved
  rcases List.mem_append.mp hline with hline | hline
  · exact h line hline happroved
  · rcases AppendLog.mem_written hline with rfl | rfl
    · obtain ⟨-, log, number, decision, -, hread, -⟩ := happroved
      obtain ⟨payload, hpayload, -⟩ := readLine_eq_ok hread
      cases hpayload
    · exact hdecision happroved

end Run

namespace PromotedCandidate

end PromotedCandidate

end JlensEvolve.Registry
