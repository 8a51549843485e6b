import JlensEvolve.Contracts
import JlensEvolve.Library.Effect
import JlensEvolve.Library.Links
import JlensEvolve.Library.Transition

/-!
`ChangeSetRegistry` of `continuous_ab.py`. The registry file is replaced as a
whole by every call that returns, so its payload is the state.
-/

namespace JlensEvolve.ContinuousAB

open Library

def requireSha256 (value field : String) : Except String Unit :=
  require (Sha256.isSha256 value = true) (field ++ " must be a lowercase SHA-256")

structure ChangeSetCadence where
  interval : Int
  positive : 1 ≤ interval

def ChangeSetCadence.canPropose (cadence : ChangeSetCadence)
    (completedRounds lastProposalRound : Int) : Except String Bool := do
  require (0 ≤ completedRounds ∧ 0 ≤ lastProposalRound) "round counters cannot be negative"
  pure (decide (lastProposalRound + cadence.interval ≤ completedRounds))

/-- `cost_ratio` is infinite where it is `none`. -/
structure PromotionDecision where
  approved : Bool
  wins : Nat
  losses : Nat
  ties : Nat
  oneSidedSignP : ℚ
  qualityUplift : ℚ
  costRatio : Option ℚ
  checks : List (String × Bool)
deriving DecidableEq

structure PatchFile where
  path : String
  content : List Nat
deriving DecidableEq

def PatchFile.evidence (file : PatchFile) : Json :=
  .obj [("path", .str file.path), ("sha256", .str (Sha256.hexdigest file.content)),
    ("bytes", .int file.content.length)]

inductive ProposalStatus where
  | proposed
  | promoted
  | rejected
  | rolledBack
deriving DecidableEq, Repr

structure Proposal where
  proposalId : String
  completedRounds : Int
  parentAgentSha256 : String
  candidateAgentSha256 : String
  patchEvidence : Json
  status : ProposalStatus
  promotionDecision : Option PromotionDecision
  rollbackReason : Option String
deriving DecidableEq

namespace Proposal

/-- The fields that a decision assigns. -/
def decided (decision : PromotionDecision) (status : ProposalStatus) (proposal : Proposal) :
    Proposal :=
  { proposal with promotionDecision := some decision, status }

/-- The fields that a rollback assigns. -/
def rolledBack (reason : String) (proposal : Proposal) : Proposal :=
  { proposal with status := .rolledBack, rollbackReason := some reason }

@[simp] theorem proposalId_decided (decision : PromotionDecision) (status : ProposalStatus)
    (proposal : Proposal) : (proposal.decided decision status).proposalId = proposal.proposalId :=
  rfl

@[simp] theorem status_decided (decision : PromotionDecision) (status : ProposalStatus)
    (proposal : Proposal) : (proposal.decided decision status).status = status := rfl

@[simp] theorem proposalId_rolledBack (reason : String) (proposal : Proposal) :
    (proposal.rolledBack reason).proposalId = proposal.proposalId := rfl

@[simp] theorem status_rolledBack (reason : String) (proposal : Proposal) :
    (proposal.rolledBack reason).status = .rolledBack := rfl

end Proposal

inductive RegistryEvent where
  | registryCreated (activeAgentSha256 : String)
  | proposed (proposalId : String)
  | promoted (proposalId : String)
  | rejected (proposalId : String)
  | rolledBack (proposalId reason : String)
deriving DecidableEq

structure ChangeSetRegistry where
  initialAgentSha256 : String
  activeAgentSha256 : String
  cadence : ChangeSetCadence
  lastProposalRound : Int
  proposals : List Proposal
  events : List RegistryEvent

namespace ChangeSetRegistry

/-- `create`, where no registry file exists. -/
def create (initialAgentSha256 : String) (cadence : ChangeSetCadence) :
    Except String ChangeSetRegistry := do
  requireSha256 initialAgentSha256 "initial_agent_sha256"
  pure {
    initialAgentSha256
    activeAgentSha256 := initialAgentSha256
    cadence
    lastProposalRound := 0
    proposals := []
    events := [.registryCreated initialAgentSha256] }

def proposal (registry : ChangeSetRegistry) (proposalId : String) : Except String Proposal :=
  match registry.proposals.filter (fun proposal => proposal.proposalId = proposalId) with
  | [proposal] => .ok proposal
  | _ => .error ("unknown ChangeSet proposal: " ++ proposalId)

/-- Assignments to the fields of the proposal with this id. -/
def amend (registry : ChangeSetRegistry) (proposalId : String) (change : Proposal → Proposal) :
    List Proposal :=
  registry.proposals.map fun proposal =>
    if proposal.proposalId = proposalId then change proposal else proposal

def proposalIdentity (completedRounds : Int) (parentAgentSha256 candidateAgentSha256 : String)
    (patchEvidence : Json) : Json :=
  .obj [("completed_rounds", .int completedRounds),
    ("parent_agent_sha256", .str parentAgentSha256),
    ("candidate_agent_sha256", .str candidateAgentSha256), ("patch_evidence", patchEvidence)]

def newProposal (registry : ChangeSetRegistry) (completedRounds : Int)
    (candidateAgentSha256 : String) (forward rollback : PatchFile) : Proposal :=
  let patchEvidence := Json.obj [("forward", forward.evidence), ("rollback", rollback.evidence)]
  { proposalId := (proposalIdentity completedRounds registry.activeAgentSha256
      candidateAgentSha256 patchEvidence).contentSha256
    completedRounds
    parentAgentSha256 := registry.activeAgentSha256
    candidateAgentSha256
    patchEvidence
    status := .proposed
    promotionDecision := none
    rollbackReason := none }

/-- A patch path that is no file is `none`. -/
def propose (registry : ChangeSetRegistry) (completedRounds : Int) (candidateAgentSha256 : String)
    (forwardPatch rollbackPatch : Option PatchFile) : Except String ChangeSetRegistry := do
  requireSha256 candidateAgentSha256 "candidate_agent_sha256"
  let allowed ← registry.cadence.canPropose completedRounds registry.lastProposalRound
  require (allowed = true ∨ completedRounds ≠ registry.lastProposalRound)
    "at most one ChangeSet is allowed per cadence boundary"
  require (allowed = true) "ChangeSet proposal cadence has not elapsed"
  match forwardPatch, rollbackPatch with
  | some forward, some rollback =>
    let proposal := registry.newProposal completedRounds candidateAgentSha256 forward rollback
    pure { registry with
      proposals := registry.proposals ++ [proposal]
      lastProposalRound := completedRounds
      events := registry.events ++ [.proposed proposal.proposalId] }
  | _, _ => .error "ChangeSet forward and rollback patches are required"

def promote (registry : ChangeSetRegistry) (proposalId : String) (decision : PromotionDecision) :
    Except String ChangeSetRegistry := do
  let proposal ← registry.proposal proposalId
  require (proposal.status = .proposed) "ChangeSet is not awaiting promotion"
  require (decision.approved = true) "failed promotion gate cannot be promoted"
  require (proposal.parentAgentSha256 = registry.activeAgentSha256)
    "active agent changed after ChangeSet proposal"
  pure { registry with
    proposals := registry.amend proposalId (Proposal.decided decision .promoted)
    activeAgentSha256 := proposal.candidateAgentSha256
    events := registry.events ++ [.promoted proposalId] }

def reject (registry : ChangeSetRegistry) (proposalId : String) (decision : PromotionDecision) :
    Except String ChangeSetRegistry := do
  let proposal ← registry.proposal proposalId
  require (proposal.status = .proposed) "ChangeSet is not awaiting promotion"
  require (decision.approved = false) "an approved ChangeSet cannot be recorded as rejected"
  pure { registry with
    proposals := registry.amend proposalId (Proposal.decided decision .rejected)
    events := registry.events ++ [.rejected proposalId] }

def rollback (registry : ChangeSetRegistry) (proposalId reason : String) :
    Except String ChangeSetRegistry := do
  let proposal ← registry.proposal proposalId
  require (Contracts.isText reason = true) "rollback reason must be non-empty"
  require (proposal.status = .promoted) "only a promoted ChangeSet can be rolled back"
  require (registry.activeAgentSha256 = proposal.candidateAgentSha256)
    "ChangeSet is not the active agent"
  pure { registry with
    activeAgentSha256 := proposal.parentAgentSha256
    proposals := registry.amend proposalId (Proposal.rolledBack reason)
    events := registry.events ++ [.rolledBack proposalId reason] }

end ChangeSetRegistry

inductive RegistryCall where
  | propose (completedRounds : Int) (candidateAgentSha256 : String)
      (forwardPatch rollbackPatch : Option PatchFile)
  | promote (proposalId : String) (decision : PromotionDecision)
  | reject (proposalId : String) (decision : PromotionDecision)
  | rollback (proposalId reason : String)

def RegistryCall.answer (registry : ChangeSetRegistry) :
    RegistryCall → Except String ChangeSetRegistry
  | .propose completedRounds candidate forwardPatch rollbackPatch =>
    registry.propose completedRounds candidate forwardPatch rollbackPatch
  | .promote proposalId decision => registry.promote proposalId decision
  | .reject proposalId decision => registry.reject proposalId decision
  | .rollback proposalId reason => registry.rollback proposalId reason

/-- A call that raises changes nothing. -/
def ChangeSetRegistry.after (registry : ChangeSetRegistry) (call : RegistryCall) :
    ChangeSetRegistry :=
  match call.answer registry with
  | .ok next => next
  | .error _ => registry

end JlensEvolve.ContinuousAB
