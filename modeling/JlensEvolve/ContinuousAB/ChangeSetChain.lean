import Mathlib.Data.List.Induction
import JlensEvolve.ContinuousAB.ChangeSetRegistry
import JlensEvolve.Library.JsonChars

/-!
The promoted proposals as a chain from the initial agent to the active one. A
rollback compares the active agent with the candidate of the proposal and
nothing else, so where two promotions share a candidate it can take a link out
of the middle of the chain.
-/

namespace JlensEvolve.ContinuousAB

open Library

def RegistryEvent.promotedId? : RegistryEvent → Option String
  | .promoted proposalId => some proposalId
  | _ => none

namespace ChangeSetRegistry

variable (registry : ChangeSetRegistry)

/-- The ids of all promotions on record, oldest first. -/
def promotedIds : List String := registry.events.filterMap RegistryEvent.promotedId?

/-- The promoted proposal with this id. -/
def promoted? (proposalId : String) : Option Proposal :=
  (registry.proposals.filter fun proposal => proposal.proposalId = proposalId).find?
    fun proposal => proposal.status = .promoted

/-- The proposals with status `promoted`, in promotion order. -/
def promotedInOrder : List Proposal := registry.promotedIds.filterMap registry.promoted?

def Chained : Prop :=
  Leads Proposal.parentAgentSha256 Proposal.candidateAgentSha256 registry.initialAgentSha256
    registry.promotedInOrder registry.activeAgentSha256

/-- The rollbacks of all promoted proposals, the last promotion first. -/
def undoing (reasonOf : Proposal → String) : List RegistryCall :=
  registry.promotedInOrder.reverse.map fun proposal =>
    .rollback proposal.proposalId (reasonOf proposal)

/-- Rolling back in reverse promotion order restores the initial agent; an id
that two proposals share is refused. -/
def Restorable : Prop :=
  (registry.proposals.map Proposal.proposalId).Nodup → ∀ reasonOf : Proposal → String,
    (∀ proposal, Contracts.isText (reasonOf proposal) = true) →
      (run after registry (registry.undoing reasonOf)).activeAgentSha256 =
        registry.initialAgentSha256

/-- A rollback that is not refused rolls the last promotion back, or one that
changed nothing. -/
def InReverseOrder : RegistryCall → Prop
  | .rollback proposalId reason => ∀ proposal, registry.proposal proposalId = .ok proposal →
      Contracts.isText reason = true → proposal.status = .promoted →
        registry.activeAgentSha256 = proposal.candidateAgentSha256 →
          registry.promotedInOrder.getLast? = some proposal ∨
            proposal.parentAgentSha256 = proposal.candidateAgentSha256
  | _ => True

/-- What the calls keep of the record of promotions. -/
structure Recorded : Prop where
  nodup : registry.promotedIds.Nodup
  recorded : ∀ proposal ∈ registry.proposals, proposal.status = .promoted →
    proposal.proposalId ∈ registry.promotedIds
  settled : ∀ proposalId ∈ registry.promotedIds, ∃ proposal ∈ registry.proposals,
    proposal.proposalId = proposalId ∧ proposal.status ≠ .proposed
  single : ∀ first ∈ registry.proposals, ∀ second ∈ registry.proposals,
    first.status = .promoted → second.status = .promoted →
      first.proposalId = second.proposalId → first = second

variable {registry} {next : ChangeSetRegistry} {proposalId : String} {proposal : Proposal}

theorem proposal_ok_iff :
    registry.proposal proposalId = .ok proposal ↔
      registry.proposals.filter (fun other => other.proposalId = proposalId) = [proposal] := by
  unfold ChangeSetRegistry.proposal
  split
  · rename_i found hfound
    rw [hfound]
    simp
  · rename_i hmany
    constructor
    · intro h
      cases h
    · intro h
      exact absurd h (hmany proposal)

theorem propose_ok {completedRounds : Int} {candidate : String}
    {forwardPatch rollbackPatch : Option PatchFile}
    (h : registry.propose completedRounds candidate forwardPatch rollbackPatch = .ok next) :
    ∃ proposal : Proposal, proposal.status = .proposed ∧
      next = { registry with
        proposals := registry.proposals ++ [proposal]
        lastProposalRound := completedRounds
        events := registry.events ++ [.proposed proposal.proposalId] } := by
  simp only [propose, except_bind_ok_iff] at h
  obtain ⟨-, -, allowed, -, -, -, -, -, hmatch⟩ := h
  cases forwardPatch with
  | none => cases hmatch
  | some forward =>
    cases rollbackPatch with
    | none => cases hmatch
    | some rollback =>
      cases hmatch
      exact ⟨registry.newProposal completedRounds candidate forward rollback, rfl, rfl⟩

theorem promote_ok {decision : PromotionDecision}
    (h : registry.promote proposalId decision = .ok next) :
    ∃ proposal, registry.proposal proposalId = .ok proposal ∧ proposal.status = .proposed ∧
      proposal.parentAgentSha256 = registry.activeAgentSha256 ∧
      next = { registry with
        proposals := registry.amend proposalId (Proposal.decided decision .promoted)
        activeAgentSha256 := proposal.candidateAgentSha256
        events := registry.events ++ [.promoted proposalId] } := by
  simp only [promote, except_bind_ok_iff, require_ok_iff] at h
  obtain ⟨proposal, hproposal, -, hstatus, -, -, -, hparent, hnext⟩ := h
  cases hnext
  exact ⟨proposal, hproposal, hstatus, hparent, rfl⟩

theorem reject_ok {decision : PromotionDecision}
    (h : registry.reject proposalId decision = .ok next) :
    ∃ proposal, registry.proposal proposalId = .ok proposal ∧ proposal.status = .proposed ∧
      next = { registry with
        proposals := registry.amend proposalId (Proposal.decided decision .rejected)
        events := registry.events ++ [.rejected proposalId] } := by
  simp only [reject, except_bind_ok_iff, require_ok_iff] at h
  obtain ⟨proposal, hproposal, -, hstatus, -, -, hnext⟩ := h
  cases hnext
  exact ⟨proposal, hproposal, hstatus, rfl⟩

theorem rollback_ok_iff {reason : String} :
    registry.rollback proposalId reason = .ok next ↔
      ∃ proposal, registry.proposal proposalId = .ok proposal ∧
        Contracts.isText reason = true ∧ proposal.status = .promoted ∧
        registry.activeAgentSha256 = proposal.candidateAgentSha256 ∧
        next = { registry with
          activeAgentSha256 := proposal.parentAgentSha256
          proposals := registry.amend proposalId (Proposal.rolledBack reason)
          events := registry.events ++ [.rolledBack proposalId reason] } := by
  simp only [rollback, except_bind_ok_iff, require_ok_iff, exists_and_left, exists_const]
  constructor
  · intro h
    obtain ⟨proposal, hproposal, htext, hstatus, hactive, hnext⟩ := h
    cases hnext
    exact ⟨proposal, hproposal, htext, hstatus, hactive, rfl⟩
  · intro h
    obtain ⟨proposal, hproposal, htext, hstatus, hactive, rfl⟩ := h
    exact ⟨proposal, hproposal, htext, hstatus, hactive, rfl⟩

section Amend

variable {change : Proposal → Proposal} (hkeeps : ∀ p, (change p).proposalId = p.proposalId)
include hkeeps

theorem filter_amend_of_ne {other : String} (hne : other ≠ proposalId) :
    (registry.amend proposalId change).filter (fun p => p.proposalId = other) =
      registry.proposals.filter (fun p => p.proposalId = other) := by
  unfold amend
  induction registry.proposals with
  | nil => rfl
  | cons first rest ih =>
    rw [List.map_cons, List.filter_cons, List.filter_cons, ih]
    by_cases hfirst : first.proposalId = proposalId
    · simp [hfirst, hkeeps, Ne.symm hne]
    · simp [hfirst]

theorem filter_amend_self :
    (registry.amend proposalId change).filter (fun p => p.proposalId = proposalId) =
      (registry.proposals.filter fun p => p.proposalId = proposalId).map change := by
  unfold amend
  induction registry.proposals with
  | nil => rfl
  | cons first rest ih =>
    rw [List.map_cons, List.filter_cons, List.filter_cons, ih]
    by_cases hfirst : first.proposalId = proposalId
    · simp [hfirst, hkeeps]
    · simp [hfirst]

theorem ids_amend :
    (registry.amend proposalId change).map Proposal.proposalId =
      registry.proposals.map Proposal.proposalId := by
  rw [amend, List.map_map]
  apply List.map_congr_left
  intro p _
  by_cases hp : p.proposalId = proposalId
  · simp [hp, hkeeps]
  · simp [hp]

end Amend

/-- Where one proposal has the id, the amended proposals are the changed one
and those with another id. -/
theorem mem_amend_iff {change : Proposal → Proposal}
    (h : registry.proposal proposalId = .ok proposal) (p : Proposal) :
    p ∈ registry.amend proposalId change ↔
      p = change proposal ∨ p ∈ registry.proposals ∧ p.proposalId ≠ proposalId := by
  have honly : ∀ q, q ∈ registry.proposals ∧ q.proposalId = proposalId ↔ q = proposal := by
    intro q
    have hmem := congrArg (q ∈ ·) (proposal_ok_iff.mp h)
    simpa using hmem
  rw [amend, List.mem_map]
  constructor
  · intro ⟨q, hq, hpq⟩
    by_cases hid : q.proposalId = proposalId
    · rw [if_pos hid, (honly q).mp ⟨hq, hid⟩] at hpq
      exact Or.inl hpq.symm
    · rw [if_neg hid] at hpq
      subst hpq
      exact Or.inr ⟨hq, hid⟩
  · intro hp
    rcases hp with rfl | ⟨hp, hid⟩
    · obtain ⟨hmem, hid⟩ := (honly proposal).mpr rfl
      exact ⟨proposal, hmem, if_pos hid⟩
    · exact ⟨p, hp, if_neg hid⟩

theorem promoted?_of_promoted (h : registry.proposal proposalId = .ok proposal)
    (hstatus : proposal.status = .promoted) : registry.promoted? proposalId = some proposal := by
  rw [promoted?, proposal_ok_iff.mp h]
  simp [hstatus]

theorem mem_of_proposal (h : registry.proposal proposalId = .ok proposal) :
    proposal ∈ registry.proposals ∧ proposal.proposalId = proposalId := by
  have hmem : proposal ∈ registry.proposals.filter fun p => p.proposalId = proposalId := by
    rw [proposal_ok_iff.mp h]
    exact List.mem_singleton_self _
  simpa using hmem

theorem promoted?_some (h : registry.promoted? proposalId = some proposal) :
    proposal ∈ registry.proposals ∧ proposal.proposalId = proposalId ∧
      proposal.status = .promoted := by
  have hmem := List.mem_of_find?_eq_some h
  have hstatus := List.find?_some h
  simp only [List.mem_filter, decide_eq_true_eq] at hmem hstatus
  exact ⟨hmem.1, hmem.2, hstatus⟩

theorem Recorded.not_waiting (hrecorded : registry.Recorded)
    (h : registry.proposal proposalId = .ok proposal) (hstatus : proposal.status = .proposed) :
    proposalId ∉ registry.promotedIds := by
  intro hmem
  obtain ⟨other, hother, hid, hsettled⟩ := hrecorded.settled proposalId hmem
  have honly : other ∈ registry.proposals.filter fun p => p.proposalId = proposalId := by
    simp [hother, hid]
  rw [proposal_ok_iff.mp h, List.mem_singleton] at honly
  rw [honly] at hsettled
  exact hsettled hstatus

theorem mem_promotedInOrder (hrecorded : registry.Recorded) :
    proposal ∈ registry.promotedInOrder ↔
      proposal ∈ registry.proposals ∧ proposal.status = .promoted := by
  rw [promotedInOrder, List.mem_filterMap]
  constructor
  · intro ⟨proposalId, _, hfound⟩
    obtain ⟨hmem, -, hstatus⟩ := promoted?_some hfound
    exact ⟨hmem, hstatus⟩
  · intro ⟨hmem, hstatus⟩
    refine ⟨proposal.proposalId, hrecorded.recorded proposal hmem hstatus, ?_⟩
    cases hfound : registry.promoted? proposal.proposalId with
    | none =>
      rw [promoted?, List.find?_eq_none] at hfound
      exact absurd (by simpa using hstatus) (hfound proposal (by simpa using hmem))
    | some found =>
      obtain ⟨hfoundMem, hid, hfoundStatus⟩ := promoted?_some hfound
      rw [hrecorded.single found hfoundMem proposal hmem hfoundStatus hstatus hid]

theorem promoted?_amend_of_ne {change : Proposal → Proposal}
    (hkeeps : ∀ p, (change p).proposalId = p.proposalId) (active : String)
    (events : List RegistryEvent) {other : String} (hne : other ≠ proposalId) :
    promoted? { registry with
      activeAgentSha256 := active, proposals := registry.amend proposalId change, events } other =
        registry.promoted? other := by
  rw [promoted?, filter_amend_of_ne hkeeps hne]
  rfl

theorem promoted?_amend_self {change : Proposal → Proposal}
    (hkeeps : ∀ p, (change p).proposalId = p.proposalId) (active : String)
    (events : List RegistryEvent) (h : registry.proposal proposalId = .ok proposal) :
    promoted? { registry with
      activeAgentSha256 := active, proposals := registry.amend proposalId change, events }
        proposalId =
      if (change proposal).status = .promoted then some (change proposal) else none := by
  rw [promoted?, filter_amend_self hkeeps, proposal_ok_iff.mp h]
  by_cases hstatus : (change proposal).status = .promoted
  · simp [hstatus]
  · simp [hstatus]

/-- Where one proposal has the id, has not been promoted and will not be, an
amendment leaves the promoted proposals as they are. -/
theorem promotedInOrder_amend {change : Proposal → Proposal}
    (hkeeps : ∀ p, (change p).proposalId = p.proposalId) (active : String)
    (events : List RegistryEvent) (h : registry.proposal proposalId = .ok proposal)
    (hbefore : proposal.status ≠ .promoted) (hafter : (change proposal).status ≠ .promoted)
    (hevents : events.filterMap RegistryEvent.promotedId? = registry.promotedIds) :
    promotedInOrder { registry with
      activeAgentSha256 := active, proposals := registry.amend proposalId change, events } =
        registry.promotedInOrder := by
  unfold promotedInOrder
  rw [show promotedIds { registry with
    activeAgentSha256 := active, proposals := registry.amend proposalId change, events } =
      registry.promotedIds from hevents]
  apply List.filterMap_congr
  intro other _
  by_cases hother : other = proposalId
  · subst hother
    rw [promoted?_amend_self hkeeps active events h, if_neg hafter, promoted?, proposal_ok_iff.mp h]
    simp [hbefore]
  · exact promoted?_amend_of_ne hkeeps active events hother

theorem promotedInOrder_propose {completedRounds : Int} {candidate : String}
    {forwardPatch rollbackPatch : Option PatchFile}
    (h : registry.propose completedRounds candidate forwardPatch rollbackPatch = .ok next) :
    next.promotedInOrder = registry.promotedInOrder := by
  obtain ⟨proposal, hstatus, rfl⟩ := propose_ok h
  simp only [promotedInOrder, promotedIds, List.filterMap_append, List.filterMap_cons,
    RegistryEvent.promotedId?, List.filterMap_nil, List.append_nil]
  apply List.filterMap_congr
  intro other _
  rw [promoted?, promoted?, List.filter_append, List.find?_append]
  by_cases hother : proposal.proposalId = other
  · simp [hother, hstatus]
  · simp [hother]

theorem promotedInOrder_promote {decision : PromotionDecision} (hrecorded : registry.Recorded)
    (h : registry.promote proposalId decision = .ok next) :
    ∃ proposal, next.promotedInOrder = registry.promotedInOrder ++ [proposal] ∧
      proposal.parentAgentSha256 = registry.activeAgentSha256 ∧
      proposal.candidateAgentSha256 = next.activeAgentSha256 := by
  obtain ⟨proposal, hproposal, hstatus, hparent, rfl⟩ := promote_ok h
  have hnew := hrecorded.not_waiting hproposal hstatus
  refine ⟨proposal.decided decision .promoted, ?_, hparent, rfl⟩
  simp only [promotedInOrder, promotedIds, List.filterMap_append, List.filterMap_cons,
    RegistryEvent.promotedId?, List.filterMap_nil]
  rw [promoted?_amend_self (Proposal.proposalId_decided decision .promoted) _ _ hproposal,
    if_pos (Proposal.status_decided _ _ _)]
  congr 1
  apply List.filterMap_congr
  intro other hother
  apply promoted?_amend_of_ne (Proposal.proposalId_decided decision .promoted)
  intro heq
  exact hnew (heq ▸ hother)

theorem promotedInOrder_reject {decision : PromotionDecision}
    (h : registry.reject proposalId decision = .ok next) :
    next.promotedInOrder = registry.promotedInOrder := by
  obtain ⟨proposal, hproposal, hstatus, rfl⟩ := reject_ok h
  apply promotedInOrder_amend (Proposal.proposalId_decided decision .rejected) _ _ hproposal
  · simp [hstatus]
  · simp
  · simp [promotedIds, RegistryEvent.promotedId?]

theorem promotedInOrder_rollback {reason : String} (hrecorded : registry.Recorded)
    (h : registry.rollback proposalId reason = .ok next) :
    ∃ earlier proposal later,
      registry.proposal proposalId = .ok proposal ∧
      registry.promotedInOrder = earlier ++ proposal :: later ∧
      next.promotedInOrder = earlier ++ later ∧
      registry.activeAgentSha256 = proposal.candidateAgentSha256 ∧
      next.activeAgentSha256 = proposal.parentAgentSha256 := by
  obtain ⟨proposal, hproposal, -, hstatus, hactive, rfl⟩ := rollback_ok_iff.mp h
  obtain ⟨hmem, hid⟩ := mem_of_proposal hproposal
  have hrecord := hrecorded.recorded proposal hmem hstatus
  rw [hid] at hrecord
  obtain ⟨first, last, hids⟩ := List.append_of_mem hrecord
  have hnodup := hrecorded.nodup
  rw [hids, List.nodup_middle, List.nodup_cons] at hnodup
  have hkept : ∀ ids : List String, proposalId ∉ ids →
      ids.filterMap (promoted? { registry with
        activeAgentSha256 := proposal.parentAgentSha256
        proposals := registry.amend proposalId (Proposal.rolledBack reason)
        events := registry.events ++ [.rolledBack proposalId reason] }) =
      ids.filterMap registry.promoted? := by
    intro ids habsent
    apply List.filterMap_congr
    intro other hother
    apply promoted?_amend_of_ne (Proposal.proposalId_rolledBack reason)
    intro heq
    exact habsent (heq ▸ hother)
  refine ⟨first.filterMap registry.promoted?, proposal, last.filterMap registry.promoted?,
    hproposal, ?_, ?_, hactive, rfl⟩
  · rw [promotedInOrder, hids, List.filterMap_append, List.filterMap_cons,
      promoted?_of_promoted hproposal hstatus]
  · rw [promotedInOrder, promotedIds, List.filterMap_append]
    simp only [List.filterMap_cons, RegistryEvent.promotedId?, List.filterMap_nil, List.append_nil]
    change registry.promotedIds.filterMap _ = _
    rw [hids, List.filterMap_append, List.filterMap_cons,
      promoted?_amend_self (Proposal.proposalId_rolledBack reason) _ _ hproposal,
      if_neg (by simp)]
    simp only
    rw [hkept first fun hfirst => hnodup.1 (List.mem_append_left _ hfirst),
      hkept last fun hlast => hnodup.1 (List.mem_append_right _ hlast)]

/-- An amendment that leaves a decided proposal decided, and promotes only what
is put on record, keeps the record. -/
theorem Recorded.amended {change : Proposal → Proposal} (hrecorded : registry.Recorded)
    (hkeeps : ∀ p, (change p).proposalId = p.proposalId)
    (hproposal : registry.proposal proposalId = .ok proposal)
    (hdecided : (change proposal).status ≠ .proposed)
    (hsame : next.proposals = registry.amend proposalId change) (hnodup : next.promotedIds.Nodup)
    (hids : ∀ other, other ∈ next.promotedIds ↔ other ∈ registry.promotedIds ∨
      other = proposalId ∧ (change proposal).status = .promoted) : next.Recorded where
  nodup := hnodup
  recorded := by
    intro p hp hstatus
    rw [hsame, mem_amend_iff hproposal] at hp
    rw [hids]
    rcases hp with rfl | ⟨hp, -⟩
    · right
      rw [hkeeps, (mem_of_proposal hproposal).2]
      exact ⟨rfl, hstatus⟩
    · exact Or.inl (hrecorded.recorded p hp hstatus)
  settled := by
    intro other hother
    rw [hsame]
    have hown : change proposal ∈ registry.amend proposalId change :=
      (mem_amend_iff hproposal _).mpr (Or.inl rfl)
    have hid : (change proposal).proposalId = proposalId := by
      rw [hkeeps, (mem_of_proposal hproposal).2]
    by_cases heq : other = proposalId
    · exact ⟨change proposal, hown, by rw [hid, heq], hdecided⟩
    · rcases (hids other).mp hother with hbefore | ⟨hnew, -⟩
      · obtain ⟨p, hp, hpid, hpstatus⟩ := hrecorded.settled other hbefore
        refine ⟨p, (mem_amend_iff hproposal p).mpr (Or.inr ⟨hp, ?_⟩), hpid, hpstatus⟩
        rw [hpid]
        exact heq
      · exact absurd hnew heq
  single := by
    intro first hfirst second hsecond hfirstStatus hsecondStatus hsameId
    rw [hsame, mem_amend_iff hproposal] at hfirst hsecond
    have hid : (change proposal).proposalId = proposalId := by
      rw [hkeeps, (mem_of_proposal hproposal).2]
    rcases hfirst with rfl | ⟨hfirst, hfirstId⟩
    · rcases hsecond with rfl | ⟨hsecond, hsecondId⟩
      · rfl
      · exact absurd (hsameId.symm.trans hid) hsecondId
    · rcases hsecond with rfl | ⟨hsecond, hsecondId⟩
      · exact absurd (hsameId.trans hid) hfirstId
      · exact hrecorded.single first hfirst second hsecond hfirstStatus hsecondStatus hsameId

theorem Recorded.propose {completedRounds : Int} {candidate : String}
    {forwardPatch rollbackPatch : Option PatchFile} (hrecorded : registry.Recorded)
    (h : registry.propose completedRounds candidate forwardPatch rollbackPatch = .ok next) :
    next.Recorded := by
  obtain ⟨proposal, hstatus, rfl⟩ := propose_ok h
  have hids : promotedIds { registry with
      proposals := registry.proposals ++ [proposal]
      lastProposalRound := completedRounds
      events := registry.events ++ [.proposed proposal.proposalId] } = registry.promotedIds := by
    simp [promotedIds, RegistryEvent.promotedId?]
  have hold : ∀ p ∈ registry.proposals ++ [proposal], p.status = .promoted →
      p ∈ registry.proposals := by
    intro p hp hpstatus
    rcases List.mem_append.mp hp with hp | hp
    · exact hp
    · rw [List.mem_singleton.mp hp, hstatus] at hpstatus
      cases hpstatus
  constructor
  · rw [hids]
    exact hrecorded.nodup
  · intro p hp hpstatus
    rw [hids]
    exact hrecorded.recorded p (hold p hp hpstatus) hpstatus
  · intro other hother
    rw [hids] at hother
    obtain ⟨p, hp, hsettled⟩ := hrecorded.settled other hother
    exact ⟨p, List.mem_append_left _ hp, hsettled⟩
  · intro first hfirst second hsecond hfirstStatus hsecondStatus
    exact hrecorded.single first (hold first hfirst hfirstStatus) second
      (hold second hsecond hsecondStatus) hfirstStatus hsecondStatus

theorem Recorded.promote {decision : PromotionDecision} (hrecorded : registry.Recorded)
    (h : registry.promote proposalId decision = .ok next) : next.Recorded := by
  obtain ⟨proposal, hproposal, hstatus, -, rfl⟩ := promote_ok h
  have hnew := hrecorded.not_waiting hproposal hstatus
  have hids : ∀ events : List RegistryEvent, (events ++ [RegistryEvent.promoted proposalId]).filterMap
      RegistryEvent.promotedId? = events.filterMap RegistryEvent.promotedId? ++ [proposalId] := by
    simp [RegistryEvent.promotedId?, List.filterMap_cons]
  apply hrecorded.amended (Proposal.proposalId_decided decision .promoted) hproposal (by simp) rfl
  · rw [promotedIds, hids]
    exact List.nodup_append.mpr ⟨hrecorded.nodup, List.nodup_singleton _, by
      intro first hfirst second hsecond heq
      rw [List.mem_singleton.mp hsecond] at heq
      exact hnew (heq ▸ hfirst)⟩
  · intro other
    rw [promotedIds, hids, List.mem_append, List.mem_singleton]
    simp [promotedIds]

theorem Recorded.reject {decision : PromotionDecision} (hrecorded : registry.Recorded)
    (h : registry.reject proposalId decision = .ok next) : next.Recorded := by
  obtain ⟨proposal, hproposal, -, rfl⟩ := reject_ok h
  apply hrecorded.amended (Proposal.proposalId_decided decision .rejected) hproposal (by simp) rfl
  · simpa [promotedIds, RegistryEvent.promotedId?, List.filterMap_cons] using hrecorded.nodup
  · intro other
    simp [promotedIds, RegistryEvent.promotedId?, List.filterMap_cons]

theorem Recorded.rollback {reason : String} (hrecorded : registry.Recorded)
    (h : registry.rollback proposalId reason = .ok next) : next.Recorded := by
  obtain ⟨proposal, hproposal, -, -, -, rfl⟩ := rollback_ok_iff.mp h
  apply hrecorded.amended (Proposal.proposalId_rolledBack reason) hproposal (by simp) rfl
  · simpa [promotedIds, RegistryEvent.promotedId?, List.filterMap_cons] using hrecorded.nodup
  · intro other
    simp [promotedIds, RegistryEvent.promotedId?, List.filterMap_cons]

/-- The record is kept and the promoted proposals form a chain. -/
structure Lineage (registry : ChangeSetRegistry) : Prop extends registry.Recorded where
  chained : registry.Chained

theorem ids_promotedInOrder :
    (registry.promotedInOrder.map Proposal.proposalId).Sublist registry.promotedIds := by
  unfold promotedInOrder
  induction registry.promotedIds with
  | nil => exact List.nil_sublist _
  | cons id ids ih =>
    rw [List.filterMap_cons]
    cases hfound : registry.promoted? id with
    | none => exact ih.cons id
    | some found =>
      rw [List.map_cons, (promoted?_some hfound).2.1]
      exact ih.cons_cons id

theorem later_nil_iff (hrecorded : registry.Recorded) {earlier later : List Proposal}
    (hlist : registry.promotedInOrder = earlier ++ proposal :: later) :
    later = [] ↔ registry.promotedInOrder.getLast? = some proposal := by
  rw [hlist]
  constructor
  · intro hempty
    simp [hempty]
  · intro hlast
    have hnodup := ids_promotedInOrder.nodup hrecorded.nodup
    rw [hlist, List.map_append, List.map_cons, List.nodup_append, List.nodup_cons] at hnodup
    cases later using List.reverseRecOn with
    | nil => rfl
    | append_singleton later last =>
      rw [← List.cons_append, ← List.append_assoc, List.getLast?_concat,
        Option.some.injEq] at hlast
      subst hlast
      exact absurd (by simp) hnodup.2.1.1

/-- A rollback keeps the chain exactly when it takes out its last link, or a
link that leads nowhere. -/
theorem chained_rollback_iff {reason : String} (h : registry.Lineage)
    (hproposal : registry.proposal proposalId = .ok proposal)
    (hrollback : registry.rollback proposalId reason = .ok next) :
    next.Chained ↔ registry.promotedInOrder.getLast? = some proposal ∨
      proposal.parentAgentSha256 = proposal.candidateAgentSha256 := by
  obtain ⟨earlier, found, later, hfound, hlist, hnext, hactive, hparent⟩ :=
    promotedInOrder_rollback h.toRecorded hrollback
  obtain rfl : found = proposal := Except.ok.inj (hfound.symm.trans hproposal)
  have hinitial : next.initialAgentSha256 = registry.initialAgentSha256 := by
    obtain ⟨_, _, _, _, _, hnext⟩ := rollback_ok_iff.mp hrollback
    rw [hnext]
  have hchained : Leads Proposal.parentAgentSha256 Proposal.candidateAgentSha256
      registry.initialAgentSha256 (earlier ++ found :: later) registry.activeAgentSha256 := by
    rw [← hlist]
    exact h.chained
  rw [Chained, hinitial, hnext, hparent, leads_erase_iff hchained hactive.symm]
  rw [later_nil_iff h.toRecorded hlist]

theorem after_of_ok {call : RegistryCall} (h : call.answer registry = .ok next) :
    registry.after call = next := by
  rw [after, h]

theorem after_of_error {call : RegistryCall} {message : String}
    (h : call.answer registry = .error message) : registry.after call = registry := by
  rw [after, h]

theorem Lineage.after {call : RegistryCall} (h : registry.Lineage)
    (horder : registry.InReverseOrder call) : (registry.after call).Lineage := by
  cases hanswer : call.answer registry with
  | error message =>
    rw [after_of_error hanswer]
    exact h
  | ok next =>
    rw [after_of_ok hanswer]
    cases call with
    | propose completedRounds candidate forwardPatch rollbackPatch =>
      refine ⟨h.toRecorded.propose hanswer, ?_⟩
      obtain ⟨_, _, hnext⟩ := propose_ok hanswer
      rw [Chained, promotedInOrder_propose hanswer, hnext]
      exact h.chained
    | promote proposalId decision =>
      refine ⟨h.toRecorded.promote hanswer, ?_⟩
      obtain ⟨proposal, hlist, hparent, hactive⟩ := promotedInOrder_promote h.toRecorded hanswer
      obtain ⟨_, _, _, _, hnext⟩ := promote_ok hanswer
      rw [Chained, hlist, leads_concat, hparent, hnext]
      rw [hnext] at hactive
      exact ⟨h.chained, hactive⟩
    | reject proposalId decision =>
      refine ⟨h.toRecorded.reject hanswer, ?_⟩
      obtain ⟨_, _, _, hnext⟩ := reject_ok hanswer
      rw [Chained, promotedInOrder_reject hanswer, hnext]
      exact h.chained
    | rollback proposalId reason =>
      refine ⟨h.toRecorded.rollback hanswer, ?_⟩
      obtain ⟨proposal, hproposal, htext, hstatus, hactive, -⟩ := rollback_ok_iff.mp hanswer
      exact (chained_rollback_iff h hproposal hanswer).mpr
        (horder proposal hproposal htext hstatus hactive)

theorem Lineage.inReverseOrder {call : RegistryCall} (h : registry.Lineage)
    (hchained : (registry.after call).Chained) : registry.InReverseOrder call := by
  cases call with
  | rollback proposalId reason =>
    intro proposal hproposal htext hstatus hactive
    obtain ⟨next, hnext⟩ : ∃ next, registry.rollback proposalId reason = .ok next :=
      ⟨_, rollback_ok_iff.mpr ⟨proposal, hproposal, htext, hstatus, hactive, rfl⟩⟩
    rw [after_of_ok (show (RegistryCall.rollback proposalId reason).answer registry = .ok next
      from hnext)] at hchained
    exact (chained_rollback_iff h hproposal hnext).mp hchained
  | propose completedRounds candidate forwardPatch rollbackPatch => trivial
  | promote proposalId decision => trivial
  | reject proposalId decision => trivial

theorem rollback_last (h : registry.Lineage)
    (hids : (registry.proposals.map Proposal.proposalId).Nodup) {earlier : List Proposal}
    (hlist : registry.promotedInOrder = earlier ++ [proposal]) {reason : String}
    (htext : Contracts.isText reason = true) :
    ∃ next, registry.rollback proposal.proposalId reason = .ok next ∧
      next.promotedInOrder = earlier ∧ next.Lineage ∧
      next.initialAgentSha256 = registry.initialAgentSha256 ∧
      (next.proposals.map Proposal.proposalId).Nodup := by
  obtain ⟨hmem, hstatus⟩ := (mem_promotedInOrder h.toRecorded).mp
    (show proposal ∈ registry.promotedInOrder by rw [hlist]; simp)
  have hproposal : registry.proposal proposal.proposalId = .ok proposal :=
    proposal_ok_iff.mpr (filter_of_nodup hids hmem)
  have hactive : registry.activeAgentSha256 = proposal.candidateAgentSha256 := by
    have hchained := h.chained
    rw [Chained, hlist, leads_concat] at hchained
    exact hchained.2.symm
  refine ⟨_, rollback_ok_iff.mpr ⟨proposal, hproposal, htext, hstatus, hactive, rfl⟩, ?_⟩
  have hok := rollback_ok_iff.mpr ⟨proposal, hproposal, htext, hstatus, hactive, rfl⟩
  obtain ⟨before, found, later, hfound, hbefore, hnext, -, -⟩ :=
    promotedInOrder_rollback h.toRecorded hok
  obtain rfl : found = proposal := Except.ok.inj (hfound.symm.trans hproposal)
  have hchained := (chained_rollback_iff h hproposal hok).mpr (Or.inl (by simp [hlist]))
  have hlater : later = [] := (later_nil_iff h.toRecorded hbefore).mpr (by simp [hlist])
  refine ⟨?_, ⟨h.toRecorded.rollback hok, hchained⟩, rfl, ?_⟩
  · rw [hnext, hlater, List.append_nil]
    rw [hlater, hlist] at hbefore
    exact (List.append_inj_left' hbefore rfl).symm
  · change (registry.amend _ _ |>.map _).Nodup
    rw [ids_amend (Proposal.proposalId_rolledBack reason)]
    exact hids

theorem Lineage.restorable (h : registry.Lineage) : registry.Restorable := by
  intro hids reasonOf htext
  have hrestored : ∀ (chain : List Proposal) (registry : ChangeSetRegistry), registry.Lineage →
      (registry.proposals.map Proposal.proposalId).Nodup → registry.promotedInOrder = chain →
      (run ChangeSetRegistry.after registry (chain.reverse.map fun proposal =>
        .rollback proposal.proposalId (reasonOf proposal))).activeAgentSha256 =
          registry.initialAgentSha256 := by
    intro chain
    induction chain using List.reverseRecOn with
    | nil =>
      intro registry h _ hchain
      have hchained := h.chained
      rw [Chained, hchain] at hchained
      exact hchained.symm
    | append_singleton earlier last ih =>
      intro registry h hids hchain
      obtain ⟨next, hnext, hearlier, hlineage, hinitial, hnextIds⟩ :=
        rollback_last h hids hchain (htext last)
      rw [List.reverse_append, List.reverse_singleton, List.singleton_append, List.map_cons,
        run_cons, after_of_ok (show (RegistryCall.rollback last.proposalId
          (reasonOf last)).answer registry = .ok next from hnext), ih next hlineage hnextIds hearlier,
        hinitial]
  exact hrestored registry.promotedInOrder registry h hids rfl

theorem lineage_create {initialAgentSha256 : String} {cadence : ChangeSetCadence}
    (h : create initialAgentSha256 cadence = .ok registry) : registry.Lineage := by
  simp only [create, requireSha256, except_bind_ok_iff, require_ok_iff] at h
  obtain ⟨-, -, hregistry⟩ := h
  cases hregistry
  constructor
  · constructor
    · exact List.nodup_nil
    · intro proposal hproposal
      cases hproposal
    · intro proposalId hproposalId
      cases hproposalId
    · intro first hfirst
      cases hfirst
  · rfl

/-- The promoted proposals form a chain that can be undone, all along a run,
exactly when every rollback in it that is not refused rolls the last promotion
back, or one that changed nothing. -/
theorem promotions_chain_iff {initialAgentSha256 : String} {cadence : ChangeSetCadence}
    (h : create initialAgentSha256 cadence = .ok registry) (calls : List RegistryCall) :
    Along (fun registry => registry.Chained ∧ registry.Restorable) after registry calls ↔
      Guarded InReverseOrder after registry calls := by
  apply along_iff_guarded (I := Lineage) _ _ _ _ _ (lineage_create h)
  · intro registry h
    exact ⟨h.chained, h.restorable⟩
  · intro registry call h horder
    exact h.after horder
  · intro registry call h hnext
    exact h.inReverseOrder hnext.1

def agentA : String := "aaaaaaaaaaaaaaaaaaaaaaaaaaaaaaaaaaaaaaaaaaaaaaaaaaaaaaaaaaaaaaaa"
def agentB : String := "bbbbbbbbbbbbbbbbbbbbbbbbbbbbbbbbbbbbbbbbbbbbbbbbbbbbbbbbbbbbbbbb"
def agentC : String := "cccccccccccccccccccccccccccccccccccccccccccccccccccccccccccccccc"

def sampleId (completedRounds : Int) (parent candidate : String) : String :=
  (proposalIdentity completedRounds parent candidate
    (.obj [("forward", PatchFile.evidence ⟨"/f", []⟩),
      ("rollback", PatchFile.evidence ⟨"/r", []⟩)])).contentSha256

def proposing (completedRounds : Int) (candidate : String) : RegistryCall :=
  .propose completedRounds candidate (some ⟨"/f", []⟩) (some ⟨"/r", []⟩)

def passed : PromotionDecision :=
  { approved := true, wins := 10, losses := 0, ties := 0, oneSidedSignP := 0, qualityUplift := 1,
    costRatio := some 1, checks := [] }

def everyTen : ChangeSetCadence := ⟨10, by decide⟩

/-- From A to B, from B to C and from C back to B, so that the candidate of the
first promotion is active again. -/
def threeRounds : List RegistryCall :=
  [proposing 10 agentB, .promote (sampleId 10 agentA agentB) passed] ++
    ([proposing 20 agentC, .promote (sampleId 20 agentB agentC) passed] ++
      [proposing 30 agentB, .promote (sampleId 30 agentC agentB) passed])

theorem emptyPatch_sha256 : Sha256.hexdigest [] =
    "e3b0c44298fc1c149afbf4c8996fb92427ae41e4649b934ca495991b7852b855" := by
  rw [Sha256.Words.hexdigest_eq]
  decide

theorem sampleIds_differ :
    sampleId 10 agentA agentB ≠ sampleId 20 agentB agentC ∧
      sampleId 10 agentA agentB ≠ sampleId 30 agentC agentB ∧
      sampleId 20 agentB agentC ≠ sampleId 30 agentC agentB := by
  simp only [sampleId, PatchFile.evidence, emptyPatch_sha256, Json.contentSha256_eq]
  decide +kernel

def sampleProposal (completedRounds : Int) (parent candidate : String) : Proposal :=
  { proposalId := sampleId completedRounds parent candidate
    completedRounds
    parentAgentSha256 := parent
    candidateAgentSha256 := candidate
    patchEvidence := .obj [("forward", PatchFile.evidence ⟨"/f", []⟩),
      ("rollback", PatchFile.evidence ⟨"/r", []⟩)]
    status := .proposed
    promotionDecision := none
    rollbackReason := none }

theorem after_proposing {completedRounds : Int} {candidate : String}
    (hc : Sha256.isSha256 candidate = true) (h : 0 ≤ registry.lastProposalRound)
    (hr : registry.lastProposalRound + registry.cadence.interval ≤ completedRounds) :
    registry.after (proposing completedRounds candidate) = { registry with
      proposals := registry.proposals ++
        [sampleProposal completedRounds registry.activeAgentSha256 candidate]
      lastProposalRound := completedRounds
      events := registry.events ++
        [.proposed (sampleId completedRounds registry.activeAgentSha256 candidate)] } := by
  have hpos := registry.cadence.positive
  apply after_of_ok
  simp only [RegistryCall.answer, proposing, propose, requireSha256,
    ChangeSetCadence.canPropose, require, hc, if_true]
  rw [if_pos ⟨by omega, h⟩]
  simp only [decide_eq_true hr]
  rfl

theorem run_round {completedRounds : Int} {candidate : String}
    (hc : Sha256.isSha256 candidate = true) (h : 0 ≤ registry.lastProposalRound)
    (hr : registry.lastProposalRound + registry.cadence.interval ≤ completedRounds)
    (hfresh : ∀ p ∈ registry.proposals,
      p.proposalId ≠ sampleId completedRounds registry.activeAgentSha256 candidate) :
    run after registry [proposing completedRounds candidate,
        .promote (sampleId completedRounds registry.activeAgentSha256 candidate) passed] =
      { registry with
        activeAgentSha256 := candidate
        lastProposalRound := completedRounds
        proposals := registry.proposals ++
          [(sampleProposal completedRounds registry.activeAgentSha256 candidate).decided passed
            .promoted]
        events := registry.events ++
          [.proposed (sampleId completedRounds registry.activeAgentSha256 candidate),
            .promoted (sampleId completedRounds registry.activeAgentSha256 candidate)] } := by
  rw [run_cons, after_proposing hc h hr, run_cons, run_nil]
  apply after_of_ok
  have hnone : registry.proposals.filter (fun p => p.proposalId =
      sampleId completedRounds registry.activeAgentSha256 candidate) = [] := by
    rw [List.filter_eq_nil_iff]
    intro p hp
    simpa using hfresh p hp
  have hkept : registry.amend (sampleId completedRounds registry.activeAgentSha256 candidate)
      (Proposal.decided passed .promoted) = registry.proposals := by
    rw [amend]
    conv_rhs => rw [← List.map_id registry.proposals]
    apply List.map_congr_left
    intro p hp
    rw [if_neg (hfresh p hp), id]
  simp only [RegistryCall.answer, promote, except_bind_ok_iff, require_ok_iff, proposal_ok_iff]
  refine ⟨sampleProposal completedRounds registry.activeAgentSha256 candidate, ?_, (), rfl, (),
    rfl, (), rfl, ?_⟩
  · rw [List.filter_append, hnone]
    simp [sampleProposal]
  · simp only [amend] at hkept
    simp only [amend, List.map_append, hkept, List.append_assoc]
    simp [sampleProposal]
    rfl

def afterThreeRounds : ChangeSetRegistry where
  initialAgentSha256 := agentA
  activeAgentSha256 := agentB
  cadence := everyTen
  lastProposalRound := 30
  proposals := [(sampleProposal 10 agentA agentB).decided passed .promoted,
    (sampleProposal 20 agentB agentC).decided passed .promoted,
    (sampleProposal 30 agentC agentB).decided passed .promoted]
  events := [.registryCreated agentA,
    .proposed (sampleId 10 agentA agentB), .promoted (sampleId 10 agentA agentB),
    .proposed (sampleId 20 agentB agentC), .promoted (sampleId 20 agentB agentC),
    .proposed (sampleId 30 agentC agentB), .promoted (sampleId 30 agentC agentB)]

theorem run_threeRounds (h : create agentA everyTen = .ok registry) :
    run after registry threeRounds = afterThreeRounds := by
  obtain ⟨h12, h13, h23⟩ := sampleIds_differ
  have hb : Sha256.isSha256 agentB = true := by decide
  have hc : Sha256.isSha256 agentC = true := by decide
  simp only [create, requireSha256, except_bind_ok_iff, require_ok_iff] at h
  obtain ⟨-, -, hregistry⟩ := h
  cases hregistry
  rw [threeRounds, run_append, run_round hb (by decide) (by decide) (by simp), run_append,
    run_round hc (by decide) (by decide) (by simp [sampleProposal, h12]),
    run_round hb (by decide) (by decide) (by simp [sampleProposal, h13, h23])]
  rfl

theorem last_afterThreeRounds :
    afterThreeRounds.promotedInOrder.getLast? =
      some ((sampleProposal 30 agentC agentB).decided passed .promoted) := by
  obtain ⟨h12, h13, h23⟩ := sampleIds_differ
  have hproposal : afterThreeRounds.proposal (sampleId 30 agentC agentB) =
      .ok ((sampleProposal 30 agentC agentB).decided passed .promoted) := by
    rw [proposal_ok_iff]
    simp [afterThreeRounds, sampleProposal, h13, h23]
  rw [promotedInOrder, show afterThreeRounds.promotedIds =
    [sampleId 10 agentA agentB, sampleId 20 agentB agentC] ++ [sampleId 30 agentC agentB] from rfl,
    List.filterMap_append, List.filterMap_cons_some (promoted?_of_promoted hproposal rfl),
    List.filterMap_nil, List.getLast?_concat]

theorem rollback_afterThreeRounds (h : afterThreeRounds.Lineage) :
    ∃ next, afterThreeRounds.rollback (sampleId 10 agentA agentB) "regression" = .ok next ∧
      ¬ next.Chained := by
  obtain ⟨h12, h13, h23⟩ := sampleIds_differ
  have hproposal : afterThreeRounds.proposal (sampleId 10 agentA agentB) =
      .ok ((sampleProposal 10 agentA agentB).decided passed .promoted) := by
    rw [proposal_ok_iff]
    simp [afterThreeRounds, sampleProposal, h12.symm, h13.symm]
  have htext : Contracts.isText "regression" = true := by decide
  have hrollback := rollback_ok_iff.mpr ⟨_, hproposal, htext, rfl, rfl, rfl⟩
  refine ⟨_, hrollback, ?_⟩
  rw [chained_rollback_iff h hproposal hrollback, last_afterThreeRounds, Option.some.injEq]
  intro hcases
  rcases hcases with hlast | hsame
  · exact h13 (congrArg Proposal.proposalId hlast).symm
  · exact absurd hsame (by decide)

/-- The rollback of the first promotion leaves promotions on record that no
longer lead from the initial agent to the active one. -/
theorem thereAndBack_breaks_chain :
    ∃ registry, create agentA everyTen = .ok registry ∧
      ¬ (run after registry
        (threeRounds ++ [.rollback (sampleId 10 agentA agentB) "regression"])).Chained := by
  have ha : Sha256.isSha256 agentA = true := by decide
  obtain ⟨registry, hregistry⟩ : ∃ registry, create agentA everyTen = .ok registry := by
    simp only [create, requireSha256, ha, require, if_true]
    exact ⟨_, rfl⟩
  have hlineage : afterThreeRounds.Lineage := by
    rw [← run_threeRounds hregistry]
    apply run_invariant_of_mem _ _ (lineage_create hregistry)
    intro registry call hcall h
    apply h.after
    simp only [threeRounds, proposing, List.cons_append, List.nil_append, List.mem_cons,
      List.not_mem_nil, or_false] at hcall
    rcases hcall with rfl | rfl | rfl | rfl | rfl | rfl <;> trivial
  obtain ⟨next, hnext, hbroken⟩ := rollback_afterThreeRounds hlineage
  refine ⟨registry, hregistry, ?_⟩
  rw [run_append, run_threeRounds hregistry, run_cons, run_nil, after_of_ok
    (show (RegistryCall.rollback _ _).answer afterThreeRounds = .ok next from hnext)]
  exact hbroken

/-- Promoting and rolling back in reverse order. -/
theorem promotions_chain_of_reverse :
    ∃ registry, create agentA everyTen = .ok registry ∧
      (Along (fun registry => registry.Chained ∧ registry.Restorable) after registry threeRounds ↔
        Guarded InReverseOrder after registry threeRounds) := by
  have ha : Sha256.isSha256 agentA = true := by decide
  obtain ⟨registry, hregistry⟩ : ∃ registry, create agentA everyTen = .ok registry := by
    simp only [create, requireSha256, ha, require, if_true]
    exact ⟨_, rfl⟩
  exact ⟨registry, hregistry, promotions_chain_iff hregistry threeRounds⟩

end ChangeSetRegistry

end JlensEvolve.ContinuousAB
