import JlensEvolve.Evolution.ArchiveLog

/-!
What the calls on an archive keep, as long as the texts they write break no
line. After a line that no reader gets back every call that reads the log
raises.
-/

namespace JlensEvolve.Evolution

open Library

namespace CandidateArchive

variable (archive : CandidateArchive)

/-- The candidates whose registration is on record. -/
def registrations (rows : List ArchiveRow) : List String :=
  rows.filterMap fun row =>
    match row.event with
    | .candidateRegistered candidate _ _ _ => some candidate
    | _ => none

/-- New parent, previous parent and decision of the advances on record. -/
def advances (rows : List ArchiveRow) : List (String × String × String) :=
  rows.filterMap fun row =>
    match row.event with
    | .searchParentAdvanced candidate previousParent decisionSha256 =>
      some (candidate, previousParent, decisionSha256)
    | _ => none

def ParentDecision.advance (decision : ParentDecision) : String × String × String :=
  (decision.searchParentSha256, decision.previousParentSha256, decision.decisionSha256)

/-- `search_parent_history` leads from the seed to the search parent. -/
def HistoryLeads : Prop :=
  Leads ParentDecision.previousParentSha256 ParentDecision.searchParentSha256
    archive.authority.seedParentAgentProgramSha256 archive.authority.searchParentHistory
    archive.authority.searchParentSha256

/-- The archive and its rows, as long as every row is read back. -/
structure Sound (rows : List ArchiveRow) : Prop where
  lines : archive.lines = rows.map some
  errors : rowErrors 1 none rows = []
  follows : Follows rows
  stored : ∀ candidate held, archive.directories.get? candidate = some held →
    Sha256.isSha256 candidate = true ∧ ∃ changeset : InactiveChangeSet,
      changeset.candidateAgentProgramSha256 = candidate ∧
        Sha256.isSha256 changeset.parentAgentProgramSha256 = true ∧ held = some changeset.blob
  known : ∀ row ∈ rows, row.event.candidate ∈ archive.candidates
  registered : (registrations rows).Nodup ∧
    ∀ candidate, candidate ∈ registrations rows ↔ candidate ∈ archive.candidates
  advanced : advances rows = archive.authority.searchParentHistory.map ParentDecision.advance
  history : archive.HistoryLeads
  originalSha256 : Sha256.isSha256 archive.authority.originalAgentProgramSha256 = true
  seedSha256 : Sha256.isSha256 archive.authority.seedParentAgentProgramSha256 = true
  parentSha256 : Sha256.isSha256 archive.authority.searchParentSha256 = true
  production : archive.authority.productionActiveRef = none

variable {archive} {rows : List ArchiveRow}

theorem events_of_lines (h : archive.lines = rows.map some) : archive.events = .ok rows := by
  rw [events, h]
  clear h
  induction rows with
  | nil => rfl
  | cons row rows ih =>
    rw [List.map_cons, List.mapM_cons, ih]
    rfl

theorem lines_of_events (h : archive.events = .ok rows) : archive.lines = rows.map some := by
  rw [events] at h
  generalize archive.lines = lines at h
  induction lines generalizing rows with
  | nil =>
    cases h
    rfl
  | cons line lines ih =>
    rw [List.mapM_cons, except_bind_ok_iff] at h
    obtain ⟨row, hrow, hrest⟩ := h
    rw [except_bind_ok_iff] at hrest
    obtain ⟨others, hothers, hrows⟩ := hrest
    cases hrows
    cases line with
    | none => cases hrow
    | some found =>
      cases hrow
      rw [List.map_cons, ih hothers]

theorem Sound.events (h : archive.Sound rows) : archive.events = .ok rows :=
  events_of_lines h.lines

theorem Sound.sha256_of_known (h : archive.Sound rows) {program : String}
    (hprogram : program ∈ archive.knownPrograms) : Sha256.isSha256 program = true := by
  rcases mem_knownPrograms.mp hprogram with (rfl | rfl) | hcandidate
  · exact h.originalSha256
  · exact h.seedSha256
  · obtain ⟨blob, hblob⟩ := mem_candidates.mp hcandidate
    unfold blob? at hblob
    cases hheld : archive.directories.get? program with
    | none =>
      rw [hheld] at hblob
      cases hblob
    | some held => exact (h.stored program held hheld).1

theorem Sound.sha256_of_candidate (h : archive.Sound rows) {candidate : String}
    (hcandidate : candidate ∈ archive.candidates) : Sha256.isSha256 candidate = true :=
  h.sha256_of_known (mem_knownPrograms.mpr (Or.inr hcandidate))

theorem Sound.sha256_of_parent (h : archive.Sound rows) {candidate parent : String}
    (hparent : archive.Parent candidate parent) : Sha256.isSha256 parent = true := by
  obtain ⟨blob, hblob, rfl⟩ := hparent
  unfold blob? at hblob
  cases hheld : archive.directories.get? candidate with
  | none =>
    rw [hheld] at hblob
    cases hblob
  | some held =>
    obtain ⟨-, changeset, -, hsha, rfl⟩ := h.stored candidate held hheld
    rw [hheld] at hblob
    cases hblob
    exact hsha

theorem candidateState_ok (h : archive.Sound rows) {candidate : String}
    {found : CandidateBlob × CandidateState} (hstate : archive.candidateState candidate = .ok found) :
    candidate ∈ archive.candidates ∧ archive.blob? candidate = some found.1 ∧
      found.2 = replay rows candidate := by
  simp only [candidateState, except_bind_ok_iff] at hstate
  obtain ⟨-, -, hmatch⟩ := hstate
  split at hmatch
  · cases hmatch
  · rename_i blob hblob
    rw [h.events] at hmatch
    cases hmatch
    exact ⟨mem_candidates.mpr ⟨blob, hblob⟩, hblob, rfl⟩

theorem candidateState_of_mem (h : archive.Sound rows) {candidate : String}
    (hcandidate : candidate ∈ archive.candidates) :
    ∃ blob, archive.candidateState candidate = .ok (blob, replay rows candidate) := by
  obtain ⟨blob, hblob⟩ := mem_candidates.mp hcandidate
  refine ⟨blob, ?_⟩
  rw [candidateState, archiveSha256, require, if_pos (h.sha256_of_candidate hcandidate), hblob,
    h.events]
  rfl

theorem checkAdvance_ok_iff (h : archive.Sound rows) (candidate decisionSha256 : String)
    (production : Bool) :
    archive.checkAdvance candidate decisionSha256 production = .ok () ↔
      production = false ∧ Sha256.isSha256 decisionSha256 = true ∧
        candidate ∈ archive.candidates ∧ replay rows candidate = .selected ∧
        ∃ row ∈ rows, verifiesRollback candidate row = true := by
  simp only [checkAdvance, archiveSha256, except_bind_ok_iff, require_ok_iff, h.events,
    List.any_eq_true]
  constructor
  · intro ⟨_, hproduction, _, hdecision, found, hstate, _, hselected, read, hread, hverified⟩
    cases hread
    obtain ⟨hcandidate, -, hreplay⟩ := candidateState_ok h hstate
    exact ⟨hproduction, hdecision, hcandidate, hreplay.symm.trans hselected, hverified⟩
  · intro ⟨hproduction, hdecision, hcandidate, hselected, hverified⟩
    obtain ⟨blob, hstate⟩ := candidateState_of_mem h hcandidate
    exact ⟨(), hproduction, (), hdecision, _, hstate, (), hselected, rows, rfl, hverified⟩

theorem registerCandidate_cases (h : archive.Sound rows) (changeset : InactiveChangeSet) :
    (archive.registerCandidate changeset).writes = [] ∨
      archive.checkChangeSet changeset = .ok () ∧
        archive.directories.get? changeset.candidateAgentProgramSha256 = none ∧
        archive.registerCandidate changeset =
          ⟨[.makeDirectory changeset.candidateAgentProgramSha256,
            .replaceBlob changeset.candidateAgentProgramSha256 changeset.blob,
            .appendRow (nextRow rows (.candidateRegistered changeset.candidateAgentProgramSha256
              changeset.parentAgentProgramSha256 changeset.changesetId
              changeset.blob.archiveBlobSha256))], .ok ()⟩ := by
  simp only [registerCandidate, ArchiveOutcome.checked]
  cases hcheck : archive.checkChangeSet changeset with
  | error error => exact Or.inl rfl
  | ok u =>
    cases hheld : archive.directories.get? changeset.candidateAgentProgramSha256 with
    | none =>
      right
      refine ⟨rfl, rfl, ?_⟩
      simp only [ArchiveOutcome.appending, h.events, List.cons_append, List.nil_append]
    | some held =>
      left
      cases held with
      | none => rfl
      | some blob =>
        simp only
        split <;> rfl

theorem targetState_mem {current toState : CandidateState} {target : String}
    (h : targetState current target = .ok toState) : toState ∈ current.transitions := by
  unfold targetState at h
  split at h
  · rename_i state hfound
    cases h
    exact List.mem_of_find?_eq_some hfound
  · cases h

theorem transition_cases (h : archive.Sound rows)
    (candidate target reason evidenceSha256 : String) :
    (archive.transition candidate target reason evidenceSha256).writes = [] ∨
      ∃ parent toState, candidate ∈ archive.candidates ∧
        archive.Parent candidate parent ∧
        toState ∈ (replay rows candidate).transitions ∧
        Sha256.isSha256 evidenceSha256 = true ∧
        (∃ found, archive.checkTransition candidate target reason evidenceSha256 = .ok found) ∧
        archive.transition candidate target reason evidenceSha256 =
          ⟨[.appendRow (nextRow rows (.candidateStateChanged candidate parent
            (replay rows candidate) toState reason evidenceSha256))], .ok ()⟩ := by
  simp only [transition, ArchiveOutcome.checked]
  cases hcheck : archive.checkTransition candidate target reason evidenceSha256 with
  | error error => exact Or.inl rfl
  | ok found =>
    right
    simp only [checkTransition, archiveSha256, except_bind_ok_iff, require_ok_iff] at hcheck
    obtain ⟨-, -, -, hevidence, pair, hstate, toState, htarget, hfound⟩ := hcheck
    cases hfound
    obtain ⟨hcandidate, hblob, hcurrent⟩ := candidateState_ok h hstate
    rw [hcurrent] at htarget
    refine ⟨_, toState, hcandidate, ⟨pair.1, hblob, rfl⟩, targetState_mem htarget, hevidence,
      ⟨_, rfl⟩, ?_⟩
    simp only [ArchiveOutcome.appending, h.events, List.nil_append, hcurrent]

theorem recordRollback_cases (h : archive.Sound rows)
    (candidate forwardPatchSha256 rollbackPatchSha256 : String) (verified : Bool) :
    (archive.recordRollback candidate forwardPatchSha256 rollbackPatchSha256 verified).writes =
        [] ∨
      candidate ∈ archive.candidates ∧ Sha256.isSha256 forwardPatchSha256 = true ∧
        Sha256.isSha256 rollbackPatchSha256 = true ∧
        archive.recordRollback candidate forwardPatchSha256 rollbackPatchSha256 verified =
          ⟨[.appendRow (nextRow rows (.rollbackRecorded candidate forwardPatchSha256
            rollbackPatchSha256 verified (replay rows candidate)))], .ok ()⟩ := by
  simp only [recordRollback, ArchiveOutcome.checked]
  cases hcheck : archive.checkRollback candidate forwardPatchSha256 rollbackPatchSha256 with
  | error error => exact Or.inl rfl
  | ok current =>
    right
    simp only [checkRollback, archiveSha256, except_bind_ok_iff, require_ok_iff] at hcheck
    obtain ⟨pair, hstate, -, hforward, -, hrollback, hcurrent⟩ := hcheck
    cases hcurrent
    obtain ⟨hcandidate, -, hreplay⟩ := candidateState_ok h hstate
    refine ⟨hcandidate, hforward, hrollback, ?_⟩
    simp only [ArchiveOutcome.appending, h.events, List.nil_append, hreplay]

theorem advanceSearchParent_cases (h : archive.Sound rows) (candidate decisionSha256 : String)
    (production : Bool) :
    (archive.advanceSearchParent candidate decisionSha256 production).writes = [] ∨
      archive.checkAdvance candidate decisionSha256 production = .ok () ∧
        archive.authority.searchParentSha256 ≠ candidate ∧
        archive.advanceSearchParent candidate decisionSha256 production =
          ⟨[.replaceAuthority (archive.advanced candidate decisionSha256),
            .appendRow (nextRow rows (.searchParentAdvanced candidate
              archive.authority.searchParentSha256 decisionSha256))], .ok ()⟩ := by
  simp only [advanceSearchParent, ArchiveOutcome.checked]
  cases hcheck : archive.checkAdvance candidate decisionSha256 production with
  | error error => exact Or.inl rfl
  | ok u =>
    by_cases hsame : archive.authority.searchParentSha256 = candidate
    · left
      simp only [if_pos hsame]
      split <;> rfl
    · right
      refine ⟨rfl, hsame, ?_⟩
      simp only [if_neg hsame, ArchiveOutcome.appending, h.events, List.cons_append,
        List.nil_append]

/-- The text that an accepted call writes and that nothing checks breaks no
line. -/
def WritesPlain (archive : CandidateArchive) : ArchiveCall → Prop
  | .registerCandidate changeset => archive.checkChangeSet changeset = .ok () →
      archive.directories.get? changeset.candidateAgentProgramSha256 = none →
        lineFree changeset.changesetId = true
  | .transition candidate target reason evidenceSha256 =>
    (∃ found, archive.checkTransition candidate target reason evidenceSha256 = .ok found) →
      lineFree reason = true
  | _ => True

theorem registrations_append (rows more : List ArchiveRow) :
    registrations (rows ++ more) = registrations rows ++ registrations more :=
  List.filterMap_append

theorem advances_append (rows more : List ArchiveRow) :
    advances (rows ++ more) = advances rows ++ advances more :=
  List.filterMap_append

theorem lines_appendRow (h : archive.Sound rows) {event : ArchiveEvent}
    (htexts : event.texts.all lineFree = true) :
    archive.lines ++ [(nextRow rows event).line] = (rows ++ [nextRow rows event]).map some := by
  rw [line_nextRow h.errors, if_pos htexts, h.lines, List.map_append, List.map_singleton]

theorem Sound.noted (h : archive.Sound rows) {event : ArchiveEvent}
    (htexts : event.texts.all lineFree = true) (hlegal : Legal rows event)
    (hcandidate : event.candidate ∈ archive.candidates)
    (hregistrations : registrations [nextRow rows event] = [])
    (hadvances : advances [nextRow rows event] = []) :
    ({ archive with lines := archive.lines ++ [(nextRow rows event).line] } :
      CandidateArchive).Sound (rows ++ [nextRow rows event]) where
  lines := lines_appendRow h htexts
  errors := by
    rw [rowErrors_nextRow]
    exact h.errors
  follows := follows_concat_iff.mpr ⟨h.follows, hlegal⟩
  stored := h.stored
  known := by
    intro row hrow
    rcases List.mem_append.mp hrow with hrow | hrow
    · exact h.known row hrow
    · rw [List.mem_singleton.mp hrow]
      exact hcandidate
  registered := by
    rw [registrations_append, hregistrations, List.append_nil]
    exact h.registered
  advanced := by
    rw [advances_append, hadvances, List.append_nil]
    exact h.advanced
  history := h.history
  originalSha256 := h.originalSha256
  seedSha256 := h.seedSha256
  parentSha256 := h.parentSha256
  production := h.production

theorem not_candidate_of_new {candidate : String}
    (hnew : archive.directories.get? candidate = none) : candidate ∉ archive.candidates := by
  intro hmem
  obtain ⟨blob, hblob⟩ := mem_candidates.mp hmem
  rw [blob?, hnew] at hblob
  cases hblob

def registration (changeset : InactiveChangeSet) : ArchiveEvent :=
  .candidateRegistered changeset.candidateAgentProgramSha256
    changeset.parentAgentProgramSha256 changeset.changesetId changeset.blob.archiveBlobSha256

theorem candidate_sha256 {changeset : InactiveChangeSet}
    (hcheck : archive.checkChangeSet changeset = .ok ()) :
    Sha256.isSha256 changeset.candidateAgentProgramSha256 = true := by
  simp only [checkChangeSet, archiveSha256, except_bind_ok_iff, require_ok_iff] at hcheck
  obtain ⟨-, -, -, -, -, -, -, -, hsha⟩ := hcheck
  exact hsha

theorem texts_registration (h : archive.Sound rows) {changeset : InactiveChangeSet}
    (hcheck : archive.checkChangeSet changeset = .ok ()) :
    (registration changeset).texts.all lineFree = lineFree changeset.changesetId := by
  have hcandidate := Json.lineFree_sha256 (candidate_sha256 hcheck)
  have hparent := Json.lineFree_sha256 (h.sha256_of_known (parent_known hcheck))
  have hblob : lineFree changeset.blob.archiveBlobSha256 = true :=
    Json.lineFree_sha256 (Json.contentSha256_isSha256 _)
  simp [registration, ArchiveEvent.texts, hcandidate, hparent, hblob]

/-- The archive after a new candidate is stored and its event appended. -/
def withCandidate (archive : CandidateArchive) (rows : List ArchiveRow)
    (changeset : InactiveChangeSet) : CandidateArchive where
  authority := archive.authority
  lines := archive.lines ++ [(nextRow rows (registration changeset)).line]
  directories := (archive.directories.set changeset.candidateAgentProgramSha256 none).set
    changeset.candidateAgentProgramSha256 (some changeset.blob)

theorem mem_withCandidate {changeset : InactiveChangeSet} {candidate : String} :
    candidate ∈ (archive.withCandidate rows changeset).candidates ↔
      candidate = changeset.candidateAgentProgramSha256 ∨ candidate ∈ archive.candidates := by
  simp only [mem_candidates, blob?, withCandidate, Dict.get?_set]
  by_cases hsame : candidate = changeset.candidateAgentProgramSha256
  · simp [hsame]
  · simp [hsame]

theorem Sound.withCandidate (h : archive.Sound rows) {changeset : InactiveChangeSet}
    (hcheck : archive.checkChangeSet changeset = .ok ())
    (hnew : archive.directories.get? changeset.candidateAgentProgramSha256 = none)
    (hplain : lineFree changeset.changesetId = true) :
    (archive.withCandidate rows changeset).Sound
      (rows ++ [nextRow rows (registration changeset)]) where
  lines := by
    apply lines_appendRow h
    rw [texts_registration h hcheck]
    exact hplain
  errors := by
    rw [rowErrors_nextRow]
    exact h.errors
  follows := by
    apply follows_concat_iff.mpr ⟨h.follows, ?_⟩
    intro row hrow heq
    exact not_candidate_of_new hnew (heq ▸ h.known row hrow)
  stored := by
    intro candidate held hheld
    simp only [CandidateArchive.withCandidate, Dict.get?_set] at hheld
    by_cases hsame : candidate = changeset.candidateAgentProgramSha256
    · subst hsame
      rw [if_pos rfl, Option.some.injEq] at hheld
      exact ⟨candidate_sha256 hcheck, changeset, rfl, h.sha256_of_known (parent_known hcheck),
        hheld.symm⟩
    · rw [if_neg hsame, if_neg hsame] at hheld
      exact h.stored candidate held hheld
  known := by
    intro row hrow
    rw [mem_withCandidate]
    rcases List.mem_append.mp hrow with hrow | hrow
    · exact Or.inr (h.known row hrow)
    · rw [List.mem_singleton.mp hrow]
      exact Or.inl rfl
  registered := by
    have hone : registrations [nextRow rows (registration changeset)] =
        [changeset.candidateAgentProgramSha256] := rfl
    rw [registrations_append, hone]
    constructor
    · refine List.nodup_append.mpr ⟨h.registered.1, List.nodup_singleton _, ?_⟩
      intro first hfirst second hsecond heq
      rw [List.mem_singleton.mp hsecond] at heq
      exact not_candidate_of_new hnew ((h.registered.2 _).mp (heq ▸ hfirst))
    · intro candidate
      rw [List.mem_append, List.mem_singleton, mem_withCandidate, h.registered.2, or_comm]
  advanced := by
    have hnone : advances [nextRow rows (registration changeset)] = [] := rfl
    rw [advances_append, hnone, List.append_nil]
    exact h.advanced
  history := h.history
  originalSha256 := h.originalSha256
  seedSha256 := h.seedSha256
  parentSha256 := h.parentSha256
  production := h.production

/-- The archive after an advance. -/
def withParent (archive : CandidateArchive) (rows : List ArchiveRow)
    (candidate decisionSha256 : String) : CandidateArchive where
  authority := archive.advanced candidate decisionSha256
  lines := archive.lines ++ [(nextRow rows (.searchParentAdvanced candidate
    archive.authority.searchParentSha256 decisionSha256)).line]
  directories := archive.directories

theorem Sound.withParent (h : archive.Sound rows) {candidate decisionSha256 : String}
    (hcandidate : candidate ∈ archive.candidates)
    (hdecision : Sha256.isSha256 decisionSha256 = true)
    (hselected : replay rows candidate = .selected)
    (hverified : ∃ row ∈ rows, verifiesRollback candidate row = true) :
    (archive.withParent rows candidate decisionSha256).Sound (rows ++
      [nextRow rows (.searchParentAdvanced candidate archive.authority.searchParentSha256
        decisionSha256)]) where
  lines := by
    apply lines_appendRow h
    simp [ArchiveEvent.texts, Json.lineFree_sha256 (h.sha256_of_candidate hcandidate),
      Json.lineFree_sha256 h.parentSha256, Json.lineFree_sha256 hdecision]
  errors := by
    rw [rowErrors_nextRow]
    exact h.errors
  follows := follows_concat_iff.mpr ⟨h.follows, hselected, hverified⟩
  stored := h.stored
  known := by
    intro row hrow
    rcases List.mem_append.mp hrow with hrow | hrow
    · exact h.known row hrow
    · rw [List.mem_singleton.mp hrow]
      exact hcandidate
  registered := by
    have hnone : registrations [nextRow rows (.searchParentAdvanced candidate
        archive.authority.searchParentSha256 decisionSha256)] = [] := rfl
    rw [registrations_append, hnone, List.append_nil]
    exact h.registered
  advanced := by
    have hone : advances [nextRow rows (.searchParentAdvanced candidate
        archive.authority.searchParentSha256 decisionSha256)] =
        [(candidate, archive.authority.searchParentSha256, decisionSha256)] := rfl
    rw [advances_append, hone, h.advanced]
    simp [CandidateArchive.withParent, CandidateArchive.advanced, ParentDecision.advance]
  history := by
    simp only [HistoryLeads, CandidateArchive.withParent, CandidateArchive.advanced, leads_concat]
    exact ⟨h.history, trivial⟩
  originalSha256 := h.originalSha256
  seedSha256 := h.seedSha256
  parentSha256 := h.sha256_of_candidate hcandidate
  production := h.production

theorem texts_stateChanged (h : archive.Sound rows) {candidate parent reason : String}
    {evidenceSha256 : String} {fromState toState : CandidateState}
    (hcandidate : candidate ∈ archive.candidates) (hparent : archive.Parent candidate parent)
    (hevidence : Sha256.isSha256 evidenceSha256 = true) :
    (ArchiveEvent.candidateStateChanged candidate parent fromState toState reason
      evidenceSha256).texts.all lineFree = lineFree reason := by
  simp [ArchiveEvent.texts, Json.lineFree_sha256 (h.sha256_of_candidate hcandidate),
    Json.lineFree_sha256 (h.sha256_of_parent hparent), Json.lineFree_sha256 hevidence]

theorem after_of_no_writes {call : ArchiveCall} (h : (archive.perform call).writes = []) :
    archive.after call = archive := by
  rw [after, h]
  rfl

theorem Sound.after (h : archive.Sound rows) {call : ArchiveCall}
    (hplain : archive.WritesPlain call) : ∃ more, (archive.after call).Sound (rows ++ more) := by
  have hsame : (archive.perform call).writes = [] →
      ∃ more, (archive.after call).Sound (rows ++ more) := by
    intro hnone
    refine ⟨[], ?_⟩
    rw [after_of_no_writes hnone, List.append_nil]
    exact h
  cases call with
  | registerCandidate changeset =>
    rcases registerCandidate_cases h changeset with hnone | ⟨hcheck, hnew, hwrites⟩
    · exact hsame hnone
    · refine ⟨[nextRow rows (registration changeset)], ?_⟩
      rw [CandidateArchive.after, perform, hwrites]
      exact h.withCandidate hcheck hnew (hplain hcheck hnew)
  | transition candidate target reason evidenceSha256 =>
    rcases transition_cases h candidate target reason evidenceSha256 with
      hnone | ⟨parent, toState, hcandidate, hparent, htarget, hevidence, hcheck, hwrites⟩
    · exact hsame hnone
    · refine ⟨[nextRow rows (.candidateStateChanged candidate parent (replay rows candidate)
        toState reason evidenceSha256)], ?_⟩
      rw [CandidateArchive.after, perform, hwrites]
      refine h.noted ?_ ⟨rfl, htarget⟩ hcandidate rfl rfl
      rw [texts_stateChanged h hcandidate hparent hevidence]
      exact hplain hcheck
  | recordRollback candidate forwardPatchSha256 rollbackPatchSha256 verified =>
    rcases recordRollback_cases h candidate forwardPatchSha256 rollbackPatchSha256 verified with
      hnone | ⟨hcandidate, hforward, hrollback, hwrites⟩
    · exact hsame hnone
    · refine ⟨[nextRow rows (.rollbackRecorded candidate forwardPatchSha256 rollbackPatchSha256
        verified (replay rows candidate))], ?_⟩
      rw [CandidateArchive.after, perform, hwrites]
      refine h.noted ?_ rfl hcandidate rfl rfl
      simp [ArchiveEvent.texts, Json.lineFree_sha256 (h.sha256_of_candidate hcandidate),
        Json.lineFree_sha256 hforward, Json.lineFree_sha256 hrollback]
  | advanceSearchParent candidate decisionSha256 production =>
    rcases advanceSearchParent_cases h candidate decisionSha256 production with
      hnone | ⟨hcheck, -, hwrites⟩
    · exact hsame hnone
    · obtain ⟨-, hdecision, hcandidate, hselected, hverified⟩ :=
        (checkAdvance_ok_iff h _ _ _).mp hcheck
      refine ⟨[nextRow rows (.searchParentAdvanced candidate
        archive.authority.searchParentSha256 decisionSha256)], ?_⟩
      rw [CandidateArchive.after, perform, hwrites]
      exact h.withParent hcandidate hdecision hselected hverified

theorem events_of_broken (h : none ∈ archive.lines) : archive.events ≠ .ok rows := by
  intro hevents
  rw [lines_of_events hevents] at h
  simp at h

theorem broken_of_not_plain (h : archive.Sound rows) {call : ArchiveCall}
    (hplain : ¬archive.WritesPlain call) : none ∈ (archive.after call).lines := by
  have hline : ∀ event : ArchiveEvent, event.texts.all lineFree = false →
      none ∈ archive.lines ++ [(nextRow rows event).line] := by
    intro event htexts
    rw [line_nextRow h.errors, htexts]
    simp
  cases call with
  | registerCandidate changeset =>
    rw [WritesPlain, Classical.not_imp, Classical.not_imp] at hplain
    obtain ⟨hcheck, hnew, htext⟩ := hplain
    rcases registerCandidate_cases h changeset with hnone | ⟨-, -, hwrites⟩
    · simp [registerCandidate, ArchiveOutcome.checked, hcheck, hnew, ArchiveOutcome.appending,
        h.events] at hnone
    · rw [CandidateArchive.after, perform, hwrites]
      apply hline (registration changeset)
      rw [texts_registration h hcheck]
      simpa using htext
  | transition candidate target reason evidenceSha256 =>
    rw [WritesPlain, Classical.not_imp] at hplain
    obtain ⟨⟨found, hcheck⟩, htext⟩ := hplain
    rcases transition_cases h candidate target reason evidenceSha256 with
      hnone | ⟨parent, toState, hcandidate, hparent, -, hevidence, -, hwrites⟩
    · simp [transition, ArchiveOutcome.checked, hcheck, ArchiveOutcome.appending,
        h.events] at hnone
    · rw [CandidateArchive.after, perform, hwrites]
      apply hline
      rw [texts_stateChanged h hcandidate hparent hevidence]
      simpa using htext
  | recordRollback candidate forwardPatchSha256 rollbackPatchSha256 verified =>
    exact absurd trivial hplain
  | advanceSearchParent candidate decisionSha256 production => exact absurd trivial hplain

/-- The search parent is the seed or a candidate that was selected, with a
verified rollback on record, when it was advanced, and still is selected. -/
def ParentSelected (archive : CandidateArchive) (rows : List ArchiveRow) : Prop :=
  archive.authority.searchParentSha256 = archive.authority.seedParentAgentProgramSha256 ∨
    ∃ before row after previous decision, rows = before ++ row :: after ∧
      row.event =
        .searchParentAdvanced archive.authority.searchParentSha256 previous decision ∧
      (∃ earlier ∈ before,
        verifiesRollback archive.authority.searchParentSha256 earlier = true) ∧
      replay before archive.authority.searchParentSha256 = .selected ∧
      replay rows archive.authority.searchParentSha256 = .selected

structure AuthorityHolds (archive : CandidateArchive) (rows : List ArchiveRow) : Prop where
  read : archive.events = .ok rows
  follows : Follows rows
  absorbing : Absorbing rows
  parent : archive.ParentSelected rows
  history : archive.HistoryLeads
  production : archive.authority.productionActiveRef = none
  valid : archive.verify = .ok []

theorem Sound.parentSelected (h : archive.Sound rows) : archive.ParentSelected rows := by
  have hhistory := h.history
  have hadvanced := h.advanced
  unfold HistoryLeads at hhistory
  cases hlist : archive.authority.searchParentHistory using List.reverseRecOn with
  | nil =>
    rw [hlist] at hhistory
    exact Or.inl hhistory.symm
  | append_singleton earlier last =>
    rw [hlist, leads_concat] at hhistory
    right
    have hmem : ParentDecision.advance last ∈ advances rows := by
      rw [hadvanced, hlist]
      simp
    obtain ⟨row, hrow, hevent⟩ := List.mem_filterMap.mp hmem
    split at hevent
    · rename_i candidate previous decision heq
      rw [Option.some.injEq, ParentDecision.advance, Prod.mk.injEq] at hevent
      obtain ⟨before, after, hrows⟩ := List.append_of_mem hrow
      rw [hevent.1, hhistory.2] at heq
      have hlegal := h.follows before row after hrows
      rw [heq] at hlegal
      refine ⟨before, row, after, previous, decision, hrows, heq, hlegal.2, hlegal.1, ?_⟩
      have hkept := h.follows.absorbing before (row :: after) _ hrows
        (show (replay before _).transitions = [] by rw [hlegal.1]; rfl)
      rw [hkept, hlegal.1]
    · cases hevent

theorem Sound.blobErrors (h : archive.Sound rows) : archive.blobErrors = [] := by
  rw [CandidateArchive.blobErrors, List.flatMap_eq_nil_iff]
  intro candidate _
  unfold blob?
  cases hheld : archive.directories.get? candidate with
  | none => rfl
  | some held =>
    obtain ⟨-, changeset, -, -, rfl⟩ := h.stored candidate held hheld
    exact if_pos rfl

theorem Sound.verify (h : archive.Sound rows) : archive.verify = .ok [] := by
  rw [CandidateArchive.verify, h.events]
  change Except.ok _ = _
  rw [h.errors, h.blobErrors, if_pos h.production]
  rfl

theorem Sound.authorityHolds (h : archive.Sound rows) : archive.AuthorityHolds rows :=
  { read := h.events, follows := h.follows, absorbing := h.follows.absorbing
    parent := h.parentSelected, history := h.history, production := h.production
    valid := h.verify }

theorem sound_create {original seed : String} (h : create original seed = .ok archive) :
    archive.Sound [] := by
  simp only [create, archiveSha256, except_bind_ok_iff, require_ok_iff] at h
  obtain ⟨-, horiginal, -, hseed, harchive⟩ := h
  cases harchive
  constructor
  · rfl
  · rfl
  · intro before row after hrows
    simp at hrows
  · intro candidate held hheld
    cases hheld
  · intro row hrow
    cases hrow
  · refine ⟨List.nodup_nil, ?_⟩
    intro candidate
    simp [registrations, mem_candidates, blob?]
  · rfl
  · rfl
  · exact horiginal
  · exact hseed
  · exact hseed
  · rfl

/-- All along a run the authority and the log agree exactly when no accepted
call writes a text that breaks a line. -/
theorem authority_holds_iff {original seed : String} (h : create original seed = .ok archive)
    (calls : List ArchiveCall) :
    Along (fun archive => ∃ rows, archive.AuthorityHolds rows) after archive calls ↔
      Guarded WritesPlain after archive calls := by
  apply along_iff_guarded (I := fun archive => ∃ rows, archive.Sound rows) _ _ _ _ _
    ⟨[], sound_create h⟩
  · intro archive ⟨rows, h⟩
    exact ⟨rows, h.authorityHolds⟩
  · intro archive call ⟨rows, h⟩ hplain
    obtain ⟨more, hmore⟩ := h.after hplain
    exact ⟨rows ++ more, hmore⟩
  · intro archive call ⟨rows, h⟩ ⟨after, hafter⟩
    by_contra hplain
    exact events_of_broken (broken_of_not_plain h hplain) hafter.read

def separated : String := "passed\u2028twice"

def evidenceDigest : String :=
  "cccccccccccccccccccccccccccccccccccccccccccccccccccccccccccccccc"

/-- The seed is registered as a candidate and its evaluation begins. -/
def evaluating (reason : String) : List ArchiveCall :=
  [.registerCandidate (changesetOf seedProgram originalProgram),
    .transition seedProgram "evaluating" reason evidenceDigest]

theorem registered_seed (h : create originalProgram seedProgram = .ok archive) :
    (archive.after (.registerCandidate (changesetOf seedProgram originalProgram))).Sound
        [nextRow [] (registration (changesetOf seedProgram originalProgram))] ∧
      ∃ found, (archive.after (.registerCandidate
        (changesetOf seedProgram originalProgram))).checkTransition seedProgram "evaluating"
          separated evidenceDigest = .ok found := by
  obtain ⟨created, hcreated, horiginal, -, hempty⟩ := exists_created
  obtain rfl : created = archive := Except.ok.inj (hcreated.symm.trans h)
  have hsound := sound_create h
  have hcheck := check_changesetOf (show seedProgram ≠ originalProgram by decide) horiginal
    seedProgram_sha256
  have hnew : created.directories.get?
      (changesetOf seedProgram originalProgram).candidateAgentProgramSha256 = none := by
    rw [hempty]
    rfl
  have hafter : created.after (.registerCandidate (changesetOf seedProgram originalProgram)) =
      created.withCandidate [] (changesetOf seedProgram originalProgram) := by
    rcases registerCandidate_cases hsound (changesetOf seedProgram originalProgram) with
      hnone | ⟨-, -, hwrites⟩
    · simp [registerCandidate, ArchiveOutcome.checked, hcheck, hnew, ArchiveOutcome.appending,
        hsound.events] at hnone
    · rw [CandidateArchive.after, perform, hwrites]
      rfl
  have hnext := hsound.withCandidate hcheck hnew (show lineFree "changeset" = true by decide)
  rw [hafter]
  refine ⟨hnext, ?_⟩
  have htext : Contracts.isText separated = true := by decide
  have hevidence : Sha256.isSha256 evidenceDigest = true := by decide
  have hblob : (created.withCandidate [] (changesetOf seedProgram originalProgram)).blob?
      seedProgram = some (changesetOf seedProgram originalProgram).blob := by
    simp [blob?, CandidateArchive.withCandidate, changesetOf]
  have hreplay : replay [nextRow [] (registration (changesetOf seedProgram originalProgram))]
      seedProgram = .inactive := rfl
  have hstate : (created.withCandidate [] (changesetOf seedProgram originalProgram)).candidateState
      seedProgram = .ok ((changesetOf seedProgram originalProgram).blob, .inactive) := by
    rw [candidateState, hblob, hnext.events, archiveSha256, require, if_pos seedProgram_sha256]
    exact congrArg (fun state => Except.ok (_, state)) hreplay
  refine ⟨((changesetOf seedProgram originalProgram).blob, .inactive, .evaluating), ?_⟩
  rw [checkTransition, archiveSha256, require, require, if_pos htext, if_pos hevidence, hstate]
  rfl

/-- A reason with a line separator makes the log unreadable. -/
theorem separated_reason_breaks :
    ∃ archive, create originalProgram seedProgram = .ok archive ∧
      ¬∃ rows, (run after archive (evaluating separated)).AuthorityHolds rows := by
  obtain ⟨archive, hcreate, -⟩ := exists_created
  obtain ⟨hsound, hcheck⟩ := registered_seed hcreate
  refine ⟨archive, hcreate, ?_⟩
  intro ⟨rows, hholds⟩
  apply events_of_broken _ hholds.read
  rw [evaluating, run_cons, run_cons, run_nil]
  apply broken_of_not_plain hsound
  intro hplain
  exact absurd (hplain hcheck) (by decide)

theorem authority_holds_of_plain :
    ∃ archive, create originalProgram seedProgram = .ok archive ∧
      (Along (fun archive => ∃ rows, archive.AuthorityHolds rows) after archive
          (evaluating "started") ↔
        Guarded WritesPlain after archive (evaluating "started")) := by
  obtain ⟨archive, hcreate, -⟩ := exists_created
  exact ⟨archive, hcreate, authority_holds_iff hcreate (evaluating "started")⟩

end CandidateArchive

end JlensEvolve.Evolution
