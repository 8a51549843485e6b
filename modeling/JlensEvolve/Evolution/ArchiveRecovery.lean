import JlensEvolve.Evolution.ArchiveRuns

/-!
Registrations and advances that are cut off between two of their durable writes
and issued again. Whether a call was made before is read off the directory of
the candidate or off the search parent, neither of which is written last.
-/

namespace JlensEvolve.Evolution

open Library

/-- The calls that make more than one durable write. -/
inductive RecoverableCall where
  | registerCandidate (changeset : InactiveChangeSet)
  | advanceSearchParent (candidate decisionSha256 : String) (production : Bool)

def RecoverableCall.call : RecoverableCall → ArchiveCall
  | registerCandidate changeset => .registerCandidate changeset
  | advanceSearchParent candidate decisionSha256 production =>
    .advanceSearchParent candidate decisionSha256 production

inductive ArchiveAttempt where
  | whole (call : ArchiveCall)
  /-- A crash after that many durable writes, then the same call again. -/
  | crashed (call : RecoverableCall) (writes : Nat)

/-- The archive, and whether every call that was cut off and would have returned
returned when it was issued again. -/
structure ArchiveTrial where
  archive : CandidateArchive
  recovered : Bool

namespace CandidateArchive

def returns (archive : CandidateArchive) (call : ArchiveCall) : Bool :=
  (archive.perform call).answer.isOk

end CandidateArchive

namespace ArchiveTrial

open CandidateArchive

def step (trial : ArchiveTrial) : ArchiveAttempt → ArchiveTrial
  | .whole call => { trial with archive := trial.archive.after call }
  | .crashed call writes =>
    let archive := trial.archive.cutOff call.call writes
    { archive := archive.after call.call
      recovered := trial.recovered &&
        (!trial.archive.returns call.call || archive.returns call.call) }

/-- One event for each stored candidate, and one for each entry of the history,
in its order. -/
structure Complete (archive : CandidateArchive) (rows : List ArchiveRow) : Prop where
  read : archive.events = .ok rows
  nodup : (registrations rows).Nodup
  registered : ∀ candidate, candidate ∈ registrations rows ↔ candidate ∈ archive.candidates
  advanced : advances rows = archive.authority.searchParentHistory.map ParentDecision.advance

structure Recovers (trial : ArchiveTrial) : Prop where
  recovered : trial.recovered = true
  complete : ∃ rows, Complete trial.archive rows

/-- The text that an accepted call writes breaks no line, and a crash comes
before the first durable write of its call or after the last. -/
def CrashedOutside (trial : ArchiveTrial) : ArchiveAttempt → Prop
  | .whole call => trial.archive.WritesPlain call
  | .crashed call writes => trial.archive.WritesPlain call.call ∧
      (writes = 0 ∨ (trial.archive.perform call.call).writes.length ≤ writes)

end ArchiveTrial

namespace CandidateArchive

variable {archive : CandidateArchive} {rows : List ArchiveRow} {call : ArchiveCall}
  {changeset : InactiveChangeSet}

theorem Sound.complete (h : archive.Sound rows) : ArchiveTrial.Complete archive rows :=
  ⟨h.events, h.registered.1, h.registered.2, h.advanced⟩

theorem cutOff_zero (archive : CandidateArchive) (call : ArchiveCall) :
    archive.cutOff call 0 = archive := rfl

theorem cutOff_of_length_le {writes : Nat} (h : (archive.perform call).writes.length ≤ writes) :
    archive.cutOff call writes = archive.after call := by
  rw [cutOff, List.take_of_length_le h, after]

theorem perform_new (h : archive.Sound rows)
    (hcheck : archive.checkChangeSet changeset = .ok ())
    (hnew : archive.directories.get? changeset.candidateAgentProgramSha256 = none) :
    archive.perform (.registerCandidate changeset) =
      ⟨[.makeDirectory changeset.candidateAgentProgramSha256,
        .replaceBlob changeset.candidateAgentProgramSha256 changeset.blob,
        .appendRow (nextRow rows (registration changeset))], .ok ()⟩ := by
  rcases registerCandidate_cases h changeset with hnone | ⟨-, -, hwrites⟩
  · simp [registerCandidate, ArchiveOutcome.checked, hcheck, hnew, ArchiveOutcome.appending,
      h.events] at hnone
  · exact hwrites

theorem checkChangeSet_mono {later : CandidateArchive}
    (hauthority : later.authority = archive.authority)
    (hcandidates : ∀ candidate ∈ archive.candidates, candidate ∈ later.candidates)
    (hcheck : archive.checkChangeSet changeset = .ok ()) :
    later.checkChangeSet changeset = .ok () := by
  have hknown : changeset.parentAgentProgramSha256 ∈ later.knownPrograms := by
    have hbefore := parent_known hcheck
    rw [mem_knownPrograms] at hbefore ⊢
    unfold IsRoot at hbefore ⊢
    rw [hauthority]
    exact hbefore.imp_right (hcandidates _)
  simp only [checkChangeSet, except_bind_ok_iff, require_ok_iff] at hcheck ⊢
  obtain ⟨_, hinactive, _, hpromotion, _, hcycle, _, -, hsha⟩ := hcheck
  exact ⟨(), hinactive, (), hpromotion, (), hcycle, (), hknown, hsha⟩

theorem perform_stored (hcheck : archive.checkChangeSet changeset = .ok ())
    (hstored : archive.directories.get? changeset.candidateAgentProgramSha256 =
      some (some changeset.blob)) :
    archive.perform (.registerCandidate changeset) = .unchanged := by
  simp only [perform, registerCandidate, ArchiveOutcome.checked, hcheck, hstored]
  rw [if_pos (Json.pyEq_self _)]

theorem perform_directory (hcheck : archive.checkChangeSet changeset = .ok ())
    (hempty : archive.directories.get? changeset.candidateAgentProgramSha256 = some none) :
    archive.perform (.registerCandidate changeset) = .refused .fileExistsError := by
  simp only [perform, registerCandidate, ArchiveOutcome.checked, hcheck, hempty]

theorem perform_current {candidate decisionSha256 : String} {production : Bool}
    (hcheck : archive.checkAdvance candidate decisionSha256 production = .ok ())
    (hcurrent : archive.authority.searchParentSha256 = candidate)
    (hhistory : archive.authority.searchParentHistory ≠ []) :
    archive.perform (.advanceSearchParent candidate decisionSha256 production) = .unchanged := by
  simp only [perform, advanceSearchParent, ArchiveOutcome.checked, hcheck, if_pos hcurrent]
  cases hlist : archive.authority.searchParentHistory with
  | nil => exact absurd hlist hhistory
  | cons decision history => rfl

theorem checkAdvance_withParent (h : archive.Sound rows) {candidate decisionSha256 : String}
    {production : Bool}
    (hcheck : archive.checkAdvance candidate decisionSha256 production = .ok ()) :
    (archive.withParent rows candidate decisionSha256).checkAdvance candidate decisionSha256
      production = .ok () := by
  obtain ⟨hproduction, hdecision, hcandidate, hselected, row, hrow, hverified⟩ :=
    (checkAdvance_ok_iff h _ _ _).mp hcheck
  have hlater := h.withParent hcandidate hdecision hselected ⟨row, hrow, hverified⟩
  refine (checkAdvance_ok_iff hlater _ _ _).mpr ⟨hproduction, hdecision, hcandidate, ?_, row,
    List.mem_append_left _ hrow, hverified⟩
  rw [replay_concat]
  exact if_pos rfl

theorem perform_again (h : archive.Sound rows) (call : RecoverableCall) :
    (archive.perform call.call).writes = [] ∨
      (archive.after call.call).perform call.call = .unchanged := by
  cases call with
  | registerCandidate changeset =>
    rcases registerCandidate_cases h changeset with hnone | ⟨hcheck, hnew, hwrites⟩
    · exact Or.inl hnone
    · right
      have hafter : archive.after (.registerCandidate changeset) =
          archive.withCandidate rows changeset := by
        rw [CandidateArchive.after, perform, hwrites]
        rfl
      rw [RecoverableCall.call, hafter]
      apply perform_stored
      · refine checkChangeSet_mono (show (archive.withCandidate rows changeset).authority =
          archive.authority from rfl) ?_ hcheck
        intro candidate hcandidate
        exact mem_withCandidate.mpr (Or.inr hcandidate)
      · exact Dict.get?_set_self _ _ _
  | advanceSearchParent candidate decisionSha256 production =>
    rcases advanceSearchParent_cases h candidate decisionSha256 production with
      hnone | ⟨hcheck, -, hwrites⟩
    · exact Or.inl hnone
    · right
      have hafter : archive.after (.advanceSearchParent candidate decisionSha256 production) =
          archive.withParent rows candidate decisionSha256 := by
        rw [CandidateArchive.after, perform, hwrites]
        rfl
      rw [RecoverableCall.call, hafter]
      apply perform_current (checkAdvance_withParent h hcheck) rfl
      simp [withParent, advanced]

end CandidateArchive

namespace ArchiveTrial

open CandidateArchive

variable {trial : ArchiveTrial} {attempt : ArchiveAttempt}

/-- What a run keeps. -/
structure Kept (trial : ArchiveTrial) : Prop where
  recovered : trial.recovered = true
  sound : ∃ rows, trial.archive.Sound rows

theorem Kept.recovers (h : trial.Kept) : trial.Recovers := by
  obtain ⟨rows, hsound⟩ := h.sound
  exact ⟨h.recovered, rows, hsound.complete⟩

theorem Kept.step (h : trial.Kept) (hguard : trial.CrashedOutside attempt) :
    (trial.step attempt).Kept := by
  obtain ⟨rows, hsound⟩ := h.sound
  cases attempt with
  | whole call =>
    obtain ⟨more, hmore⟩ := hsound.after hguard
    exact ⟨h.recovered, rows ++ more, hmore⟩
  | crashed call writes =>
    obtain ⟨hplain, hwrites⟩ := hguard
    obtain ⟨more, hmore⟩ := hsound.after hplain
    rcases hwrites with rfl | hall
    · refine ⟨?_, rows ++ more, hmore⟩
      simp only [ArchiveTrial.step, cutOff_zero, h.recovered, Bool.true_and]
      cases trial.archive.returns call.call <;> rfl
    · rcases perform_again hsound call with hnone | hagain
      · have hsame := after_of_no_writes hnone
        refine ⟨?_, rows ++ more, ?_⟩
        · simp only [ArchiveTrial.step, cutOff_of_length_le hall, hsame, h.recovered,
            Bool.true_and]
          cases trial.archive.returns call.call <;> rfl
        · simp only [ArchiveTrial.step, cutOff_of_length_le hall]
          rw [hsame]
          exact hmore
      · refine ⟨?_, rows ++ more, ?_⟩
        · simp only [ArchiveTrial.step, cutOff_of_length_le hall, h.recovered, Bool.true_and,
            returns, hagain]
          exact Bool.or_true _
        · simp only [ArchiveTrial.step, cutOff_of_length_le hall]
          rw [after_of_no_writes (show _ = [] by rw [hagain]; rfl)]
          exact hmore

theorem not_complete_of_broken {archive : CandidateArchive} {rows : List ArchiveRow}
    (h : none ∈ archive.lines) : ¬Complete archive rows :=
  fun hcomplete => events_of_broken h hcomplete.read

section Registration

variable {archive : CandidateArchive} {rows : List ArchiveRow} {changeset : InactiveChangeSet}

/-- The archive with the empty directory of a new candidate. -/
def withDirectory (archive : CandidateArchive) (changeset : InactiveChangeSet) :
    CandidateArchive :=
  { archive with
    directories := archive.directories.set changeset.candidateAgentProgramSha256 none }

/-- The archive with the blob of a new candidate. -/
def withBlob (archive : CandidateArchive) (changeset : InactiveChangeSet) : CandidateArchive :=
  { archive with
    directories := (archive.directories.set changeset.candidateAgentProgramSha256 none).set
      changeset.candidateAgentProgramSha256 (some changeset.blob) }

theorem perform_withDirectory (hcheck : archive.checkChangeSet changeset = .ok ())
    (hnew : archive.directories.get? changeset.candidateAgentProgramSha256 = none) :
    (withDirectory archive changeset).perform (.registerCandidate changeset) =
      .refused .fileExistsError := by
  apply perform_directory
  · refine checkChangeSet_mono (show (withDirectory archive changeset).authority =
      archive.authority from rfl) ?_ hcheck
    intro candidate hcandidate
    have hne : candidate ≠ changeset.candidateAgentProgramSha256 := by
      intro heq
      exact not_candidate_of_new hnew (heq ▸ hcandidate)
    obtain ⟨blob, hblob⟩ := mem_candidates.mp hcandidate
    refine mem_candidates.mpr ⟨blob, ?_⟩
    rw [blob?, withDirectory, Dict.get?_set_of_ne _ _ hne]
    exact hblob
  · exact Dict.get?_set_self _ _ _

theorem perform_withBlob (hcheck : archive.checkChangeSet changeset = .ok ())
    (hnew : archive.directories.get? changeset.candidateAgentProgramSha256 = none) :
    (withBlob archive changeset).perform (.registerCandidate changeset) = .unchanged := by
  apply perform_stored
  · refine checkChangeSet_mono (show (withBlob archive changeset).authority =
      archive.authority from rfl) ?_ hcheck
    intro candidate hcandidate
    have hne : candidate ≠ changeset.candidateAgentProgramSha256 := by
      intro heq
      exact not_candidate_of_new hnew (heq ▸ hcandidate)
    obtain ⟨blob, hblob⟩ := mem_candidates.mp hcandidate
    refine mem_candidates.mpr ⟨blob, ?_⟩
    rw [blob?, withBlob, Dict.get?_set_of_ne _ _ hne, Dict.get?_set_of_ne _ _ hne]
    exact hblob
  · exact Dict.get?_set_self _ _ _

theorem not_recovers_directory (h : trial.archive.Sound rows)
    (hcheck : trial.archive.checkChangeSet changeset = .ok ())
    (hnew : trial.archive.directories.get? changeset.candidateAgentProgramSha256 = none) :
    ¬(trial.step (.crashed (.registerCandidate changeset) 1)).Recovers := by
  intro hrecovers
  have hcut : trial.archive.cutOff (.registerCandidate changeset) 1 =
      withDirectory trial.archive changeset := by
    rw [cutOff, perform_new h hcheck hnew]
    rfl
  have hfirst : trial.archive.returns (.registerCandidate changeset) = true := by
    rw [returns, perform_new h hcheck hnew]
    rfl
  have hsecond :
      (withDirectory trial.archive changeset).returns (.registerCandidate changeset) = false := by
    rw [returns, perform_withDirectory hcheck hnew]
    rfl
  have hrecovered := hrecovers.recovered
  simp [ArchiveTrial.step, RecoverableCall.call, hcut, hfirst, hsecond] at hrecovered

/-- A registration cut off after the blob returns when it is issued again and
leaves the candidate without its event. -/
theorem not_recovers_blob (h : trial.archive.Sound rows)
    (hcheck : trial.archive.checkChangeSet changeset = .ok ())
    (hnew : trial.archive.directories.get? changeset.candidateAgentProgramSha256 = none) :
    ¬(trial.step (.crashed (.registerCandidate changeset) 2)).Recovers := by
  intro hrecovers
  obtain ⟨read, hcomplete⟩ := hrecovers.complete
  have hcut : trial.archive.cutOff (.registerCandidate changeset) 2 =
      withBlob trial.archive changeset := by
    rw [cutOff, perform_new h hcheck hnew]
    rfl
  have hafter : (trial.step (.crashed (.registerCandidate changeset) 2)).archive =
      withBlob trial.archive changeset := by
    simp only [ArchiveTrial.step, RecoverableCall.call, hcut]
    apply after_of_no_writes
    rw [perform_withBlob hcheck hnew]
    rfl
  rw [hafter] at hcomplete
  have hread : rows = read := Except.ok.inj (h.events.symm.trans hcomplete.read)
  have hstored : changeset.candidateAgentProgramSha256 ∈ registrations read := by
    rw [hcomplete.registered, mem_candidates]
    exact ⟨changeset.blob, by simp [blob?, withBlob]⟩
  rw [← hread] at hstored
  exact not_candidate_of_new hnew ((h.registered.2 _).mp hstored)

end Registration

/-- An advance cut off after the authority returns when it is issued again and
leaves the history without its event. -/
theorem not_recovers_authority {rows : List ArchiveRow} (h : trial.archive.Sound rows)
    {candidate decisionSha256 : String} {production : Bool}
    (hcheck : trial.archive.checkAdvance candidate decisionSha256 production = .ok ())
    (hnew : trial.archive.authority.searchParentSha256 ≠ candidate)
    (hwrites : trial.archive.advanceSearchParent candidate decisionSha256 production =
      ⟨[.replaceAuthority (trial.archive.advanced candidate decisionSha256),
        .appendRow (nextRow rows (.searchParentAdvanced candidate
          trial.archive.authority.searchParentSha256 decisionSha256))], .ok ()⟩) :
    ¬(trial.step (.crashed (.advanceSearchParent candidate decisionSha256 production)
      1)).Recovers := by
  intro hrecovers
  obtain ⟨read, hcomplete⟩ := hrecovers.complete
  have hcut : trial.archive.cutOff (.advanceSearchParent candidate decisionSha256 production) 1 =
      { trial.archive with authority := trial.archive.advanced candidate decisionSha256 } := by
    rw [cutOff, perform, hwrites]
    rfl
  have hafter : (trial.step (.crashed (.advanceSearchParent candidate decisionSha256 production)
      1)).archive =
        { trial.archive with authority := trial.archive.advanced candidate decisionSha256 } := by
    simp only [ArchiveTrial.step, RecoverableCall.call, hcut]
    apply after_of_no_writes
    rw [perform_current (show CandidateArchive.checkAdvance { trial.archive with
      authority := trial.archive.advanced candidate decisionSha256 } candidate decisionSha256
        production = .ok () from hcheck) rfl (by simp [advanced])]
    rfl
  rw [hafter] at hcomplete
  have hread : rows = read := Except.ok.inj (h.events.symm.trans hcomplete.read)
  have hlength := congrArg List.length (hcomplete.advanced.symm.trans (hread ▸ h.advanced))
  simp [advanced] at hlength

theorem archive_of_outside {rows : List ArchiveRow} {changeset : InactiveChangeSet}
    (h : trial.archive.Sound rows) {writes : ℕ} (houtside : writes = 0 ∨ 3 ≤ writes)
    {first second third : ArchiveWrite} {answer : Except ArchiveError Unit}
    (hwrites : trial.archive.registerCandidate changeset = ⟨[first, second, third], answer⟩) :
    (trial.step (.crashed (.registerCandidate changeset) writes)).archive =
      trial.archive.after (.registerCandidate changeset) := by
  simp only [ArchiveTrial.step, RecoverableCall.call]
  rcases houtside with rfl | hall
  · rw [cutOff_zero]
  · rw [cutOff_of_length_le (by rw [perform, hwrites]; exact hall)]
    apply after_of_no_writes
    rcases perform_again h (.registerCandidate changeset) with hnone | hagain
    · simp [RecoverableCall.call, perform, hwrites] at hnone
    · rw [RecoverableCall.call] at hagain
      rw [hagain]
      rfl

theorem Kept.crashedOutside (h : trial.Kept) (hnext : (trial.step attempt).Recovers) :
    trial.CrashedOutside attempt := by
  obtain ⟨rows, hsound⟩ := h.sound
  cases attempt with
  | whole call =>
    by_contra hplain
    obtain ⟨read, hcomplete⟩ := hnext.complete
    exact not_complete_of_broken (broken_of_not_plain hsound hplain) hcomplete
  | crashed call writes =>
    cases call with
    | registerCandidate changeset =>
      rcases registerCandidate_cases hsound changeset with hnone | ⟨hcheck, hnew, hwrites⟩
      · refine ⟨?_, Or.inr (by simp [RecoverableCall.call, perform, hnone])⟩
        intro hcheck hnew
        have hwrites := perform_new hsound hcheck hnew
        rw [perform] at hwrites
        rw [hwrites] at hnone
        cases hnone
      · have hplain : writes = 0 ∨ 3 ≤ writes →
            trial.archive.WritesPlain (.registerCandidate changeset) := by
          intro houtside
          by_contra hplain
          obtain ⟨read, hcomplete⟩ := hnext.complete
          apply not_complete_of_broken _ hcomplete
          rw [archive_of_outside hsound houtside hwrites]
          exact broken_of_not_plain hsound hplain
        have houtside : writes = 0 ∨ 3 ≤ writes := by
          by_contra hinside
          obtain rfl | rfl : writes = 1 ∨ writes = 2 := by omega
          · exact not_recovers_directory hsound hcheck hnew hnext
          · exact not_recovers_blob hsound hcheck hnew hnext
        refine ⟨hplain houtside, ?_⟩
        rw [RecoverableCall.call, perform, hwrites]
        exact houtside
    | advanceSearchParent candidate decisionSha256 production =>
      refine ⟨trivial, ?_⟩
      rcases advanceSearchParent_cases hsound candidate decisionSha256 production with
        hnone | ⟨hcheck, hnew, hwrites⟩
      · exact Or.inr (by simp [RecoverableCall.call, perform, hnone])
      · rw [RecoverableCall.call, perform, hwrites]
        by_contra hinside
        obtain rfl : writes = 1 := by
          simp only [List.length_cons, List.length_nil] at hinside
          omega
        exact not_recovers_authority hsound hcheck hnew hwrites hnext

/-- Every call that is cut off is completed by issuing it again, all along a
run, exactly when no crash falls between two of its durable writes and no
accepted call writes a text that breaks a line. -/
theorem recovers_iff {archive : CandidateArchive} {original seed : String}
    (h : CandidateArchive.create original seed = .ok archive) (attempts : List ArchiveAttempt) :
    Along Recovers step ⟨archive, true⟩ attempts ↔
      Guarded CrashedOutside step ⟨archive, true⟩ attempts := by
  apply along_iff_guarded (I := Kept) _ _ _ _ _ ⟨rfl, [], sound_create h⟩
  · intro trial h
    exact h.recovers
  · intro trial attempt h hguard
    exact h.step hguard
  · intro trial attempt h hnext
    exact h.crashedOutside hnext

/-- The seed registered as a candidate, with a crash after that many writes. -/
def crashingSeed (writes : ℕ) : List ArchiveAttempt :=
  [.crashed (.registerCandidate (changesetOf seedProgram originalProgram)) writes]

/-- After the directory the call raises, after the blob its event is missing. -/
theorem crashes_not_recovered :
    ∃ archive, CandidateArchive.create originalProgram seedProgram = .ok archive ∧
      ¬(run step ⟨archive, true⟩ (crashingSeed 1)).Recovers ∧
      ¬(run step ⟨archive, true⟩ (crashingSeed 2)).Recovers := by
  obtain ⟨archive, hcreate, horiginal, -, hempty⟩ := exists_created
  have hsound : (⟨archive, true⟩ : ArchiveTrial).archive.Sound [] := sound_create hcreate
  have hcheck := check_changesetOf (show seedProgram ≠ originalProgram by decide) horiginal
    seedProgram_sha256
  have hnew : archive.directories.get?
      (changesetOf seedProgram originalProgram).candidateAgentProgramSha256 = none := by
    rw [hempty]
    rfl
  exact ⟨archive, hcreate, not_recovers_directory hsound hcheck hnew,
    not_recovers_blob hsound hcheck hnew⟩

theorem recovers_of_whole :
    ∃ archive, CandidateArchive.create originalProgram seedProgram = .ok archive ∧
      (Along Recovers step ⟨archive, true⟩ (crashingSeed 3) ↔
        Guarded CrashedOutside step ⟨archive, true⟩ (crashingSeed 3)) := by
  obtain ⟨archive, hcreate, -⟩ := exists_created
  exact ⟨archive, hcreate, recovers_iff hcreate (crashingSeed 3)⟩

end ArchiveTrial

end JlensEvolve.Evolution
