import JlensEvolve.Evolution.CandidateArchive
import JlensEvolve.Library.Links
import JlensEvolve.Library.Transition

/-!
The parent relation over the candidates of an archive. A registration asks that
the parent is known and that no candidate is its own parent; a root that is
registered as a candidate can still come to stand below itself.
-/

namespace JlensEvolve.Evolution

open Library Relation

namespace CandidateArchive

variable (archive : CandidateArchive)

/-- The blob of the candidate names the parent. -/
def Parent (candidate parent : String) : Prop :=
  ∃ blob, archive.blob? candidate = some blob ∧
    blob.changeset.parentAgentProgramSha256 = parent

def IsRoot (program : String) : Prop :=
  program = archive.authority.originalAgentProgramSha256 ∨
    program = archive.authority.seedParentAgentProgramSha256

/-- No cycle, and following parents from any candidate ends at a root. -/
structure LineageSound : Prop where
  acyclic : Acyclic archive.Parent
  ends : ∀ candidate ∈ archive.candidates, EndsIn archive.Parent archive.IsRoot candidate

/-- A registration that stores a new candidate names a parent that does not
descend from it. -/
def KeepsLineage (changeset : InactiveChangeSet) : Prop :=
  archive.checkChangeSet changeset = .ok () →
    archive.directories.get? changeset.candidateAgentProgramSha256 = none →
      ¬ReflTransGen archive.Parent changeset.parentAgentProgramSha256
        changeset.candidateAgentProgramSha256

def registered (changeset : InactiveChangeSet) : CandidateArchive :=
  archive.after (.registerCandidate changeset)

variable {archive} {changeset : InactiveChangeSet}

theorem mem_candidates {candidate : String} :
    candidate ∈ archive.candidates ↔ ∃ blob, archive.blob? candidate = some blob := by
  rw [candidates, List.mem_insertionSort, List.mem_filter, Option.isSome_iff_exists,
    and_iff_right_iff_imp]
  intro ⟨blob, hblob⟩
  rw [Dict.mem_keys_iff]
  unfold blob? at hblob
  cases hget : archive.directories.get? candidate with
  | none => simp [hget] at hblob
  | some found => rfl

theorem mem_knownPrograms {program : String} :
    program ∈ archive.knownPrograms ↔ archive.IsRoot program ∨ program ∈ archive.candidates := by
  simp [knownPrograms, IsRoot, or_assoc]

theorem registered_of_new (hcheck : archive.checkChangeSet changeset = .ok ())
    (hnew : archive.directories.get? changeset.candidateAgentProgramSha256 = none) :
    (archive.registered changeset).authority = archive.authority ∧
      (archive.registered changeset).directories =
        (archive.directories.set changeset.candidateAgentProgramSha256 none).set
          changeset.candidateAgentProgramSha256 (some changeset.blob) := by
  simp only [registered, after, perform, registerCandidate, hcheck, hnew, ArchiveOutcome.checked,
    ArchiveOutcome.appending]
  cases archive.events with
  | ok rows => exact ⟨rfl, rfl⟩
  | error error => exact ⟨rfl, rfl⟩

theorem registered_of_refused (hcheck : archive.checkChangeSet changeset ≠ .ok ()) :
    archive.registered changeset = archive := by
  simp only [registered, after, perform, registerCandidate, ArchiveOutcome.checked]
  cases hanswer : archive.checkChangeSet changeset with
  | ok u => exact absurd hanswer hcheck
  | error error => rfl

theorem registered_of_present {held : Option CandidateBlob}
    (hheld : archive.directories.get? changeset.candidateAgentProgramSha256 = some held) :
    archive.registered changeset = archive := by
  simp only [registered, after, perform, registerCandidate, ArchiveOutcome.checked, hheld]
  cases archive.checkChangeSet changeset with
  | error error => rfl
  | ok u =>
    cases held with
    | none => rfl
    | some blob =>
      simp only
      split <;> rfl

theorem parent_registered (hcheck : archive.checkChangeSet changeset = .ok ())
    (hnew : archive.directories.get? changeset.candidateAgentProgramSha256 = none) :
    (archive.registered changeset).Parent =
      WithEdge archive.Parent changeset.candidateAgentProgramSha256
        changeset.parentAgentProgramSha256 := by
  obtain ⟨-, hdirectories⟩ := registered_of_new hcheck hnew
  funext candidate parent
  apply propext
  simp only [Parent, WithEdge, blob?, hdirectories, Dict.get?_set]
  by_cases hsame : candidate = changeset.candidateAgentProgramSha256
  · subst hsame
    simp [hnew, InactiveChangeSet.blob, eq_comm]
  · simp [hsame]

theorem mem_candidates_registered (hcheck : archive.checkChangeSet changeset = .ok ())
    (hnew : archive.directories.get? changeset.candidateAgentProgramSha256 = none)
    {candidate : String} :
    candidate ∈ (archive.registered changeset).candidates ↔
      candidate = changeset.candidateAgentProgramSha256 ∨ candidate ∈ archive.candidates := by
  obtain ⟨-, hdirectories⟩ := registered_of_new hcheck hnew
  simp only [mem_candidates, blob?, hdirectories, Dict.get?_set]
  by_cases hsame : candidate = changeset.candidateAgentProgramSha256
  · simp [hsame]
  · simp [hsame]

theorem parent_known (hcheck : archive.checkChangeSet changeset = .ok ()) :
    changeset.parentAgentProgramSha256 ∈ archive.knownPrograms := by
  simp only [checkChangeSet, except_bind_ok_iff, require_ok_iff] at hcheck
  obtain ⟨-, -, -, -, -, -, -, hknown, -⟩ := hcheck
  exact hknown

theorem parent_unique : Relator.RightUnique archive.Parent := by
  intro candidate first second ⟨blob, hblob, hfirst⟩ ⟨other, hother, hsecond⟩
  rw [hblob, Option.some.injEq] at hother
  rw [← hfirst, ← hsecond, hother]

/-- What a run keeps: the parents of roots that are no candidates end there. -/
structure LineageKept (archive : CandidateArchive) : Prop where
  acyclic : Acyclic archive.Parent
  ends : ∀ program ∈ archive.knownPrograms, EndsIn archive.Parent archive.IsRoot program

theorem LineageKept.sound (h : archive.LineageKept) : archive.LineageSound :=
  ⟨h.acyclic, fun candidate hcandidate => h.ends candidate (mem_knownPrograms.mpr (Or.inr hcandidate))⟩

theorem LineageKept.registered (h : archive.LineageKept) (hkeeps : archive.KeepsLineage changeset) :
    (archive.registered changeset).LineageKept := by
  by_cases hcheck : archive.checkChangeSet changeset = .ok ()
  · cases hheld : archive.directories.get? changeset.candidateAgentProgramSha256 with
    | some held =>
      rw [registered_of_present hheld]
      exact h
    | none =>
      have hpath := hkeeps hcheck hheld
      have hroot : (archive.registered changeset).IsRoot = archive.IsRoot := by
        unfold IsRoot
        rw [(registered_of_new hcheck hheld).1]
      have hparent := h.ends _ (parent_known hcheck)
      constructor
      · rw [parent_registered hcheck hheld]
        exact (acyclic_withEdge_iff h.acyclic).mpr hpath
      · intro program hprogram
        rw [parent_registered hcheck hheld, hroot]
        rw [mem_knownPrograms, hroot, mem_candidates_registered hcheck hheld] at hprogram
        rcases hprogram with hprogram | rfl | hprogram
        · exact (h.ends program (mem_knownPrograms.mpr (Or.inl hprogram))).withEdge hparent hpath
        · exact hparent.of_parent hpath
        · exact (h.ends program (mem_knownPrograms.mpr (Or.inr hprogram))).withEdge hparent hpath
  · rw [registered_of_refused hcheck]
    exact h

theorem LineageKept.keeps (h : archive.LineageKept)
    (hsound : (archive.registered changeset).LineageSound) : archive.KeepsLineage changeset := by
  intro hcheck hnew
  have hacyclic := hsound.acyclic
  rw [parent_registered hcheck hnew] at hacyclic
  exact (acyclic_withEdge_iff h.acyclic).mp hacyclic

theorem lineageKept_create {original seed : String} (h : create original seed = .ok archive) :
    archive.LineageKept := by
  simp only [create, except_bind_ok_iff] at h
  obtain ⟨-, -, -, -, harchive⟩ := h
  cases harchive
  have hnone : ∀ candidate parent, ¬Parent
      { authority :=
          { originalAgentProgramSha256 := original, searchParentSha256 := seed,
            seedParentAgentProgramSha256 := seed, productionActiveRef := none,
            searchParentHistory := [] },
        lines := [], directories := .empty } candidate parent := by
    intro candidate parent hparent
    obtain ⟨blob, hblob, -⟩ := hparent
    simp [blob?] at hblob
  constructor
  · intro program hcycle
    obtain ⟨next, hstep, -⟩ := TransGen.head'_iff.mp hcycle
    exact hnone program next hstep
  · intro program hprogram
    rw [mem_knownPrograms] at hprogram
    rcases hprogram with hroot | hcandidate
    · exact ⟨program, hroot, .refl, hnone program⟩
    · obtain ⟨blob, hblob⟩ := mem_candidates.mp hcandidate
      simp [blob?] at hblob

/-- The lineage is sound all along a run of registrations exactly when each of
them that stores a new candidate stores it below no descendant of it. -/
theorem lineage_sound_iff {original seed : String} (h : create original seed = .ok archive)
    (changesets : List InactiveChangeSet) :
    Along LineageSound registered archive changesets ↔
      Guarded KeepsLineage registered archive changesets := by
  apply along_iff_guarded (I := LineageKept) _ _ _ _ _ (lineageKept_create h)
  · intro archive h
    exact h.sound
  · intro archive changeset h hkeeps
    exact h.registered hkeeps
  · intro archive changeset h hsound
    exact h.keeps hsound

/-- A candidate that is no root can be stored below any program that is known:
where a path of parents ends it is at a root. -/
theorem LineageKept.keeps_of_not_root (h : archive.LineageKept)
    (hroot : ¬archive.IsRoot changeset.candidateAgentProgramSha256) :
    archive.KeepsLineage changeset := by
  intro hcheck hnew hpath
  obtain ⟨last, hlast, hreach, hend⟩ := h.ends _ (parent_known hcheck)
  have hfree : ∀ next, ¬archive.Parent changeset.candidateAgentProgramSha256 next := by
    intro next ⟨blob, hblob, _⟩
    rw [blob?, hnew] at hblob
    cases hblob
  have hsame : last = changeset.candidateAgentProgramSha256 := by
    rcases ReflTransGen.total_of_right_unique parent_unique hreach hpath with hon | hon
    · cases ReflTransGen.cases_head hon with
      | inl heq => exact heq
      | inr hstep => exact absurd hstep.choose_spec.1 (hend _)
    · cases ReflTransGen.cases_head hon with
      | inl heq => exact heq.symm
      | inr hstep => exact absurd hstep.choose_spec.1 (hfree _)
  exact hroot (hsame ▸ hlast)

/-- The blobs and the roots are the same. -/
def SameLineage (archive later : CandidateArchive) : Prop :=
  later.blob? = archive.blob? ∧ later.IsRoot = archive.IsRoot

theorem LineageKept.congr {later : CandidateArchive} (h : archive.LineageKept)
    (hsame : SameLineage archive later) : later.LineageKept := by
  obtain ⟨hblob, hroot⟩ := hsame
  have hparent : later.Parent = archive.Parent := by
    unfold Parent
    rw [hblob]
  constructor
  · rw [hparent]
    exact h.acyclic
  · intro program hprogram
    rw [mem_knownPrograms, mem_candidates, hblob, hroot, ← mem_candidates,
      ← mem_knownPrograms] at hprogram
    rw [hparent, hroot]
    exact h.ends program hprogram

theorem sameLineage_of_quiet {later : CandidateArchive} {writes : List ArchiveWrite}
    (hquiet : ∀ written ∈ writes, (∃ row, written = .appendRow row) ∨
      ∃ candidate decisionSha256,
        written = .replaceAuthority (archive.advanced candidate decisionSha256))
    (h : SameLineage archive later) : SameLineage archive (writes.foldl write later) := by
  induction writes generalizing later with
  | nil => exact h
  | cons first rest ih =>
    obtain ⟨hfirst, hrest⟩ := List.forall_mem_cons.mp hquiet
    refine ih hrest ?_
    rcases hfirst with ⟨row, rfl⟩ | ⟨candidate, decisionSha256, rfl⟩
    · exact h
    · exact ⟨h.1, rfl⟩

variable (archive) in
theorem quiet_of_not_registration {call : ArchiveCall}
    (hcall : ∀ changeset, call ≠ .registerCandidate changeset) :
    ∀ written ∈ (archive.perform call).writes, (∃ row, written = .appendRow row) ∨
      ∃ candidate decisionSha256,
        written = .replaceAuthority (archive.advanced candidate decisionSha256) := by
  intro written hwritten
  cases call with
  | registerCandidate changeset => exact absurd rfl (hcall changeset)
  | transition candidate target reason evidenceSha256 =>
    simp only [perform, transition, ArchiveOutcome.checked, ArchiveOutcome.appending] at hwritten
    split at hwritten
    · split at hwritten
      · exact Or.inl ⟨_, List.mem_singleton.mp hwritten⟩
      · cases hwritten
    · cases hwritten
  | recordRollback candidate forwardPatchSha256 rollbackPatchSha256 verified =>
    simp only [perform, recordRollback, ArchiveOutcome.checked, ArchiveOutcome.appending]
      at hwritten
    split at hwritten
    · split at hwritten
      · exact Or.inl ⟨_, List.mem_singleton.mp hwritten⟩
      · cases hwritten
    · cases hwritten
  | advanceSearchParent candidate decisionSha256 production =>
    simp only [perform, advanceSearchParent, ArchiveOutcome.checked, ArchiveOutcome.appending]
      at hwritten
    split at hwritten
    · split at hwritten
      · split at hwritten <;> cases hwritten
      · split at hwritten
        · rcases List.mem_append.mp hwritten with hauthority | hrow
          · exact Or.inr ⟨_, _, List.mem_singleton.mp hauthority⟩
          · exact Or.inl ⟨_, List.mem_singleton.mp hrow⟩
        · exact Or.inr ⟨_, _, List.mem_singleton.mp hwritten⟩
    · cases hwritten

variable (archive) in
theorem writes_registration (changeset : InactiveChangeSet) :
    (archive.perform (.registerCandidate changeset)).writes = [] ∨
      archive.checkChangeSet changeset = .ok () ∧
        archive.directories.get? changeset.candidateAgentProgramSha256 = none ∧
          ∃ rows : List ArchiveWrite, (archive.perform (.registerCandidate changeset)).writes =
              .makeDirectory changeset.candidateAgentProgramSha256 ::
                .replaceBlob changeset.candidateAgentProgramSha256 changeset.blob :: rows ∧
            ∀ written ∈ rows, ∃ row, written = .appendRow row := by
  simp only [perform, registerCandidate, ArchiveOutcome.checked, ArchiveOutcome.appending]
  split
  · rename_i hcheck
    split
    · split <;> exact Or.inl rfl
    · exact Or.inl rfl
    · rename_i hnew
      refine Or.inr ⟨hcheck, hnew, ?_⟩
      split
      · exact ⟨_, rfl, by simp⟩
      · exact ⟨[], rfl, by simp⟩
  · exact Or.inl rfl

variable (archive) in
/-- A registration that is cut off has stored its blob or nothing that counts. -/
theorem sameLineage_cutOff_registration (changeset : InactiveChangeSet) (writes : Nat) :
    SameLineage archive (archive.cutOff (.registerCandidate changeset) writes) ∨
      SameLineage (archive.registered changeset)
        (archive.cutOff (.registerCandidate changeset) writes) := by
  rcases archive.writes_registration changeset with
    hwrites | ⟨hcheck, hheld, rows, hwrites, hrows⟩
  · rw [cutOff, hwrites, List.take_nil]
    exact Or.inl ⟨rfl, rfl⟩
  · obtain ⟨hauthority, hdirectories⟩ := registered_of_new hcheck hheld
    rw [cutOff, hwrites]
    match writes with
    | 0 => exact Or.inl ⟨rfl, rfl⟩
    | 1 =>
      refine Or.inl ⟨?_, rfl⟩
      funext candidate
      simp only [List.take, List.foldl, write, blob?, Dict.get?_set]
      split
      · rename_i hsame
        rw [hsame, hheld]
        rfl
      · rfl
    | writes + 2 =>
      have hstored : SameLineage (archive.registered changeset)
          ((archive.write (.makeDirectory changeset.candidateAgentProgramSha256)).write
            (.replaceBlob changeset.candidateAgentProgramSha256 changeset.blob)) := by
        constructor
        · unfold blob?
          rw [hdirectories]
          rfl
        · unfold IsRoot
          rw [hauthority]
          rfl
      change _ ∨ SameLineage _ ((rows.take writes).foldl write (write _ _))
      refine Or.inr (sameLineage_of_quiet ?_ hstored)
      intro written hwritten
      exact Or.inl (hrows written (List.mem_of_mem_take hwritten))

theorem isRoot_registered : (archive.registered changeset).IsRoot = archive.IsRoot := by
  by_cases hcheck : archive.checkChangeSet changeset = .ok ()
  · cases hheld : archive.directories.get? changeset.candidateAgentProgramSha256 with
    | some held => rw [registered_of_present hheld]
    | none =>
      unfold IsRoot
      rw [(registered_of_new hcheck hheld).1]
  · rw [registered_of_refused hcheck]

/-- The roots are these two, and the lineage is as a run keeps it. -/
structure RootedLineage (original seed : String) (archive : CandidateArchive) : Prop where
  kept : archive.LineageKept
  root : archive.IsRoot = fun program => program = original ∨ program = seed

theorem RootedLineage.cutOff {original seed : String} (h : archive.RootedLineage original seed)
    {call : ArchiveCall} (hcall : ∀ changeset, call = .registerCandidate changeset →
      changeset.candidateAgentProgramSha256 ≠ original ∧
        changeset.candidateAgentProgramSha256 ≠ seed) (writes : Nat) :
    (archive.cutOff call writes).RootedLineage original seed := by
  by_cases hregistration : ∃ changeset, call = .registerCandidate changeset
  · obtain ⟨changeset, rfl⟩ := hregistration
    have hfree : ¬archive.IsRoot changeset.candidateAgentProgramSha256 := by
      rw [h.root, not_or]
      exact hcall changeset rfl
    rcases archive.sameLineage_cutOff_registration changeset writes with hsame | hsame
    · exact ⟨h.kept.congr hsame, hsame.2.trans h.root⟩
    · have hregistered := h.kept.registered (h.kept.keeps_of_not_root hfree)
      exact ⟨hregistered.congr hsame, (hsame.2.trans isRoot_registered).trans h.root⟩
  · have hsame : SameLineage archive (archive.cutOff call writes) := by
      refine sameLineage_of_quiet ?_ ⟨rfl, rfl⟩
      intro written hwritten
      exact archive.quiet_of_not_registration (not_exists.mp hregistration) written
        (List.mem_of_mem_take hwritten)
    exact ⟨h.kept.congr hsame, hsame.2.trans h.root⟩

theorem rootedLineage_create {original seed : String} (h : create original seed = .ok archive) :
    archive.RootedLineage original seed := by
  refine ⟨lineageKept_create h, ?_⟩
  simp only [create, except_bind_ok_iff] at h
  obtain ⟨-, -, -, -, harchive⟩ := h
  cases harchive
  rfl

/-- Whatever calls are made and wherever each of them is cut off: a cycle of
parents takes a registration of one of the two roots. -/
theorem lineage_sound_of_no_root {original seed : String} (h : create original seed = .ok archive)
    {calls : List (ArchiveCall × Nat)}
    (hroots : ∀ changeset writes, (ArchiveCall.registerCandidate changeset, writes) ∈ calls →
      changeset.candidateAgentProgramSha256 ≠ original ∧
        changeset.candidateAgentProgramSha256 ≠ seed) :
    Along LineageSound (fun archive call => archive.cutOff call.1 call.2) archive calls := by
  rw [along_iff_prefixes]
  intro first hfirst
  have hstep : ∀ later : CandidateArchive, ∀ call ∈ first, later.RootedLineage original seed →
      (later.cutOff call.1 call.2).RootedLineage original seed := by
    rintro later ⟨call, writes⟩ hcall hrooted
    refine hrooted.cutOff ?_ writes
    rintro changeset rfl
    exact hroots changeset writes (hfirst.subset hcall)
  exact (run_invariant_of_mem hstep archive (rootedLineage_create h)).kept.sound

def originalProgram : String :=
  "aaaaaaaaaaaaaaaaaaaaaaaaaaaaaaaaaaaaaaaaaaaaaaaaaaaaaaaaaaaaaaaa"

def seedProgram : String :=
  "bbbbbbbbbbbbbbbbbbbbbbbbbbbbbbbbbbbbbbbbbbbbbbbbbbbbbbbbbbbbbbbb"

def changesetOf (candidate parent : String) : InactiveChangeSet where
  schemaVersion := 1
  changesetId := "changeset"
  status := "inactive"
  parentAgentProgramSha256 := parent
  candidateAgentProgramSha256 := candidate
  hypothesisIds := []
  surface := "prompt"
  operations := []
  rollbackOperations := []
  proposer := []
  nativeEvaluatorEpoch := "epoch"
  nativeEvaluatorAuthority := "native"
  autoApply := false
  productionPromotionAllowed := false

theorem check_changesetOf {candidate parent : String} (hne : candidate ≠ parent)
    (hparent : archive.IsRoot parent) (hsha : Sha256.isSha256 candidate = true) :
    archive.checkChangeSet (changesetOf candidate parent) = .ok () := by
  have hknown : parent ∈ archive.knownPrograms := mem_knownPrograms.mpr (Or.inl hparent)
  simp only [checkChangeSet, archiveSha256, except_bind_ok_iff, require_ok_iff]
  exact ⟨(), ⟨rfl, rfl⟩, (), rfl, (), hne, (), hknown, hsha⟩

theorem originalProgram_sha256 : Sha256.isSha256 originalProgram = true := by decide

theorem seedProgram_sha256 : Sha256.isSha256 seedProgram = true := by decide

theorem exists_created : ∃ archive, create originalProgram seedProgram = .ok archive ∧
    archive.IsRoot originalProgram ∧ archive.IsRoot seedProgram ∧
      archive.directories = .empty := by
  simp only [create, archiveSha256, originalProgram_sha256, seedProgram_sha256, require, if_true]
  exact ⟨_, rfl, Or.inl rfl, Or.inr rfl, rfl⟩

/-- The two roots become parents of each other. -/
theorem roots_below_each_other :
    ∃ archive, create originalProgram seedProgram = .ok archive ∧
      ¬(run registered archive [changesetOf seedProgram originalProgram,
        changesetOf originalProgram seedProgram]).LineageSound := by
  obtain ⟨archive, hcreate, horiginal, hseed, hempty⟩ := exists_created
  have hne : seedProgram ≠ originalProgram := by decide
  have hfirst := check_changesetOf hne horiginal seedProgram_sha256
  have hfirstNew : archive.directories.get? seedProgram = none := by rw [hempty]; rfl
  obtain ⟨hauthority, hdirectories⟩ := registered_of_new hfirst hfirstNew
  have hseed' : (archive.registered (changesetOf seedProgram originalProgram)).IsRoot
      seedProgram := by
    unfold IsRoot
    rw [hauthority]
    exact hseed
  have hsecond := check_changesetOf hne.symm hseed' originalProgram_sha256
  have hsecondNew : (archive.registered (changesetOf seedProgram originalProgram)).directories.get?
      originalProgram = none := by
    rw [hdirectories, hempty]
    simp [Dict.get?_set, changesetOf, hne.symm]
  refine ⟨archive, hcreate, ?_⟩
  intro hsound
  have hacyclic := hsound.acyclic
  rw [run_cons, run_cons, run_nil, parent_registered hsecond hsecondNew,
    parent_registered hfirst hfirstNew] at hacyclic
  have hup : WithEdge (WithEdge archive.Parent seedProgram originalProgram) originalProgram
      seedProgram seedProgram originalProgram := Or.inl (Or.inr ⟨rfl, rfl⟩)
  have hdown : WithEdge (WithEdge archive.Parent seedProgram originalProgram) originalProgram
      seedProgram originalProgram seedProgram := Or.inr ⟨rfl, rfl⟩
  exact hacyclic seedProgram (.head hup (.single hdown))

/-- The seed registered below the original. -/
theorem lineage_sound_of_seed :
    ∃ archive, create originalProgram seedProgram = .ok archive ∧
      (Along LineageSound registered archive [changesetOf seedProgram originalProgram] ↔
        Guarded KeepsLineage registered archive [changesetOf seedProgram originalProgram]) := by
  obtain ⟨archive, hcreate, -⟩ := exists_created
  exact ⟨archive, hcreate, lineage_sound_iff hcreate _⟩

def childProgram : String :=
  "cccccccccccccccccccccccccccccccccccccccccccccccccccccccccccccccc"

/-- A child of the seed is registered again after a crash that left no blob. -/
theorem lineage_sound_of_child :
    ∃ archive, create originalProgram seedProgram = .ok archive ∧
      Along LineageSound (fun archive call => archive.cutOff call.1 call.2) archive
        [(.registerCandidate (changesetOf childProgram seedProgram), 1),
          (.registerCandidate (changesetOf childProgram seedProgram), 3)] := by
  obtain ⟨archive, hcreate, -⟩ := exists_created
  refine ⟨archive, hcreate, lineage_sound_of_no_root hcreate ?_⟩
  intro changeset writes hcall
  simp only [List.mem_cons, Prod.mk.injEq, ArchiveCall.registerCandidate.injEq,
    List.not_mem_nil, or_false] at hcall
  rcases hcall with ⟨rfl, -⟩ | ⟨rfl, -⟩ <;> exact ⟨by decide, by decide⟩

end CandidateArchive

end JlensEvolve.Evolution
