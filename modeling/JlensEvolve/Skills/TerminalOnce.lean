import JlensEvolve.Library.JsonChars
import JlensEvolve.Skills.SkillReadback

/-!
Processes that call `transition` on one registry. What a revision may become is
decided on what was read before the lock is taken, and the append looks at
fingerprints alone.
-/

namespace JlensEvolve.Skills

open Library Contracts SkillLoop

/-- Where in `transition` a process is. -/
inductive TransitionStage where
  /-- No call is running; the answer of the last one, if it gave any. -/
  | idle (answer : Option (Except String SkillCandidate))
  /-- The revision was made and validated, and is not appended yet. -/
  | holding (revision : SkillCandidate)

inductive TransitionInput where
  /-- Reading the latest revision, with no lock held. -/
  | begin (transition : SkillTransition)
  /-- The append, under the lock. -/
  | append
  | crash

structure TransitionEvent where
  process : Nat
  input : TransitionInput

structure Transitions where
  registry : SkillRegistry
  stage : Nat → TransitionStage

namespace Transitions

variable (disk : Disk) (transitions : Transitions)

def start (registry : SkillRegistry) : Transitions := ⟨registry, fun _ => .idle none⟩

def moved (process : Nat) (stage : TransitionStage) : Transitions :=
  { transitions with stage := Function.update transitions.stage process stage }

def begin (process : Nat) (transition : SkillTransition) : Transitions :=
  match transitions.registry.propose disk transition with
  | .error error => transitions.moved process (.idle (some (.error error)))
  | .ok revision => transitions.moved process (.holding revision)

def append (process : Nat) (revision : SkillCandidate) : Transitions :=
  match transitions.registry.append disk revision with
  | .error error => transitions.moved process (.idle (some (.error error)))
  | .ok (_, registry) =>
    { transitions with registry }.moved process (.idle (some (.ok revision)))

/-- One step of one process; an input that its stage does not await changes
nothing. -/
def step (event : TransitionEvent) : Transitions :=
  match event.input, transitions.stage event.process with
  | .begin transition, .idle _ => transitions.begin disk event.process transition
  | .append, .holding revision => transitions.append disk event.process revision
  | .crash, _ => transitions.moved event.process (.idle none)
  | _, _ => transitions

end Transitions

/-- A row of the registry has the fingerprint of this revision. -/
def SkillRegistry.Stores (registry : SkillRegistry) (revision : SkillCandidate) : Prop :=
  ∃ existing, lineFields "candidate_fingerprint" registry.rows = .ok existing ∧
    Json.str revision.candidateFingerprint ∈ existing

variable {disk : Disk} {transitions : Transitions} {revision : SkillCandidate}
  {candidates : List SkillCandidate}

/-- The rows are those of candidates, and what a process holds is a valid
terminal revision. -/
structure Held (disk : Disk) (transitions : Transitions) : Prop where
  rows : ∃ candidates : List SkillCandidate,
    transitions.registry.rows = candidates.map SkillCandidate.toDict
  holding : ∀ (process : Nat) (revision : SkillCandidate),
    transitions.stage process = .holding revision →
      revision.validate disk = .ok () ∧ revision.status.terminal = true

theorem lineFields_toDict (candidates : List SkillCandidate) :
    lineFields "candidate_fingerprint" (candidates.map SkillCandidate.toDict) =
      .ok (candidates.map fun candidate => .str candidate.candidateFingerprint) :=
  lineFields_map (fun _ => rfl) candidates

theorem Held.moved (h : Held disk transitions) (process : Nat) {stage : TransitionStage}
    (hstage : ∀ revision, stage = .holding revision →
      revision.validate disk = .ok () ∧ revision.status.terminal = true) :
    Held disk (transitions.moved process stage) := by
  refine ⟨h.rows, ?_⟩
  intro other revision hholding
  by_cases hsame : other = process
  · subst hsame
    simp only [Transitions.moved, Function.update_self] at hholding
    exact hstage revision hholding
  · simp only [Transitions.moved, Function.update_of_ne hsame] at hholding
    exact h.holding other revision hholding

theorem terminal_of_propose {registry : SkillRegistry} {transition : SkillTransition}
    (h : registry.propose disk transition = .ok revision) :
    revision.validate disk = .ok () ∧ revision.status.terminal = true := by
  simp only [SkillRegistry.propose, except_bind_ok_iff] at h
  obtain ⟨latest, -, h⟩ := h
  cases latest with
  | none => cases h
  | some current =>
    simp only [except_bind_ok_iff, require_ok_iff, exists_const] at h
    obtain ⟨hstatus, _, hvalid, hsame⟩ := h
    cases hsame
    exact ⟨hvalid, hstatus.2⟩

theorem append_eq (candidates : List SkillCandidate) (hvalid : revision.validate disk = .ok ()) :
    SkillRegistry.append disk ⟨candidates.map SkillCandidate.toDict⟩ revision =
      if Json.str revision.candidateFingerprint ∈
          candidates.map fun candidate => Json.str candidate.candidateFingerprint then
        .ok (false, ⟨candidates.map SkillCandidate.toDict⟩)
      else .ok (true, ⟨candidates.map SkillCandidate.toDict ++ [revision.toDict]⟩) := by
  rw [SkillRegistry.append, hvalid, lineFields_toDict]
  rfl

/-- The state with the row of a revision. -/
def Transitions.added (transitions : Transitions) (revision : SkillCandidate) : Transitions :=
  { transitions with registry := ⟨transitions.registry.rows ++ [revision.toDict]⟩ }

theorem Held.added (h : Held disk transitions) (revision : SkillCandidate) :
    Held disk (transitions.added revision) := by
  obtain ⟨candidates, hrows⟩ := h.rows
  refine ⟨⟨candidates ++ [revision], ?_⟩, h.holding⟩
  simp [Transitions.added, hrows]

/-- The append of a held revision leaves the rows as they are, where its
fingerprint is among them, or adds its row. -/
theorem Held.append_cases (h : Held disk transitions) {process : Nat}
    (hholding : transitions.stage process = .holding revision) :
    (transitions.registry.Stores revision ∧
        transitions.append disk process revision =
          transitions.moved process (.idle (some (.ok revision)))) ∨
      (¬ transitions.registry.Stores revision ∧
        transitions.append disk process revision =
          (transitions.added revision).moved process (.idle (some (.ok revision)))) := by
  obtain ⟨candidates, hrows⟩ := h.rows
  have happend := append_eq candidates (h.holding process revision hholding).1
  have hfields := lineFields_toDict candidates
  rw [← hrows] at happend hfields
  by_cases hmem : Json.str revision.candidateFingerprint ∈
      candidates.map fun candidate => Json.str candidate.candidateFingerprint
  · left
    refine ⟨⟨_, hfields, hmem⟩, ?_⟩
    rw [if_pos hmem] at happend
    rw [Transitions.append, happend]
  · right
    constructor
    · rintro ⟨existing, hexisting, hstored⟩
      rw [hfields] at hexisting
      cases hexisting
      exact hmem hstored
    · rw [if_neg hmem] at happend
      rw [Transitions.append, happend]
      rfl

theorem Held.append (h : Held disk transitions) {process : Nat}
    (hholding : transitions.stage process = .holding revision) :
    Held disk (transitions.append disk process revision) := by
  have hidle : ∀ other, TransitionStage.idle (some (.ok revision)) = .holding other →
      other.validate disk = .ok () ∧ other.status.terminal = true := nofun
  rcases h.append_cases hholding with ⟨-, heq⟩ | ⟨-, heq⟩
  · rw [heq]
    exact h.moved process hidle
  · rw [heq]
    exact (h.added revision).moved process hidle

theorem Held.step (h : Held disk transitions) (event : TransitionEvent) :
    Held disk (transitions.step disk event) := by
  unfold Transitions.step
  split
  · next transition _ _ _ =>
    unfold Transitions.begin
    split
    · exact h.moved _ nofun
    · next revision hpropose =>
      refine h.moved _ ?_
      intro other hother
      cases hother
      exact terminal_of_propose hpropose
  · next revision _ hholding => exact h.append hholding
  · exact h.moved _ nofun
  · exact h

def sampleDigest : String := String.ofList (List.replicate 64 'a')

def sampleCandidate : SkillCandidate where
  schemaVersion := .int 1
  skillId := "s"
  revisionId := "r"
  parentRevisionId := none
  status := .candidate
  statusReason := "new"
  taskFamily := "f"
  content := ["c"]
  sourceTaskIds := ["t"]
  applicability := [("required_semantics", .arr [.str "p"])]
  counterexamples := ["x"]
  knownFailureModes := ["m"]
  evidenceRefs := [⟨"/e", sampleDigest, "source"⟩]
  projectLocalOnly := .bool true
  autoInstall := .bool false
  active := .bool false

def verdict (status : SkillStatus) : SkillTransition := ⟨"s", status, "seen", []⟩

/-- What a verdict on the sample makes of it. -/
def judged (status : SkillStatus) : SkillCandidate :=
  SkillRegistry.successor sampleCandidate (verdict status)

end JlensEvolve.Skills
