import Mathlib.Logic.Function.Basic
import JlensEvolve.Library.Transition
import JlensEvolve.Registry.StoreReadback

/-!
Processes that append to one registry file. A process takes one step of
`append` at a time: it reads the store, creates the lease file, reads again,
writes its line, removes the lease file. Between any two of its steps the
others may take theirs, and it may raise or be killed; a lease file that a
killed process has left behind is removed by hand.
-/

namespace JlensEvolve.Registry

open Library Contracts

/-- The step of `append` a process is about to take. -/
inductive Stage (ρ : Type) where
  | idle
  | reading (record : ρ)
  | acquiring (record : ρ)
  /-- Under the lease. -/
  | rechecking (record : ρ)
  | writing (record : ρ)
  /-- The record whose append is about to return, if it does not raise. -/
  | releasing (answer : Option ρ)

def Stage.holdsLease {ρ : Type} : Stage ρ → Bool
  | .rechecking _ => true
  | .writing _ => true
  | .releasing _ => true
  | _ => false

/-- The outcome of a step: the file, what the process does next, and the record
whose append has returned. -/
structure Turn (ρ : Type) where
  file : AppendLog
  stage : Stage ρ
  returned : Option ρ

section Process

variable {ρ : Type} [DecidableEq ρ]

/-- The next step of a process. -/
def Stage.turn (registry : AppendOnlyRegistry ρ) (file : AppendLog) : Stage ρ → Turn ρ
  | .idle => ⟨file, .idle, none⟩
  | .reading record =>
    match (registry.alreadyStored record).run file with
    | .ok true _ => ⟨file, .idle, some record⟩
    | .ok false _ => ⟨file, .acquiring record, none⟩
    | .error _ _ => ⟨file, .idle, none⟩
  | .acquiring record =>
    if file.lease then ⟨file, .idle, none⟩
    else ⟨{ file with lease := true }, .rechecking record, none⟩
  | .rechecking record =>
    match (registry.alreadyStored record).run file with
    | .ok true _ => ⟨file, .releasing (some record), none⟩
    | .ok false _ => ⟨file, .writing record, none⟩
    | .error _ _ => ⟨file, .releasing none, none⟩
  | .writing record =>
    ⟨file.append (registry.payload record), .releasing (some record), none⟩
  | .releasing answer => ⟨{ file with lease := false }, .idle, answer⟩

/-- Everything that can happen to a process. -/
inductive Action (ρ : Type) where
  | begin (record : ρ)
  | advance
  /-- The step raises: a process that holds the lease goes on to remove it. -/
  | fail
  | crash

def Action.turn (registry : AppendOnlyRegistry ρ) (file : AppendLog) (stage : Stage ρ) :
    Action ρ → Turn ρ
  | .begin record =>
    match stage with
    | .idle => ⟨file, .reading record, none⟩
    | stage => ⟨file, stage, none⟩
  | .advance => stage.turn registry file
  | .fail => ⟨file, if stage.holdsLease then .releasing none else .idle, none⟩
  | .crash => ⟨file, .idle, none⟩

end Process

/-- The file, the process number in the lease file, the processes, and the
records whose appends have returned, the latest first. -/
structure System (ρ : Type) where
  file : AppendLog
  leaseOwner : Option Nat
  stage : Nat → Stage ρ
  returned : List ρ

def System.start {ρ : Type} (file : AppendLog) : System ρ :=
  ⟨file, none, fun _ => .idle, []⟩

def System.take {ρ : Type} (system : System ρ) (process : Nat) (turn : Turn ρ) : System ρ :=
  { file := turn.file
    leaseOwner := if !system.file.lease && turn.file.lease then some process
      else system.leaseOwner
    stage := Function.update system.stage process turn.stage
    returned := turn.returned.toList ++ system.returned }

inductive SystemEvent (ρ : Type) where
  | act (process : Nat) (action : Action ρ)
  /-- The lease file of a process that no longer runs under it is removed. -/
  | clearLease

def System.step {ρ : Type} [DecidableEq ρ] (registry : AppendOnlyRegistry ρ) (system : System ρ) :
    SystemEvent ρ → System ρ
  | .act process action =>
    system.take process (action.turn registry system.file (system.stage process))
  | .clearLease =>
    match system.leaseOwner with
    | some process =>
      if (system.stage process).holdsLease then system
      else { system with file := { system.file with lease := false } }
    | none => system

section Invariant

variable {ρ : Type} {registry : AppendOnlyRegistry ρ}

/-- The store can be read, no two of its records share a key, and it holds
every record whose append has returned and nothing else under that key. -/
structure Intact (registry : AppendOnlyRegistry ρ) (system : System ρ) : Prop where
  held : ∃ records, registry.readLines 1 system.file.lines = .ok records ∧
    (records.map registry.recordType.key).Nodup ∧
      ∀ record ∈ system.returned, record ∈ records ∧
        ∀ other ∈ records, registry.recordType.key other = registry.recordType.key record →
          other = record

/-- What a process that holds the lease may rely on. -/
def Stage.Fits (registry : AppendOnlyRegistry ρ) (records : List ρ) : Stage ρ → Prop
  | .writing record =>
    ∀ item ∈ records, registry.recordType.key item ≠ registry.recordType.key record
  | .releasing (some record) => record ∈ records
  | _ => True

/-- The invariant: the store is readable under distinct keys, each process can
rely on what its stage says, and only the process named in the lease file holds
the lease. -/
structure Sound (registry : AppendOnlyRegistry ρ) (system : System ρ) (records : List ρ) :
    Prop where
  read : registry.readLines 1 system.file.lines = .ok records
  distinct : (records.map registry.recordType.key).Nodup
  returned : ∀ record ∈ system.returned, record ∈ records
  fits : ∀ process, (system.stage process).Fits registry records
  leased : ∀ process, (system.stage process).holdsLease = true →
    system.file.lease = true ∧ system.leaseOwner = some process

theorem eq_of_key_eq {records : List ρ} (hdistinct : (records.map registry.recordType.key).Nodup)
    {first second : ρ} (hfirst : first ∈ records) (hsecond : second ∈ records)
    (hkey : registry.recordType.key first = registry.recordType.key second) : first = second :=
  List.inj_on_of_nodup_map hdistinct hfirst hsecond hkey

theorem Sound.intact {system : System ρ} {records : List ρ} (h : Sound registry system records) :
    Intact registry system := by
  refine ⟨records, h.read, h.distinct, ?_⟩
  intro record hrecord
  have hmem := h.returned record hrecord
  refine ⟨hmem, ?_⟩
  intro other hother hkey
  exact eq_of_key_eq h.distinct hother hmem hkey

end Invariant

section Take

variable {ρ : Type}

@[simp] theorem take_stage_self (system : System ρ) (process : Nat) (turn : Turn ρ) :
    (system.take process turn).stage process = turn.stage := by
  simp [System.take]

theorem take_stage_of_ne (system : System ρ) {process other : Nat} (turn : Turn ρ)
    (h : other ≠ process) : (system.take process turn).stage other = system.stage other := by
  simp [System.take, h]

end Take

section Step

variable {ρ : Type} [DecidableEq ρ] {registry : AppendOnlyRegistry ρ} {file : AppendLog}

/-- A process that does not hold the lease leaves the file as it is, or takes
the lease where there is none. -/
theorem file_action {stage : Stage ρ} (h : stage.holdsLease = false) (action : Action ρ) :
    (action.turn registry file stage).file = file ∨
      file.lease = false ∧
        (action.turn registry file stage).file = { file with lease := true } := by
  cases action with
  | begin record =>
    simp only [Action.turn]
    split <;> exact Or.inl rfl
  | fail => exact Or.inl rfl
  | crash => exact Or.inl rfl
  | advance =>
    cases stage with
    | idle => exact Or.inl rfl
    | reading record =>
      simp only [Action.turn, Stage.turn]
      split <;> exact Or.inl rfl
    | acquiring record =>
      simp only [Action.turn, Stage.turn]
      split
      · exact Or.inl rfl
      · rename_i hfree
        exact Or.inr ⟨by simpa using hfree, rfl⟩
    | rechecking record => cases h
    | writing record => cases h
    | releasing answer => cases h

/-- A process that holds the lease after its step held it before, and the lease
file is still there, or it has just created it. -/
theorem holdsLease_after {stage : Stage ρ} (action : Action ρ)
    (h : (action.turn registry file stage).stage.holdsLease = true) :
    stage.holdsLease = true ∧ (action.turn registry file stage).file.lease = file.lease ∨
      file.lease = false ∧ (action.turn registry file stage).file.lease = true := by
  cases action with
  | begin record =>
    simp only [Action.turn] at h ⊢
    split at h
    · cases h
    · exact Or.inl ⟨h, rfl⟩
  | fail =>
    simp only [Action.turn] at h
    split at h
    · rename_i hholds
      exact Or.inl ⟨hholds, rfl⟩
    · cases h
  | crash => cases h
  | advance =>
    cases stage with
    | idle => cases h
    | reading record =>
      simp only [Action.turn, Stage.turn] at h
      split at h <;> cases h
    | acquiring record =>
      simp only [Action.turn, Stage.turn] at h ⊢
      split at h
      · cases h
      · rename_i hfree
        refine Or.inr ⟨by simpa using hfree, ?_⟩
        rw [if_neg hfree]
    | rechecking record =>
      refine Or.inl ⟨rfl, ?_⟩
      simp only [Action.turn, Stage.turn]
      split <;> rfl
    | writing record => exact Or.inl ⟨rfl, rfl⟩
    | releasing answer => cases h

variable {system : System ρ} {records : List ρ}

theorem file_of_other_holds (h : Sound registry system records) {process other : Nat}
    (hne : other ≠ process) (hholds : (system.stage other).holdsLease = true) (action : Action ρ) :
    (action.turn registry system.file (system.stage process)).file = system.file := by
  obtain ⟨hlease, howner⟩ := h.leased other hholds
  have hfree : (system.stage process).holdsLease = false := by
    cases hprocess : (system.stage process).holdsLease with
    | false => rfl
    | true =>
      have hsame := (h.leased process hprocess).2
      rw [howner] at hsame
      exact absurd (Option.some.inj hsame) hne
  rcases file_action hfree action with hsame | ⟨hnone, -⟩
  · exact hsame
  · rw [hlease] at hnone
    cases hnone

theorem leased_act (h : Sound registry system records) (process : Nat) (action : Action ρ)
    (other : Nat)
    (hholds : ((system.step registry (.act process action)).stage other).holdsLease = true) :
    (system.step registry (.act process action)).file.lease = true ∧
      (system.step registry (.act process action)).leaseOwner = some other := by
  by_cases hsame : other = process
  · subst hsame
    simp only [System.step, take_stage_self] at hholds
    simp only [System.step, System.take]
    rcases holdsLease_after action hholds with ⟨hbefore, hlease⟩ | ⟨hfree, hlease⟩
    · obtain ⟨hheld, howner⟩ := h.leased other hbefore
      simp [hlease, hheld, howner]
    · simp [hlease, hfree]
  · simp only [System.step, take_stage_of_ne _ _ hsame] at hholds
    have hfile := file_of_other_holds h hsame hholds action
    obtain ⟨hheld, howner⟩ := h.leased other hholds
    simp [System.step, System.take, hfile, hheld, howner]

theorem alreadyStored_cases (hread : registry.readLines 1 file.lines = .ok records) (record : ρ) :
    (registry.alreadyStored record).run file = .ok true file ∧ record ∈ records ∨
      (registry.alreadyStored record).run file = .ok false file ∧
        (∀ item ∈ records, registry.recordType.key item ≠ registry.recordType.key record) ∨
      ∃ e after, (registry.alreadyStored record).run file = .error e after := by
  cases hrun : (registry.alreadyStored record).run file with
  | ok found after =>
    obtain ⟨rfl, read, hagain, hcases⟩ := run_alreadyStored_eq_ok hrun
    rw [hread] at hagain
    cases hagain
    rcases hcases with ⟨rfl, hmem⟩ | ⟨rfl, hnew⟩
    · exact Or.inl ⟨rfl, hmem⟩
    · exact Or.inr (Or.inl ⟨rfl, hnew⟩)
  | error e after => exact Or.inr (Or.inr ⟨e, after, rfl⟩)

omit [DecidableEq ρ] in
theorem fits_of_free {stage : Stage ρ} (h : stage.holdsLease = false) (records : List ρ) :
    stage.Fits registry records := by
  cases stage with
  | idle => trivial
  | reading record => trivial
  | acquiring record => trivial
  | rechecking record => cases h
  | writing record => cases h
  | releasing answer => cases h

theorem sound_act {process : Nat} {action : Action ρ} {turn : Turn ρ} {next : List ρ}
    (h : Sound registry system records)
    (hturn : action.turn registry system.file (system.stage process) = turn)
    (hread : registry.readLines 1 turn.file.lines = .ok next)
    (hkept : ∀ record ∈ records, record ∈ next)
    (hdistinct : (next.map registry.recordType.key).Nodup)
    (hreturned : ∀ record ∈ turn.returned.toList, record ∈ next)
    (hfits : turn.stage.Fits registry next)
    (hothers : ∀ other, other ≠ process → (system.stage other).Fits registry next) :
    Sound registry (system.step registry (.act process action)) next := by
  have hleased := leased_act h process action
  simp only [System.step, hturn] at hleased ⊢
  constructor
  · exact hread
  · exact hdistinct
  · intro record hrecord
    rcases List.mem_append.mp hrecord with hnew | hold
    · exact hreturned record hnew
    · exact hkept record (h.returned record hold)
  · intro other
    by_cases hsame : other = process
    · rw [hsame, take_stage_self]
      exact hfits
    · rw [take_stage_of_ne _ _ hsame]
      exact hothers other hsame
  · exact hleased

theorem sound_quiet {process : Nat} {action : Action ρ} {turn : Turn ρ}
    (h : Sound registry system records)
    (hturn : action.turn registry system.file (system.stage process) = turn)
    (hlines : turn.file.lines = system.file.lines)
    (hreturned : ∀ record ∈ turn.returned.toList, record ∈ records)
    (hfits : turn.stage.Fits registry records) :
    Sound registry (system.step registry (.act process action)) records := by
  apply sound_act h hturn
  · rw [hlines]
    exact h.read
  · exact fun _ hrecord => hrecord
  · exact h.distinct
  · exact hreturned
  · exact hfits
  · exact fun other _ => h.fits other

theorem sound_write (hlawful : registry.recordType.Lawful) {process : Nat} {record : ρ}
    (h : Sound registry system records) (hstage : system.stage process = .writing record)
    (hwhole : (registry.payload record).leavesOnOneLine = true) :
    Sound registry (system.step registry (.act process .advance)) (records ++ [record]) := by
  have hnew := h.fits process
  rw [hstage] at hnew
  have hfree : ∀ other, other ≠ process → (system.stage other).holdsLease = false := by
    intro other hne
    cases hholds : (system.stage other).holdsLease with
    | false => rfl
    | true =>
      have howner := (h.leased other hholds).2
      have hself := (h.leased process (by rw [hstage]; rfl)).2
      rw [howner] at hself
      exact absurd (Option.some.inj hself) hne
  have hturn : Action.advance.turn registry system.file (system.stage process) =
      ⟨system.file.append (registry.payload record), .releasing (some record), none⟩ := by
    rw [hstage]
    rfl
  apply sound_act h hturn
  · exact (readLines_written_iff hlawful h.read record _).mpr ⟨hwhole, rfl⟩
  · intro item hitem
    exact List.mem_append_left _ hitem
  · rw [List.map_append, List.map_singleton, List.nodup_append]
    refine ⟨h.distinct, List.nodup_singleton _, ?_⟩
    intro key hkey other hother hsame
    obtain ⟨item, hitem, rfl⟩ := List.mem_map.mp hkey
    rw [List.mem_singleton.mp hother] at hsame
    exact hnew item hitem hsame
  · intro item hitem
    cases hitem
  · exact List.mem_append_right _ (List.mem_singleton_self record)
  · intro other hne
    exact fits_of_free (hfree other hne) _

end Step

section Run

variable {ρ : Type} [DecidableEq ρ] {registry : AppendOnlyRegistry ρ}

/-- The line a process is about to write stays whole. -/
def WritesWhole (registry : AppendOnlyRegistry ρ) (system : System ρ) : SystemEvent ρ → Prop
  | .act process .advance => ∀ record, system.stage process = .writing record →
      (registry.payload record).leavesOnOneLine = true
  | _ => True

theorem sound_advance (hlawful : registry.recordType.Lawful) {system : System ρ}
    {records : List ρ} (h : Sound registry system records) {process : Nat}
    (hwhole : WritesWhole registry system (.act process .advance)) :
    ∃ next, Sound registry (system.step registry (.act process .advance)) next := by
  have hnone : ∀ record ∈ (none : Option ρ).toList, record ∈ records := by
    intro record hrecord
    cases hrecord
  have hsome : ∀ {answer : ρ}, answer ∈ records →
      ∀ record ∈ (some answer : Option ρ).toList, record ∈ records := by
    intro answer hanswer record hrecord
    rw [List.mem_singleton.mp hrecord]
    exact hanswer
  cases hstage : system.stage process with
  | idle =>
    have hturn : Action.advance.turn registry system.file (system.stage process) =
        ⟨system.file, .idle, none⟩ := by
      rw [hstage]
      rfl
    exact ⟨records, sound_quiet h hturn rfl hnone trivial⟩
  | reading record =>
    rcases alreadyStored_cases h.read record with ⟨hrun, hmem⟩ | ⟨hrun, -⟩ | ⟨e, after, hrun⟩
    · have hturn : Action.advance.turn registry system.file (system.stage process) =
          ⟨system.file, .idle, some record⟩ := by
        simp only [Action.turn, hstage, Stage.turn, hrun]
      exact ⟨records, sound_quiet h hturn rfl (hsome hmem) trivial⟩
    · have hturn : Action.advance.turn registry system.file (system.stage process) =
          ⟨system.file, .acquiring record, none⟩ := by
        simp only [Action.turn, hstage, Stage.turn, hrun]
      exact ⟨records, sound_quiet h hturn rfl hnone trivial⟩
    · have hturn : Action.advance.turn registry system.file (system.stage process) =
          ⟨system.file, .idle, none⟩ := by
        simp only [Action.turn, hstage, Stage.turn, hrun]
      exact ⟨records, sound_quiet h hturn rfl hnone trivial⟩
  | acquiring record =>
    cases hlease : system.file.lease with
    | true =>
      have hturn : Action.advance.turn registry system.file (system.stage process) =
          ⟨system.file, .idle, none⟩ := by
        simp only [Action.turn, hstage, Stage.turn, hlease, if_true]
      exact ⟨records, sound_quiet h hturn rfl hnone trivial⟩
    | false =>
      have hturn : Action.advance.turn registry system.file (system.stage process) =
          ⟨{ system.file with lease := true }, .rechecking record, none⟩ := by
        simp only [Action.turn, hstage, Stage.turn, hlease, Bool.false_eq_true, if_false]
      exact ⟨records, sound_quiet h hturn rfl hnone trivial⟩
  | rechecking record =>
    rcases alreadyStored_cases h.read record with ⟨hrun, hmem⟩ | ⟨hrun, hnew⟩ | ⟨e, after, hrun⟩
    · have hturn : Action.advance.turn registry system.file (system.stage process) =
          ⟨system.file, .releasing (some record), none⟩ := by
        simp only [Action.turn, hstage, Stage.turn, hrun]
      exact ⟨records, sound_quiet h hturn rfl hnone hmem⟩
    · have hturn : Action.advance.turn registry system.file (system.stage process) =
          ⟨system.file, .writing record, none⟩ := by
        simp only [Action.turn, hstage, Stage.turn, hrun]
      exact ⟨records, sound_quiet h hturn rfl hnone hnew⟩
    · have hturn : Action.advance.turn registry system.file (system.stage process) =
          ⟨system.file, .releasing none, none⟩ := by
        simp only [Action.turn, hstage, Stage.turn, hrun]
      exact ⟨records, sound_quiet h hturn rfl hnone trivial⟩
  | writing record => exact ⟨_, sound_write hlawful h hstage (hwhole record hstage)⟩
  | releasing answer =>
    have hturn : Action.advance.turn registry system.file (system.stage process) =
        ⟨{ system.file with lease := false }, .idle, answer⟩ := by
      rw [hstage]
      rfl
    have hfits := h.fits process
    rw [hstage] at hfits
    cases answer with
    | none => exact ⟨records, sound_quiet h hturn rfl hnone trivial⟩
    | some record => exact ⟨records, sound_quiet h hturn rfl (hsome hfits) trivial⟩

theorem sound_step (hlawful : registry.recordType.Lawful) {system : System ρ}
    {records : List ρ} (h : Sound registry system records) (event : SystemEvent ρ)
    (hwhole : WritesWhole registry system event) :
    ∃ next, Sound registry (system.step registry event) next := by
  cases event with
  | act process action =>
    cases action with
    | advance => exact sound_advance hlawful h hwhole
    | begin record =>
      refine ⟨records, sound_quiet h rfl ?_ ?_ ?_⟩
      · simp only [Action.turn]
        split <;> rfl
      · simp only [Action.turn]
        split <;> exact fun _ hmem => absurd hmem List.not_mem_nil
      · have hfits := h.fits process
        simp only [Action.turn]
        split
        · trivial
        · exact hfits
    | fail =>
      refine ⟨records, sound_quiet h rfl rfl (fun _ hmem => absurd hmem List.not_mem_nil) ?_⟩
      simp only [Action.turn]
      split <;> trivial
    | crash =>
      exact ⟨records, sound_quiet h rfl rfl (fun _ hmem => absurd hmem List.not_mem_nil)
        trivial⟩
  | clearLease =>
    refine ⟨records, ?_⟩
    simp only [System.step]
    split
    · rename_i owner howner
      split
      · exact h
      · rename_i hfree
        refine ⟨h.read, h.distinct, h.returned, h.fits, ?_⟩
        intro process hholds
        have hsame := (h.leased process hholds).2
        rw [howner] at hsame
        rw [Option.some.inj hsame, hholds] at hfree
        exact absurd rfl hfree
    · exact h

theorem lines_write {system : System ρ} {process : Nat} {record : ρ}
    (hstage : system.stage process = .writing record) :
    (system.step registry (.act process .advance)).file.lines =
      system.file.lines ++ AppendLog.written (registry.payload record) := by
  simp only [System.step, Action.turn, hstage, Stage.turn, System.take]
  rfl

theorem writesWhole_of_read (hlawful : registry.recordType.Lawful) {system : System ρ}
    {records next : List ρ} (h : Sound registry system records) (event : SystemEvent ρ)
    (hread : registry.readLines 1 (system.step registry event).file.lines = .ok next) :
    WritesWhole registry system event := by
  cases event with
  | clearLease => trivial
  | act process action =>
    cases action with
    | begin record => trivial
    | fail => trivial
    | crash => trivial
    | advance =>
      intro record hstage
      rw [lines_write hstage] at hread
      exact ((readLines_written_iff hlawful h.read record next).mp hread).1

omit [DecidableEq ρ] in
theorem sound_start {file : AppendLog} {records : List ρ}
    (hread : registry.readLines 1 file.lines = .ok records)
    (hdistinct : (records.map registry.recordType.key).Nodup) :
    Sound registry (System.start file) records := by
  constructor
  · exact hread
  · exact hdistinct
  · intro record hrecord
    cases hrecord
  · intro process
    trivial
  · intro process hholds
    cases hholds

theorem intact_along_iff_whole (hlawful : registry.recordType.Lawful) {file : AppendLog}
    {records : List ρ} (hread : registry.readLines 1 file.lines = .ok records)
    (hdistinct : (records.map registry.recordType.key).Nodup) (events : List (SystemEvent ρ)) :
    Along (Intact registry) (System.step registry) (System.start file) events ↔
      Guarded (WritesWhole registry) (System.step registry) (System.start file) events := by
  apply along_iff_guarded (I := fun system => ∃ records, Sound registry system records)
  · rintro system ⟨records, h⟩
    exact h.intact
  · rintro system event ⟨records, h⟩ hwhole
    exact sound_step hlawful h event hwhole
  · rintro system event ⟨records, h⟩ hintact
    obtain ⟨next, hread, -⟩ := hintact.held
    exact writesWhole_of_read hlawful h event hread
  · exact ⟨records, sound_start hread hdistinct⟩

theorem lines_step (registry : AppendOnlyRegistry ρ) (system : System ρ) (event : SystemEvent ρ) :
    system.file.lines <+: (system.step registry event).file.lines := by
  cases event with
  | clearLease =>
    simp only [System.step]
    split
    · split <;> exact List.prefix_refl _
    · exact List.prefix_refl _
  | act process action =>
    simp only [System.step, System.take]
    cases action with
    | begin record =>
      simp only [Action.turn]
      split <;> exact List.prefix_refl _
    | fail => exact List.prefix_refl _
    | crash => exact List.prefix_refl _
    | advance =>
      simp only [Action.turn]
      cases system.stage process with
      | idle => exact List.prefix_refl _
      | reading record =>
        simp only [Stage.turn]
        split <;> exact List.prefix_refl _
      | acquiring record =>
        simp only [Stage.turn]
        split <;> exact List.prefix_refl _
      | rechecking record =>
        simp only [Stage.turn]
        split <;> exact List.prefix_refl _
      | writing record => exact List.prefix_append _ _
      | releasing answer => exact List.prefix_refl _

theorem unreadable_step {system : System ρ} (event : SystemEvent ρ)
    (h : ∀ records, registry.readLines 1 system.file.lines ≠ .ok records) (records : List ρ) :
    registry.readLines 1 (system.step registry event).file.lines ≠ .ok records := by
  obtain ⟨more, hmore⟩ := lines_step registry system event
  intro hread
  rw [← hmore, registry_readLines_append] at hread
  simp only [except_bind_ok_iff] at hread
  obtain ⟨first, hfirst, -⟩ := hread
  exact h first hfirst

/-- Whatever the texts are: in every state in which the store can be read, its
keys are distinct and it holds every record whose append has returned. -/
theorem intact_of_read (hlawful : registry.recordType.Lawful) {file : AppendLog}
    {records : List ρ} (hread : registry.readLines 1 file.lines = .ok records)
    (hdistinct : (records.map registry.recordType.key).Nodup) (events : List (SystemEvent ρ)) :
    Along (fun system => ∀ held, registry.readLines 1 system.file.lines = .ok held →
      Intact registry system) (System.step registry) (System.start file) events := by
  have hstep : ∀ system event, ((∃ records, Sound registry system records) ∨
      ∀ records, registry.readLines 1 system.file.lines ≠ .ok records) →
        (∃ records, Sound registry (system.step registry event) records) ∨
          ∀ records, registry.readLines 1 (system.step registry event).file.lines ≠ .ok records := by
    rintro system event (⟨records, h⟩ | h)
    · by_cases hwhole : WritesWhole registry system event
      · exact Or.inl (sound_step hlawful h event hwhole)
      · exact Or.inr fun next hnext => hwhole (writesWhole_of_read hlawful h event hnext)
    · exact Or.inr (unreadable_step event h)
  refine (along_invariant hstep _ events (Or.inl ⟨records, sound_start hread hdistinct⟩)).mono ?_
  rintro system (⟨records, h⟩ | h) held hheld
  · exact h.intact
  · exact absurd hheld (h held)

end Run

section Solo

variable {ρ : Type} [DecidableEq ρ]

/-- One more step of a process that nobody interrupts: the file, its stage and
the records whose appends have returned. -/
def soloStep (registry : AppendOnlyRegistry ρ) (state : AppendLog × Stage ρ × List ρ) :
    AppendLog × Stage ρ × List ρ :=
  let turn := state.2.1.turn registry state.1
  (turn.file, turn.stage, turn.returned.toList ++ state.2.2)

theorem solo_idle (registry : AppendOnlyRegistry ρ) (file : AppendLog) (returned : List ρ)
    (steps : Nat) : (soloStep registry)^[steps] (file, .idle, returned) =
      (file, .idle, returned) := by
  induction steps with
  | zero => rfl
  | succ steps ih =>
    rw [Function.iterate_succ_apply]
    exact ih

/-- What `append` does under its lease. -/
def recheckAndWrite (registry : AppendOnlyRegistry ρ) (record : ρ) : RegistryM Bool := do
  if ← registry.alreadyStored record then return false
  modify fun file => file.append (registry.payload record)
  return true

theorem append_eq (registry : AppendOnlyRegistry ρ) (record : ρ) :
    registry.append record = (do
      if ← registry.alreadyStored record then return false
      AppendLog.underLease (.busy ("writer lease already held for " ++ registry.path))
        (recheckAndWrite registry record)) := rfl

theorem solo_rechecking (registry : AppendOnlyRegistry ρ) (held : AppendLog) (record : ρ)
    (returned : List ρ) :
    (soloStep registry)^[3] (held, .rechecking record, returned) =
      ({ finalState ((recheckAndWrite registry record).run held) with lease := false }, .idle,
        ((returned? ((recheckAndWrite registry record).run held)).map fun _ => record).toList ++
          returned) := by
  rw [Function.iterate_succ_apply]
  simp only [soloStep, Stage.turn, recheckAndWrite, EStateM.run_bind]
  have hreadOnly := readOnly_alreadyStored registry record held
  cases hrun : (registry.alreadyStored record).run held with
  | error e after =>
    rw [hrun] at hreadOnly
    have hafter : after = held := hreadOnly
    subst hafter
    rfl
  | ok found after =>
    rw [hrun] at hreadOnly
    have hafter : after = held := hreadOnly
    subst hafter
    cases found <;> rfl

/-- Uninterrupted, the stages are `append`: the same file, and the record has
returned exactly when `append` returns. -/
theorem solo_append (registry : AppendOnlyRegistry ρ) (file : AppendLog) (record : ρ)
    (returned : List ρ) :
    (soloStep registry)^[5] (file, .reading record, returned) =
      (finalState ((registry.append record).run file), .idle,
        ((returned? ((registry.append record).run file)).map fun _ => record).toList ++
          returned) := by
  rw [Function.iterate_succ_apply, append_eq]
  simp only [soloStep, Stage.turn, EStateM.run_bind]
  have hreadOnly := readOnly_alreadyStored registry record file
  cases hrun : (registry.alreadyStored record).run file with
  | error e after =>
    rw [hrun] at hreadOnly
    have hafter : after = file := hreadOnly
    subst hafter
    simp only []
    rw [solo_idle]
    rfl
  | ok found after =>
    rw [hrun] at hreadOnly
    have hafter : after = file := hreadOnly
    subst hafter
    cases found with
    | true =>
      simp only []
      rw [solo_idle]
      rfl
    | false =>
      obtain ⟨lines, lease⟩ := after
      cases lease with
      | true =>
        simp only []
        rw [Function.iterate_succ_apply]
        simp only [soloStep, Stage.turn, if_true]
        rw [solo_idle]
        rfl
      | false =>
        simp only []
        rw [Function.iterate_succ_apply]
        simp only [soloStep, Stage.turn, Bool.false_eq_true, if_false]
        rw [solo_rechecking]
        simp only [AppendLog.underLease, EStateM.run_bind, EStateM.run_get,
          Bool.false_eq_true, if_false, EStateM.run_modify, run_withCleanup]
        cases (recheckAndWrite registry record).run ⟨lines, true⟩ <;> rfl

theorem run_advance (registry : AppendOnlyRegistry ρ) (system : System ρ) {process steps : Nat}
    {after : System ρ}
    (h : run (System.step registry) system (List.replicate steps (.act process .advance)) =
      after) :
    (after.file, after.stage process, after.returned) =
      (soloStep registry)^[steps] (system.file, system.stage process, system.returned) := by
  induction steps generalizing system with
  | zero => rw [← h]; rfl
  | succ steps ih =>
    rw [List.replicate_succ, run_cons] at h
    rw [ih _ h, Function.iterate_succ_apply]
    simp only [System.step, take_stage_self]
    rfl

theorem run_append_alone (registry : AppendOnlyRegistry ρ) {system after : System ρ}
    {process : Nat} (hidle : system.stage process = .idle) (record : ρ)
    {result : EStateM.Result RegistryError AppendLog Bool}
    (hresult : (registry.append record).run system.file = result)
    (hafter : run (System.step registry) system
      (.act process (.begin record) :: List.replicate 5 (.act process .advance)) = after) :
    after.file = finalState result ∧ after.stage process = .idle ∧
      after.returned = ((returned? result).map fun _ => record).toList ++ system.returned := by
  rw [run_cons] at hafter
  have hsolo := run_advance registry _ hafter
  simp only [System.step, Action.turn, hidle, System.take, Function.update_self,
    Option.toList_none, List.nil_append] at hsolo
  rw [solo_append, hresult] at hsolo
  simpa only [Prod.mk.injEq] using hsolo

end Solo

section Kinds

variable {kind : RegistryKind} {path : String}

/-- The texts of the record a process is about to write break no line. -/
def WritesPlain (kind : RegistryKind) (system : System kind.Record) :
    SystemEvent kind.Record → Prop
  | .act process .advance => ∀ record, system.stage process = .writing record →
      ∀ text ∈ kind.texts record, lineFree text = true
  | _ => True

theorem writesWhole_eq (kind : RegistryKind) (path : String) :
    WritesWhole (kind.registry path) = WritesPlain kind := by
  funext system event
  cases event with
  | clearLease => rfl
  | act process action =>
    cases action with
    | advance => simp only [WritesWhole, WritesPlain, payload_leavesOnOneLine, List.all_eq_true]
    | begin record => rfl
    | fail => rfl
    | crash => rfl

/-- For each of the registries, any readable file with distinct keys and any
interleaving of any number of processes, with raises and kills: the store stays
readable, without two records of one key, and with every record whose append
has returned, in every state of the run exactly when no process writes a record
with a text that breaks a line. -/
theorem registry_intact_along_iff {file : AppendLog} {records : List kind.Record}
    (hread : (kind.registry path).readLines 1 file.lines = .ok records)
    (hdistinct : (records.map kind.recordType.key).Nodup)
    (events : List (SystemEvent kind.Record)) :
    Along (Intact (kind.registry path)) (System.step (kind.registry path)) (System.start file)
        events ↔
      Guarded (WritesPlain kind) (System.step (kind.registry path)) (System.start file)
        events := by
  rw [← writesWhole_eq kind path]
  exact intact_along_iff_whole kind.lawful hread hdistinct events

/-! Every record that is written was begun, so plain records are enough. -/

/-- The record a process is appending. -/
def Stage.pending {ρ : Type} : Stage ρ → Option ρ
  | .reading record => some record
  | .acquiring record => some record
  | .rechecking record => some record
  | .writing record => some record
  | _ => none

theorem pending_action {ρ : Type} [DecidableEq ρ] {registry : AppendOnlyRegistry ρ}
    {file : AppendLog} {stage : Stage ρ} (action : Action ρ) {record : ρ}
    (h : (action.turn registry file stage).stage.pending = some record) :
    stage.pending = some record ∨ action = .begin record := by
  cases action with
  | begin begun =>
    cases stage with
    | idle => exact Or.inr (congrArg Action.begin (Option.some.inj h))
    | _ => exact Or.inl h
  | fail =>
    simp only [Action.turn] at h
    split at h <;> cases h
  | crash => cases h
  | advance =>
    left
    cases stage with
    | idle => cases h
    | reading begun =>
      simp only [Action.turn, Stage.turn] at h
      split at h
      · cases h
      · exact h
      · cases h
    | acquiring begun =>
      simp only [Action.turn, Stage.turn] at h
      split at h
      · cases h
      · exact h
    | rechecking begun =>
      simp only [Action.turn, Stage.turn] at h
      split at h
      · cases h
      · exact h
      · cases h
    | writing begun => cases h
    | releasing answer => cases h

theorem writesPlain_of_begun {kind : RegistryKind} (path : String) (file : AppendLog)
    {events : List (SystemEvent kind.Record)}
    (hplain : ∀ process record, SystemEvent.act process (.begin record) ∈ events →
      ∀ text ∈ kind.texts record, lineFree text = true) :
    Guarded (WritesPlain kind) (System.step (kind.registry path)) (System.start file) events := by
  apply guarded_of_invariant (I := fun system : System kind.Record => ∀ process record,
    (system.stage process).pending = some record → ∀ text ∈ kind.texts record, lineFree text = true)
  · intro system event hevent h process record hpending
    cases event with
    | clearLease =>
      simp only [System.step] at hpending
      split at hpending
      · split at hpending <;> exact h process record hpending
      · exact h process record hpending
    | act actor action =>
      by_cases hsame : process = actor
      · subst hsame
        simp only [System.step, take_stage_self] at hpending
        rcases pending_action action hpending with hbefore | rfl
        · exact h process record hbefore
        · exact hplain process record hevent
      · simp only [System.step, take_stage_of_ne _ _ hsame] at hpending
        exact h process record hpending
  · intro system event _ h
    cases event with
    | clearLease => trivial
    | act process action =>
      cases action with
      | advance =>
        intro record hstage
        exact h process record (by rw [hstage]; rfl)
      | begin record => trivial
      | fail => trivial
      | crash => trivial
  · intro process record hpending
    cases hpending

end Kinds

/-- The second process has read before the first one writes. -/
def racingAppends (record : CandidateRecord) : List (SystemEvent CandidateRecord) :=
  [.act 0 (.begin record), .act 1 (.begin record)] ++
    [0, 1, 0, 0, 0, 0, 1, 1, 1].map fun process => .act process .advance

theorem racingAppends_intact :
    Along (Intact candidates) (System.step candidates) (System.start AppendLog.empty)
      (racingAppends (plainCandidate "candidate" candidateId_isText)) := by
  have hplain : ∀ process record, SystemEvent.act process (.begin record) ∈
      racingAppends (plainCandidate "candidate" candidateId_isText) →
        ∀ text ∈ RegistryKind.candidate.texts record, lineFree text = true := by
    intro process record hbegun
    have hrecord : record = plainCandidate "candidate" candidateId_isText := by
      simp [racingAppends] at hbegun
      rcases hbegun with ⟨-, h⟩ | ⟨-, h⟩ <;> exact h
    rw [hrecord]
    simp only [RegistryKind.texts, plainCandidate]
    decide
  have hread : (RegistryKind.candidate.registry "candidates.jsonl").readLines 1
      AppendLog.empty.lines = .ok [] := rfl
  exact (registry_intact_along_iff hread List.nodup_nil _).mpr
    (writesPlain_of_begun "candidates.jsonl" AppendLog.empty hplain)

/-- One process appends an id with U+2028 in it: the append returns, and the
store can no longer be read. -/
theorem separated_append_lost :
    ¬ Along (Intact candidates) (System.step candidates) (System.start AppendLog.empty)
      (.act 0 (.begin (plainCandidate "a\u2028b" separatedId_isText)) ::
        List.replicate 5 (.act 0 .advance)) := by
  intro halong
  have hintact := (along_iff_prefixes _ _ _ _).mp halong _ (List.prefix_refl _)
  have hfirst := run_append_first candidates (plainCandidate "a\u2028b" separatedId_isText)
  have hidle : (System.start AppendLog.empty : System CandidateRecord).stage 0 = .idle := rfl
  obtain ⟨hfile, -, -⟩ := run_append_alone candidates hidle
    (plainCandidate "a\u2028b" separatedId_isText) hfirst rfl
  obtain ⟨records, hread, -⟩ := hintact.held
  rw [hfile] at hread
  exact separated_unreadable records hread

/-- The same append, in the states before its line is in the file. -/
theorem separated_intact_of_read :
    Along (fun system => ∀ held, candidates.readLines 1 system.file.lines = .ok held →
        Intact candidates system) (System.step candidates) (System.start AppendLog.empty)
      (.act 0 (.begin (plainCandidate "a\u2028b" separatedId_isText)) ::
        List.replicate 5 (.act 0 .advance)) := by
  have hread : candidates.readLines 1 AppendLog.empty.lines = .ok [] := rfl
  exact intact_of_read (RegistryKind.lawful .candidate) hread List.nodup_nil _

end JlensEvolve.Registry
