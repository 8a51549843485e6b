import JlensEvolve.Experience.Distillation
import Mathlib.Logic.Function.Basic

/-!
Processes that add events and distill lessons on one store. A distillation reads
the archive and the lesson file with no lock held and appends what it made of
them afterwards, row by row, each under the lock.
-/

namespace JlensEvolve.Experience

open Library

/-- Where in `distill_lessons` a process is. -/
inductive DistillStage where
  | idle
  /-- The events are read and grouped. -/
  | grouped (events : List ExperienceEvent) (minEvidence : Nat)
  /-- The rows that are still to be appended. -/
  | appending (rows : List Lesson)

inductive DistillInput where
  | appendEvent (event : ExperienceEvent)
  | readEvents (minEvidence : Nat)
  | readLessons (updatedAt : String → String)
  | appendRow

structure DistillEvent where
  process : Nat
  input : DistillInput

structure Distillers where
  store : ExperienceStore
  stage : Nat → DistillStage

namespace Distillers

variable (distillers : Distillers)

def start : Distillers := ⟨⟨[], []⟩, fun _ => .idle⟩

def moved (process : Nat) (stage : DistillStage) : Distillers :=
  { distillers with stage := Function.update distillers.stage process stage }

/-- One step of one process; an input that its stage does not await changes
nothing, and a call for less than one piece of evidence raises at once. -/
def step (event : DistillEvent) : Distillers :=
  match event.input, distillers.stage event.process with
  | .appendEvent new, _ => { distillers with store := distillers.store.appendEvent new }
  | .readEvents minEvidence, .idle =>
    if minEvidence < 1 then distillers
    else distillers.moved event.process (.grouped distillers.store.events minEvidence)
  | .readLessons updatedAt, .grouped events minEvidence =>
    distillers.moved event.process
      (.appending (pendingRows minEvidence updatedAt events (latest distillers.store.lessons)))
  | .appendRow, .appending [] => distillers.moved event.process .idle
  | .appendRow, .appending (row :: rest) =>
    { store := { distillers.store with lessons := appendLessonTo distillers.store.lessons row }
      stage := Function.update distillers.stage event.process (.appending rest) }
  | _, _ => distillers

/-- The rows a process still holds. -/
def held : DistillStage → List Lesson
  | .appending rows => rows
  | _ => []

/-- Every row, in the file or on its way there, has the revision id of its
evidence. -/
def Faithful : Prop :=
  Consistent distillers.store.lessons ∧
    ∀ process, Consistent (held (distillers.stage process))

theorem faithful_start : start.Faithful :=
  ⟨fun _ hrow => (List.not_mem_nil hrow).elim, fun _ _ hrow => (List.not_mem_nil hrow).elim⟩

theorem faithful_update {store : ExperienceStore} {stage : Nat → DistillStage}
    (hstore : Consistent store.lessons) (hstages : ∀ process, Consistent (held (stage process)))
    (process : Nat) {next : DistillStage} (hnext : Consistent (held next)) :
    Faithful ⟨store, Function.update stage process next⟩ := by
  refine ⟨hstore, fun other => ?_⟩
  have hother : held (Function.update stage process next other) =
      if other = process then held next else held (stage other) := by
    rw [Function.update_apply]
    split <;> rfl
  change Consistent (held (Function.update stage process next other))
  rw [hother]
  split
  · exact hnext
  · exact hstages other

variable {distillers}

theorem Faithful.moved (h : distillers.Faithful) (process : Nat) {stage : DistillStage}
    (hstage : Consistent (held stage)) : (distillers.moved process stage).Faithful :=
  faithful_update h.1 h.2 process hstage

theorem consistent_pendingRows (minEvidence : Nat) (updatedAt : String → String)
    (events : List ExperienceEvent) (lessons : List Lesson) :
    Consistent (pendingRows minEvidence updatedAt events (latest lessons)) := by
  intro row hrow
  rw [pendingRows_eq] at hrow
  obtain ⟨group, -, rfl⟩ := List.mem_map.mp hrow
  rfl

theorem Faithful.step (h : distillers.Faithful) (event : DistillEvent) :
    (distillers.step event).Faithful := by
  rw [Distillers.step]
  split
  · exact h
  · split
    · exact h
    · exact h.moved _ fun _ hrow => (List.not_mem_nil hrow).elim
  · exact h.moved _ (consistent_pendingRows _ _ _ _)
  · exact h.moved _ fun _ hrow => (List.not_mem_nil hrow).elim
  · rename_i row rest _ hstage
    have hrows : Consistent (row :: rest) := by
      have hheld := h.2 event.process
      rwa [hstage] at hheld
    have happended : Consistent (appendLessonTo distillers.store.lessons row) :=
      consistent_appendLessonTo h.1 (hrows row List.mem_cons_self)
    have hrest : Consistent (held (.appending rest)) := fun other hother =>
      hrows other (List.mem_cons_of_mem _ hother)
    exact faithful_update happended h.2 event.process hrest
  · exact h

theorem faithful_run (inputs : List DistillEvent) : (run step start inputs).Faithful :=
  run_invariant (fun _ event h => h.step event) start inputs faithful_start

end Distillers

section OneLesson

variable {events : List ExperienceEvent} {key : String}

/-- All of the archive speaks for one lesson. -/
def SpeaksFor (events : List ExperienceEvent) (key : String) : Prop :=
  ∀ event ∈ events, isEvidence event = true ∧ lessonKey event = key

theorem evidenceFor_of_speaksFor (h : SpeaksFor events key) : evidenceFor events key = events := by
  rw [evidenceFor, List.filter_filter]
  refine List.filter_eq_self.mpr ?_
  intro event hevent
  obtain ⟨hevidence, hkey⟩ := h event hevent
  simp [hevidence, hkey]

theorem evidenceFor_of_ne (h : SpeaksFor events key) {other : String} (hne : other ≠ key) :
    evidenceFor events other = [] := by
  rw [evidenceFor, List.filter_filter]
  refine List.filter_eq_nil_iff.mpr ?_
  intro event hevent
  rw [(h event hevent).2]
  simp [Ne.symm hne]

theorem key_of_supported (h : SpeaksFor events key) {minEvidence : Nat} (hmin : 1 ≤ minEvidence)
    {lessonId : String} (henough : Supported minEvidence events lessonId) : lessonId = key := by
  by_contra hne
  rw [Supported, allEvidence, evidenceFor_of_ne h hne] at henough
  have hzero : (evidenceIds []).length = 0 := rfl
  omega

theorem entries_grouped_of_speaksFor (hsome : events ≠ []) (h : SpeaksFor events key) :
    (grouped events).entries = [(key, events)] := by
  have hmem : ∀ group, group ∈ (grouped events).entries ↔ group = (key, events) := by
    rintro ⟨other, evidence⟩
    rw [← Dict.get?_eq_some_iff, get?_grouped]
    by_cases hother : other = key
    · subst hother
      rw [evidenceFor_of_speaksFor h, if_neg hsome]
      simp [eq_comm]
    · rw [if_pos (evidenceFor_of_ne h hother)]
      simp [hother]
  have hnodup : (grouped events).entries.Nodup := (grouped events).nodup_keys.of_map
  exact List.perm_singleton.mp ((List.perm_ext_iff_of_nodup hnodup (List.nodup_singleton _)).mpr
    fun group => (hmem group).trans List.mem_singleton.symm)

theorem pendingRows_of_speaksFor (hsome : events ≠ []) (h : SpeaksFor events key)
    {minEvidence : Nat} (henough : minEvidence ≤ (evidenceIds events).length)
    (updatedAt : String → String) :
    pendingRows minEvidence updatedAt events (latest []) =
      [lessonRow (updatedAt key) key events] := by
  have hsupported : supported minEvidence events = [(key, events)] := by
    rw [supported, entries_grouped_of_speaksFor hsome h]
    exact List.filter_cons_of_pos (decide_eq_true henough)
  have hdue : [(key, events)].filter (fun group => Due [] group) = [(key, events)] := by
    have hnew : Due [] (key, events) := Option.some_ne_none _ |>.symm
    exact List.filter_cons_of_pos (decide_eq_true hnew)
  rw [pendingRows_eq, hsupported, hdue]
  rfl

end OneLesson

/-- An event that says no more than that a task went well. -/
def verifiedEvent (eventId : String) : ExperienceEvent :=
  ⟨eventId, "task", .str "parser", .str "pin the version", [], true, true⟩

def pinLesson : String := lessonKey (verifiedEvent "a")

theorem speaksFor_first : SpeaksFor [verifiedEvent "a"] pinLesson := by
  intro event hevent
  rw [List.mem_singleton.mp hevent]
  exact ⟨by decide, rfl⟩

theorem speaksFor_both : SpeaksFor [verifiedEvent "a", verifiedEvent "b"] pinLesson := by
  intro event hevent
  rcases List.mem_pair.mp hevent with rfl | rfl
  · exact ⟨by decide, rfl⟩
  · exact ⟨by decide, rfl⟩

/-- One process reads a single event and appends what it made of it after
another has distilled both. -/
def slowProcess : List DistillEvent :=
  [⟨0, .appendEvent (verifiedEvent "a")⟩, ⟨1, .readEvents 1⟩, ⟨1, .readLessons fun _ => ""⟩,
    ⟨0, .appendEvent (verifiedEvent "b")⟩, ⟨2, .readEvents 1⟩, ⟨2, .readLessons fun _ => ""⟩,
    ⟨2, .appendRow⟩, ⟨1, .appendRow⟩]

theorem revisionOf_pinLesson_ne :
    revisionOf pinLesson ["a"] ≠ revisionOf pinLesson ["a", "b"] := by
  rw [revisionOf, revisionOf, pinLesson, lessonKey, Json.asciiSha256_eq, Json.asciiSha256_eq,
    Json.asciiSha256_eq]
  decide

theorem store_slowProcess :
    (run Distillers.step Distillers.start slowProcess).store =
      ⟨[verifiedEvent "a", verifiedEvent "b"],
        [lessonRow "" pinLesson [verifiedEvent "a", verifiedEvent "b"],
          lessonRow "" pinLesson [verifiedEvent "a"]]⟩ := by
  let updatedAt : String → String := fun _ => ""
  have hone : 1 ≤ (evidenceIds [verifiedEvent "a"]).length := by decide
  have htwo : 1 ≤ (evidenceIds [verifiedEvent "a", verifiedEvent "b"]).length := by decide
  have hfirst := pendingRows_of_speaksFor (by simp) speaksFor_first hone updatedAt
  have hboth := pendingRows_of_speaksFor (by simp) speaksFor_both htwo updatedAt
  have hrevision : (lessonRow "" pinLesson [verifiedEvent "a"]).revisionId ≠
      (lessonRow "" pinLesson [verifiedEvent "a", verifiedEvent "b"]).revisionId :=
    revisionOf_pinLesson_ne
  have harchive : appendEventTo [verifiedEvent "a"] (verifiedEvent "b") =
      [verifiedEvent "a", verifiedEvent "b"] := rfl
  have hstart : appendEventTo [] (verifiedEvent "a") = [verifiedEvent "a"] := rfl
  simp [slowProcess, Distillers.step, Distillers.start, Distillers.moved, hfirst, hboth, updatedAt,
    ExperienceStore.appendEvent, harchive, hstart, appendLessonTo, hrevision]

/-- After any interleaving, one undisturbed distillation leaves every lesson with
enough evidence with all of it, and leaves nothing for the next one, exactly when
each such lesson was current or had its full revision still out of the file. -/
theorem distillation_lossless_iff (inputs : List DistillEvent) (minEvidence : Nat)
    (hmin : 1 ≤ minEvidence) (updatedAt : String → String) :
    (Distilled minEvidence
        ((run Distillers.step Distillers.start inputs).store.distillLessons
          minEvidence updatedAt).1 ∧
      Settled minEvidence
        ((run Distillers.step Distillers.start inputs).store.distillLessons
          minEvidence updatedAt).1) ↔
      Repairable minEvidence (run Distillers.step Distillers.start inputs).store := by
  have hconsistent := (Distillers.faithful_run inputs).1
  rw [← distilled_distillLessons_iff hmin hconsistent updatedAt]
  constructor
  · exact And.left
  · intro h
    exact ⟨h, settled_of_distilled hmin (consistent_distillLessons hconsistent) h⟩

/-- One archived event: the next distillation serves its lesson for good. -/
theorem distillation_lossless_first :
    Distilled 1 ((run Distillers.step Distillers.start
        [⟨0, .appendEvent (verifiedEvent "a")⟩]).store.distillLessons 1 fun _ => "").1 ∧
      Settled 1 ((run Distillers.step Distillers.start
        [⟨0, .appendEvent (verifiedEvent "a")⟩]).store.distillLessons 1 fun _ => "").1 := by
  refine (distillation_lossless_iff _ 1 le_rfl _).mpr ⟨?_, ?_⟩
  · intro lessonId _
    exact Or.inr List.not_mem_nil
  · intro first second hfirst hsecond hne
    have hkey : ∀ lessonId, Supported 1 [verifiedEvent "a"] lessonId → lessonId = pinLesson :=
      fun _ h => key_of_supported speaksFor_first le_rfl h
    exact absurd ((hkey first hfirst).trans (hkey second hsecond).symm) hne

/-- The older row comes last and the full one is in the file already, so that no
later call puts it right. -/
theorem slowProcess_loses_evidence :
    ¬ (Distilled 1 ((run Distillers.step Distillers.start slowProcess).store.distillLessons
        1 fun _ => "").1 ∧
      Settled 1 ((run Distillers.step Distillers.start slowProcess).store.distillLessons
        1 fun _ => "").1) := by
  rintro ⟨hdistilled, -⟩
  have hconsistent := (Distillers.faithful_run slowProcess).1
  obtain ⟨hrepairable, -⟩ := (distilled_distillLessons_iff le_rfl hconsistent _).mp hdistilled
  rw [store_slowProcess] at hrepairable
  have hall := evidenceFor_of_speaksFor speaksFor_both
  have henough : Supported 1 [verifiedEvent "a", verifiedEvent "b"] pinLesson := by
    rw [Supported, allEvidence, hall]
    decide
  rcases hrepairable pinLesson henough with ⟨lesson, hlesson, hevidence⟩ | hstored
  · have hlast : lesson = lessonRow "" pinLesson [verifiedEvent "a"] := by
      have hlatest := latest_concat [lessonRow "" pinLesson [verifiedEvent "a", verifiedEvent "b"]]
        (lessonRow "" pinLesson [verifiedEvent "a"])
      rw [List.singleton_append] at hlatest
      rw [hlatest] at hlesson
      exact (Option.some.inj ((Dict.get?_set_self _ pinLesson _).symm.trans hlesson)).symm
    rw [hlast, allEvidence, hall] at hevidence
    have hids : evidenceIds [verifiedEvent "a"] =
        evidenceIds [verifiedEvent "a", verifiedEvent "b"] := hevidence
    exact absurd hids (by decide)
  · rw [fullRevision, allEvidence, hall] at hstored
    exact hstored List.mem_cons_self

end JlensEvolve.Experience
