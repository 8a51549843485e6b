import JlensEvolve.Library.Transition
import JlensEvolve.Contracts
import JlensEvolve.Library.JsonChars

/-!
`experience_store.py`: an archive of events and the lessons distilled from it,
both append-only. Every append looks, under the file lock, whether its id is in
the file already; a reader of lessons keeps the last row of each.
-/

namespace JlensEvolve.Experience

open Library

/-- An event of the archive: what distillation reads of it. -/
structure ExperienceEvent where
  eventId : String
  taskId : String
  taskFamily : Json
  lesson : Json
  tags : List String
  accepted : Bool
  holdoutVerified : Bool

structure Lesson where
  lessonId : String
  revisionId : String
  taskFamily : Json
  lesson : Json
  tags : List String
  evidenceCount : Nat
  evidenceEventIds : List String
  sourceTaskIds : List String
  updatedAt : String
  status : String

structure ExperienceStore where
  events : List ExperienceEvent
  lessons : List Lesson

/-- `sorted(texts)`. -/
def sortedTexts (texts : List String) : List String := texts.insertionSort (· ≤ ·)

/-- `sorted({…})` of texts. -/
def sortedSet (texts : List String) : List String := sortedTexts texts.dedup

def lessonKey (event : ExperienceEvent) : String :=
  (Json.obj [("task_family", event.taskFamily), ("lesson", event.lesson),
    ("tags", .arr ((sortedTexts event.tags).map .str))]).asciiSha256

/-- `_json_hash([lesson_id, evidence_ids])`. -/
def revisionOf (lessonId : String) (evidenceIds : List String) : String :=
  (Json.arr [.str lessonId, .arr (evidenceIds.map .str)]).asciiSha256

/-- `_append_unique` on the archive. -/
def appendEventTo (events : List ExperienceEvent) (event : ExperienceEvent) :
    List ExperienceEvent :=
  if event.eventId ∈ events.map (·.eventId) then events else events ++ [event]

/-- `_append_unique` on the lesson file. -/
def appendLessonTo (lessons : List Lesson) (row : Lesson) : List Lesson :=
  if row.revisionId ∈ lessons.map (·.revisionId) then lessons else lessons ++ [row]

/-- The last row of every lesson. -/
def latest (lessons : List Lesson) : Dict String Lesson :=
  lessons.foldl (fun latest row => latest.set row.lessonId row) Dict.empty

namespace ExperienceStore

variable (store : ExperienceStore)

def appendEvent (event : ExperienceEvent) : ExperienceStore :=
  { store with events := appendEventTo store.events event }

def readLessons : List Lesson := (latest store.lessons).values

end ExperienceStore

/-- An event that counts as evidence for its lesson. -/
def isEvidence (event : ExperienceEvent) : Bool :=
  event.accepted && event.holdoutVerified && Contracts.truthy event.lesson

/-- `grouped`: the evidence of every lesson, in the order of the archive. -/
def grouped (events : List ExperienceEvent) : Dict String (List ExperienceEvent) :=
  (events.filter isEvidence).foldl (fun groups event =>
    groups.set (lessonKey event) ((groups.get? (lessonKey event)).getD [] ++ [event])) Dict.empty

def evidenceIds (evidence : List ExperienceEvent) : List String :=
  sortedSet (evidence.map (·.eventId))

def lessonRow (updatedAt lessonId : String) (evidence : List ExperienceEvent) : Lesson :=
  let exemplar := evidence.getLast?
  let ids := evidenceIds evidence
  { lessonId
    revisionId := revisionOf lessonId ids
    taskFamily := (exemplar.map (·.taskFamily)).getD .null
    lesson := (exemplar.map (·.lesson)).getD .null
    tags := sortedSet ((exemplar.map (·.tags)).getD [])
    evidenceCount := ids.length
    evidenceEventIds := ids
    sourceTaskIds := sortedSet (evidence.map (·.taskId))
    updatedAt
    status := "candidate" }

/-- The rows one call comes to append: enough evidence, and not the revision
that was read as the latest. The clock is read for every row. -/
def pendingRows (minEvidence : Nat) (updatedAt : String → String) (events : List ExperienceEvent)
    (existing : Dict String Lesson) : List Lesson :=
  ((grouped events).entries.filter fun group =>
    minEvidence ≤ (evidenceIds group.2).length).filterMap fun group =>
      let row := lessonRow (updatedAt group.1) group.1 group.2
      if (existing.get? group.1).map (·.revisionId) = some row.revisionId then none else some row

/-- `distill_lessons` with no one else at work; it returns how many rows it came
to append, whether or not the file took them. -/
def ExperienceStore.distillLessons (store : ExperienceStore) (minEvidence : Nat)
    (updatedAt : String → String) : ExperienceStore × Nat :=
  let rows := pendingRows minEvidence updatedAt store.events (latest store.lessons)
  ({ store with lessons := rows.foldl appendLessonTo store.lessons }, rows.length)

end JlensEvolve.Experience

/-!
What a distillation that no one disturbs makes of the store it finds. A lesson
whose last row is not that of its whole evidence is put right by one more
append, and the file refuses that append exactly when the row is in it already,
further up.
-/

namespace JlensEvolve.Experience

open Library

theorem latest_concat (lessons : List Lesson) (row : Lesson) :
    latest (lessons ++ [row]) = (latest lessons).set row.lessonId row := by
  rw [latest, List.foldl_append]
  rfl

theorem get?_latest_mem {lessons : List Lesson} {lessonId : String} :
    ∀ {row : Lesson}, (latest lessons).get? lessonId = some row →
      row ∈ lessons ∧ row.lessonId = lessonId := by
  induction lessons using List.reverseRecOn with
  | nil =>
    intro row h
    cases h
  | append_singleton lessons last ih =>
    intro row h
    rw [latest_concat, Dict.get?_set] at h
    split at h
    · rename_i hkey
      cases h
      exact ⟨List.mem_append_right _ List.mem_cons_self, hkey.symm⟩
    · obtain ⟨hmem, hlesson⟩ := ih h
      exact ⟨List.mem_append_left _ hmem, hlesson⟩

def revisions (lessons : List Lesson) : List String := lessons.map (·.revisionId)

theorem get?_latest_appendLessonTo_of_ne (lessons : List Lesson) {row : Lesson} {lessonId : String}
    (h : row.lessonId ≠ lessonId) :
    (latest (appendLessonTo lessons row)).get? lessonId = (latest lessons).get? lessonId := by
  rw [appendLessonTo]
  split
  · rfl
  · rw [latest_concat, Dict.get?_set_of_ne _ _ h.symm]

theorem get?_latest_foldl_of_absent (rows : List Lesson) {lessonId : String} :
    ∀ lessons : List Lesson, (∀ row ∈ rows, row.lessonId ≠ lessonId) →
      (latest (rows.foldl appendLessonTo lessons)).get? lessonId =
        (latest lessons).get? lessonId := by
  induction rows with
  | nil =>
    intro lessons _
    rfl
  | cons row rest ih =>
    intro lessons h
    rw [List.foldl_cons, ih _ fun other hother => h other (List.mem_cons_of_mem _ hother)]
    exact get?_latest_appendLessonTo_of_ne lessons (h row List.mem_cons_self)

theorem mem_revisions_foldl_iff (rows : List Lesson) (revision : String) :
    ∀ lessons : List Lesson, revision ∈ revisions (rows.foldl appendLessonTo lessons) ↔
      revision ∈ revisions lessons ∨ revision ∈ revisions rows := by
  induction rows with
  | nil =>
    intro lessons
    simp [revisions]
  | cons row rest ih =>
    intro lessons
    rw [List.foldl_cons, ih]
    have hstep : revision ∈ revisions (appendLessonTo lessons row) ↔
        revision ∈ revisions lessons ∨ revision = row.revisionId := by
      rw [appendLessonTo]
      split
      · rename_i hknown
        constructor
        · exact Or.inl
        · rintro (hold | rfl)
          · exact hold
          · exact hknown
      · simp [revisions]
    rw [hstep]
    simp only [revisions, List.map_cons, List.mem_cons]
    tauto

/-- What one call makes of the last row of a lesson it has a row for: the row,
unless its revision was in the file or came before it in the same call. -/
theorem get?_latest_foldl {before after : List Lesson} {row : Lesson} (lessons : List Lesson)
    (hlessons : ((before ++ row :: after).map (·.lessonId)).Nodup) :
    (latest ((before ++ row :: after).foldl appendLessonTo lessons)).get? row.lessonId =
      if row.revisionId ∈ revisions lessons ∨ row.revisionId ∈ revisions before then
        (latest lessons).get? row.lessonId
      else some row := by
  rw [List.map_append, List.map_cons] at hlessons
  obtain ⟨-, hrest, hdisjoint⟩ := List.nodup_append.mp hlessons
  have hbefore : ∀ other ∈ before, other.lessonId ≠ row.lessonId := by
    intro other hother
    exact hdisjoint _ (List.mem_map_of_mem hother) _ List.mem_cons_self
  have hafter : ∀ other ∈ after, other.lessonId ≠ row.lessonId := by
    intro other hother hsame
    exact (List.nodup_cons.mp hrest).1 (hsame ▸ List.mem_map_of_mem hother)
  rw [List.foldl_append, List.foldl_cons, get?_latest_foldl_of_absent after _ hafter,
    appendLessonTo]
  have hknown := mem_revisions_foldl_iff before row.revisionId lessons
  by_cases hstored : row.revisionId ∈ revisions (before.foldl appendLessonTo lessons)
  · rw [if_pos (hknown.mp hstored)]
    rw [revisions] at hstored
    rw [if_pos hstored]
    exact get?_latest_foldl_of_absent before lessons hbefore
  · rw [if_neg fun h => hstored (hknown.mpr h)]
    rw [revisions] at hstored
    rw [if_neg hstored, latest_concat, Dict.get?_set_self]

theorem before_unique {before after other rest : List Lesson} {row : Lesson}
    (hnodup : ((before ++ row :: after).map (·.lessonId)).Nodup)
    (h : before ++ row :: after = other ++ row :: rest) : before = other := by
  induction before generalizing other with
  | nil =>
    cases other with
    | nil => rfl
    | cons first others =>
      exfalso
      rw [List.nil_append, List.cons_append, List.cons.injEq] at h
      obtain ⟨-, hafter⟩ := h
      rw [List.nil_append, List.map_cons, List.nodup_cons, hafter] at hnodup
      exact hnodup.1 (by simp)
  | cons first before ih =>
    rw [List.cons_append, List.map_cons, List.nodup_cons] at hnodup
    cases other with
    | nil =>
      exfalso
      rw [List.cons_append, List.nil_append, List.cons.injEq] at h
      obtain ⟨rfl, -⟩ := h
      exact hnodup.1 (by simp)
    | cons next others =>
      rw [List.cons_append, List.cons_append, List.cons.injEq] at h
      rw [h.1, ih hnodup.2 h.2]

/-- All the evidence in the archive for a lesson. -/
def evidenceFor (events : List ExperienceEvent) (lessonId : String) : List ExperienceEvent :=
  (events.filter isEvidence).filter (lessonKey · = lessonId)

theorem get?_grouped (events : List ExperienceEvent) (lessonId : String) :
    (grouped events).get? lessonId =
      if evidenceFor events lessonId = [] then none else some (evidenceFor events lessonId) := by
  rw [grouped, evidenceFor]
  induction events.filter isEvidence using List.reverseRecOn with
  | nil => rfl
  | append_singleton counted event ih =>
    rw [List.foldl_append, List.foldl_cons, List.foldl_nil, Dict.get?_set, List.filter_append]
    by_cases hkey : lessonId = lessonKey event
    · subst hkey
      rw [if_pos rfl, ih, List.filter_cons_of_pos (by simp), List.filter_nil]
      split
      · rename_i hempty
        rw [hempty]
        rfl
      · simp
    · rw [if_neg hkey, ih, List.filter_cons_of_neg (by simpa using fun h => hkey h.symm),
        List.filter_nil, List.append_nil]

/-- The evidence ids that a lesson should have. -/
def allEvidence (events : List ExperienceEvent) (lessonId : String) : List String :=
  evidenceIds (evidenceFor events lessonId)

/-- There is enough evidence for a lesson. -/
def Supported (minEvidence : Nat) (events : List ExperienceEvent) (lessonId : String) : Prop :=
  minEvidence ≤ (allEvidence events lessonId).length

/-- The lessons with enough evidence, with that evidence. -/
def supported (minEvidence : Nat) (events : List ExperienceEvent) :
    List (String × List ExperienceEvent) :=
  (grouped events).entries.filter fun group => minEvidence ≤ (evidenceIds group.2).length

theorem nodup_supported (minEvidence : Nat) (events : List ExperienceEvent) :
    ((supported minEvidence events).map Prod.fst).Nodup :=
  (List.filter_sublist.map Prod.fst).nodup (grouped events).nodup_keys

theorem mem_supported_iff {minEvidence : Nat} (hmin : 1 ≤ minEvidence)
    {events : List ExperienceEvent} {group : String × List ExperienceEvent} :
    group ∈ supported minEvidence events ↔
      Supported minEvidence events group.1 ∧ group.2 = evidenceFor events group.1 := by
  rw [supported, List.mem_filter, ← Dict.get?_eq_some_iff, get?_grouped]
  constructor
  · rintro ⟨hgroup, henough⟩
    split at hgroup
    · cases hgroup
    · have hall := (Option.some.inj hgroup).symm
      rw [hall] at henough
      have hle : minEvidence ≤ (evidenceIds (evidenceFor events group.1)).length := by
        simpa using henough
      exact ⟨hle, hall⟩
  · rintro ⟨henough, hall⟩
    have hsome : evidenceFor events group.1 ≠ [] := by
      intro hempty
      rw [Supported, allEvidence, hempty] at henough
      have hnone : (evidenceIds []).length = 0 := rfl
      omega
    rw [if_neg hsome, hall]
    exact ⟨rfl, decide_eq_true henough⟩

/-- A row is due for a lesson whose last row is another revision. -/
def Due (lessons : List Lesson) (group : String × List ExperienceEvent) : Prop :=
  ((latest lessons).get? group.1).map (·.revisionId) ≠
    some (revisionOf group.1 (evidenceIds group.2))

instance (lessons : List Lesson) (group : String × List ExperienceEvent) :
    Decidable (Due lessons group) := by
  unfold Due
  infer_instance

def rowOf (updatedAt : String → String) (group : String × List ExperienceEvent) : Lesson :=
  lessonRow (updatedAt group.1) group.1 group.2

theorem pendingRows_eq (minEvidence : Nat) (updatedAt : String → String)
    (events : List ExperienceEvent) (lessons : List Lesson) :
    pendingRows minEvidence updatedAt events (latest lessons) =
      ((supported minEvidence events).filter fun group => Due lessons group).map
        (rowOf updatedAt) := by
  rw [pendingRows, ← supported]
  induction supported minEvidence events with
  | nil => rfl
  | cons group rest ih =>
    by_cases h : Due lessons group
    · rw [List.filter_cons_of_pos (by simpa using h), List.map_cons, ← ih,
        List.filterMap_cons_some]
      exact if_neg h
    · rw [List.filter_cons_of_neg (by simpa using h), ← ih, List.filterMap_cons_none]
      exact if_pos (not_not.mp h)

/-- The last row of a lesson names all its evidence. -/
def Current (store : ExperienceStore) (lessonId : String) : Prop :=
  ∃ lesson, (latest store.lessons).get? lessonId = some lesson ∧
    lesson.evidenceEventIds = allEvidence store.events lessonId

/-- The revision id of every row is that of its evidence. -/
def Consistent (lessons : List Lesson) : Prop :=
  ∀ row ∈ lessons, row.revisionId = revisionOf row.lessonId row.evidenceEventIds

/-- The revision with all the evidence of a lesson. -/
def fullRevision (store : ExperienceStore) (lessonId : String) : String :=
  revisionOf lessonId (allEvidence store.events lessonId)

section Call

variable {store : ExperienceStore} {minEvidence : Nat} {updatedAt : String → String}

variable {lessonId : String}

theorem not_due_of_current (hconsistent : Consistent store.lessons) (h : Current store lessonId) :
    ¬ Due store.lessons (lessonId, evidenceFor store.events lessonId) := by
  obtain ⟨lesson, hlesson, hevidence⟩ := h
  obtain ⟨hmem, hid⟩ := get?_latest_mem hlesson
  rw [Due, hlesson, not_not, Option.map_some, hconsistent lesson hmem, hid, hevidence]
  rfl

theorem stored_of_not_due
    (h : ¬ Due store.lessons (lessonId, evidenceFor store.events lessonId)) :
    fullRevision store lessonId ∈ revisions store.lessons := by
  rw [Due, not_not] at h
  obtain ⟨lesson, hlesson, hrevision⟩ := Option.map_eq_some_iff.mp h
  rw [fullRevision, allEvidence, ← hrevision]
  exact List.mem_map_of_mem (get?_latest_mem hlesson).1

/-- The rows that the call appends, in order. -/
def dueRows (store : ExperienceStore) (minEvidence : Nat) (updatedAt : String → String) :
    List Lesson :=
  ((supported minEvidence store.events).filter fun group => Due store.lessons group).map
    (rowOf updatedAt)

theorem distillLessons_eq (store : ExperienceStore) (minEvidence : Nat)
    (updatedAt : String → String) :
    store.distillLessons minEvidence updatedAt =
      ({ store with lessons :=
          (dueRows store minEvidence updatedAt).foldl appendLessonTo store.lessons },
        (dueRows store minEvidence updatedAt).length) := by
  rw [ExperienceStore.distillLessons, pendingRows_eq]
  rfl

variable (store minEvidence updatedAt) in
theorem nodup_dueRows : ((dueRows store minEvidence updatedAt).map (·.lessonId)).Nodup := by
  rw [dueRows, List.map_map]
  exact (List.filter_sublist.map Prod.fst).nodup (nodup_supported minEvidence store.events)

variable (updatedAt) in
theorem mem_dueRows_iff (hmin : 1 ≤ minEvidence) {row : Lesson} :
    row ∈ dueRows store minEvidence updatedAt ↔
      ∃ lessonId, Supported minEvidence store.events lessonId ∧
        Due store.lessons (lessonId, evidenceFor store.events lessonId) ∧
        row = rowOf updatedAt (lessonId, evidenceFor store.events lessonId) := by
  rw [dueRows, List.mem_map]
  constructor
  · rintro ⟨⟨lessonId, evidence⟩, hgroup, hrow⟩
    obtain ⟨hmem, hdue⟩ := List.mem_filter.mp hgroup
    obtain ⟨henough, hall⟩ := (mem_supported_iff hmin).mp hmem
    change evidence = evidenceFor store.events lessonId at hall
    subst hall
    exact ⟨lessonId, henough, of_decide_eq_true hdue, hrow.symm⟩
  · rintro ⟨lessonId, henough, hdue, rfl⟩
    have hmem : (lessonId, evidenceFor store.events lessonId) ∈
        supported minEvidence store.events :=
      (mem_supported_iff hmin).mpr ⟨henough, rfl⟩
    exact ⟨_, List.mem_filter.mpr ⟨hmem, decide_eq_true hdue⟩, rfl⟩

variable (updatedAt) in
theorem current_distillLessons_iff (hmin : 1 ≤ minEvidence)
    (hconsistent : Consistent store.lessons) (lessonId : String)
    (henough : Supported minEvidence store.events lessonId) :
    Current (store.distillLessons minEvidence updatedAt).1 lessonId ↔
      Current store lessonId ∨
        fullRevision store lessonId ∉ revisions store.lessons ∧
          ∃ before after, dueRows store minEvidence updatedAt =
            before ++ rowOf updatedAt (lessonId, evidenceFor store.events lessonId) :: after ∧
            fullRevision store lessonId ∉ revisions before := by
  let row := rowOf updatedAt (lessonId, evidenceFor store.events lessonId)
  rw [distillLessons_eq]
  by_cases hdue : Due store.lessons (lessonId, evidenceFor store.events lessonId)
  · have hold : ¬ Current store lessonId := fun h => not_due_of_current hconsistent h hdue
    have hmem : row ∈ dueRows store minEvidence updatedAt :=
      (mem_dueRows_iff updatedAt hmin).mpr ⟨lessonId, henough, hdue, rfl⟩
    obtain ⟨before, after, hrows⟩ := List.append_of_mem hmem
    have hnodup : ((before ++ row :: after).map (·.lessonId)).Nodup :=
      hrows ▸ nodup_dueRows store minEvidence updatedAt
    have hlast := get?_latest_foldl store.lessons hnodup
    rw [← hrows] at hlast
    by_cases hrefused : row.revisionId ∈ revisions store.lessons ∨ row.revisionId ∈ revisions before
    · rw [if_pos hrefused] at hlast
      constructor
      · rintro ⟨lesson, hlesson, hevidence⟩
        exact Or.inl ⟨lesson, hlast ▸ hlesson, hevidence⟩
      · rintro (h | ⟨hstored, other, rest, hother, hbefore⟩)
        · exact absurd h hold
        · have hsame := before_unique hnodup (hrows.symm.trans hother)
          rw [hsame] at hrefused
          exact absurd hrefused (not_or.mpr ⟨hstored, hbefore⟩)
    · rw [if_neg hrefused] at hlast
      obtain ⟨hstored, hbefore⟩ := not_or.mp hrefused
      constructor
      · intro _
        exact Or.inr ⟨hstored, before, after, hrows, hbefore⟩
      · intro _
        exact ⟨row, hlast, rfl⟩
  · have habsent : ∀ row ∈ dueRows store minEvidence updatedAt, row.lessonId ≠ lessonId := by
      intro row hrow hid
      obtain ⟨other, _, hother, rfl⟩ := (mem_dueRows_iff updatedAt hmin).mp hrow
      change other = lessonId at hid
      exact hdue (hid ▸ hother)
    have hkept := get?_latest_foldl_of_absent (dueRows store minEvidence updatedAt) store.lessons
      habsent
    constructor
    · rintro ⟨lesson, hlesson, hevidence⟩
      exact Or.inl ⟨lesson, hkept ▸ hlesson, hevidence⟩
    · rintro (⟨lesson, hlesson, hevidence⟩ | ⟨hstored, -⟩)
      · exact ⟨lesson, hkept ▸ hlesson, hevidence⟩
      · exact absurd (stored_of_not_due hdue) hstored

theorem consistent_appendLessonTo {lessons : List Lesson} {row : Lesson}
    (hlessons : Consistent lessons)
    (hrow : row.revisionId = revisionOf row.lessonId row.evidenceEventIds) :
    Consistent (appendLessonTo lessons row) := by
  rw [appendLessonTo]
  split
  · exact hlessons
  · intro other hother
    rcases List.mem_append.mp hother with hold | hnew
    · exact hlessons other hold
    · rw [List.mem_singleton.mp hnew]
      exact hrow

theorem consistent_distillLessons (h : Consistent store.lessons) :
    Consistent (store.distillLessons minEvidence updatedAt).1.lessons := by
  rw [distillLessons_eq]
  have hrows : ∀ row ∈ dueRows store minEvidence updatedAt,
      row.revisionId = revisionOf row.lessonId row.evidenceEventIds := by
    intro row hrow
    obtain ⟨group, -, rfl⟩ := List.mem_map.mp hrow
    rfl
  have hfold : ∀ (rows lessons : List Lesson), Consistent rows → Consistent lessons →
      Consistent (rows.foldl appendLessonTo lessons) := by
    intro rows
    induction rows with
    | nil =>
      intro lessons _ hlessons
      exact hlessons
    | cons row rest ih =>
      intro lessons hall hlessons
      refine ih _ (fun other hother => hall other (List.mem_cons_of_mem _ hother)) ?_
      exact consistent_appendLessonTo hlessons (hall row List.mem_cons_self)
  exact hfold _ _ hrows h

end Call

/-- Readers find every lesson with enough evidence once, with all of it. -/
def Distilled (minEvidence : Nat) (store : ExperienceStore) : Prop :=
  ∀ lessonId, Supported minEvidence store.events lessonId →
    ∃ lesson, store.readLessons.filter (·.lessonId = lessonId) = [lesson] ∧
      lesson.evidenceEventIds = allEvidence store.events lessonId

/-- Repeating the call changes nothing and reports nothing. -/
def Settled (minEvidence : Nat) (store : ExperienceStore) : Prop :=
  ∀ updatedAt, store.distillLessons minEvidence updatedAt = (store, 0)

/-- Every lesson with enough evidence is current, or its full revision is not in
the file; and no two of those that are not current share a revision id. -/
def Repairable (minEvidence : Nat) (store : ExperienceStore) : Prop :=
  (∀ lessonId, Supported minEvidence store.events lessonId →
    Current store lessonId ∨ fullRevision store lessonId ∉ revisions store.lessons) ∧
  ∀ first second, Supported minEvidence store.events first →
    Supported minEvidence store.events second → first ≠ second → ¬ Current store first →
    ¬ Current store second → fullRevision store first ≠ fullRevision store second

theorem filter_readLessons (store : ExperienceStore) (lessonId : String) :
    store.readLessons.filter (·.lessonId = lessonId) =
      ((latest store.lessons).get? lessonId).toList := by
  have hkeys : ∀ entry ∈ (latest store.lessons).entries, entry.2.lessonId = entry.1 := by
    intro entry hentry
    exact (get?_latest_mem ((Dict.get?_eq_some_iff _ _ _).mpr hentry)).2
  rw [ExperienceStore.readLessons]
  generalize latest store.lessons = found at hkeys ⊢
  obtain ⟨entries, hnodup⟩ := found
  change (entries.map Prod.snd).filter (·.lessonId = lessonId) =
    (Dict.lookupEntries lessonId entries).toList
  change ∀ entry ∈ entries, entry.2.lessonId = entry.1 at hkeys
  induction entries with
  | nil => rfl
  | cons entry rest ih =>
    obtain ⟨key, lesson⟩ := entry
    rw [List.map_cons, List.nodup_cons] at hnodup
    have hkey : lesson.lessonId = key := hkeys _ List.mem_cons_self
    have hrest := ih hnodup.2 fun other hother => hkeys other (List.mem_cons_of_mem _ hother)
    by_cases h : key = lessonId
    · subst h
      have hnone : Dict.lookupEntries key rest = none :=
        (Dict.get?_eq_none_iff ⟨rest, hnodup.2⟩ key).mpr hnodup.1
      rw [hnone] at hrest
      rw [List.map_cons, List.filter_cons_of_pos (by simpa using hkey), hrest]
      simp [Dict.lookupEntries]
    · rw [List.map_cons, List.filter_cons_of_neg (by simpa [hkey] using h), hrest]
      simp [Dict.lookupEntries, h]

theorem distilled_iff_current (minEvidence : Nat) (store : ExperienceStore) :
    Distilled minEvidence store ↔
      ∀ lessonId, Supported minEvidence store.events lessonId → Current store lessonId := by
  refine forall_congr' fun lessonId => imp_congr_right fun _ => exists_congr fun lesson => ?_
  rw [filter_readLessons]
  refine and_congr_left fun _ => ?_
  cases (latest store.lessons).get? lessonId <;> simp

theorem settled_of_distilled {minEvidence : Nat} (hmin : 1 ≤ minEvidence) {store : ExperienceStore}
    (hconsistent : Consistent store.lessons) (h : Distilled minEvidence store) :
    Settled minEvidence store := by
  intro updatedAt
  have hnone : dueRows store minEvidence updatedAt = [] := by
    refine List.eq_nil_iff_forall_not_mem.mpr ?_
    intro row hrow
    obtain ⟨lessonId, henough, hdue, -⟩ := (mem_dueRows_iff updatedAt hmin).mp hrow
    exact not_due_of_current hconsistent
      ((distilled_iff_current minEvidence store).mp h lessonId henough) hdue
  rw [distillLessons_eq, hnone]
  rfl

theorem earlier_or_later {rows before after : List Lesson} {row other : Lesson}
    (hrows : rows = before ++ row :: after) (hother : other ∈ rows) (hne : other ≠ row) :
    other ∈ before ∨ ∃ front rest, rows = front ++ other :: rest ∧ row ∈ front := by
  rw [hrows, List.mem_append, List.mem_cons] at hother
  rcases hother with hbefore | hsame | hafter
  · exact Or.inl hbefore
  · exact absurd hsame hne
  · obtain ⟨middle, rest, rfl⟩ := List.append_of_mem hafter
    refine Or.inr ⟨before ++ row :: middle, rest, ?_, by simp⟩
    rw [hrows, List.append_assoc, List.cons_append]

theorem distilled_distillLessons_iff {minEvidence : Nat} (hmin : 1 ≤ minEvidence)
    {store : ExperienceStore} (hconsistent : Consistent store.lessons)
    (updatedAt : String → String) :
    Distilled minEvidence (store.distillLessons minEvidence updatedAt).1 ↔
      Repairable minEvidence store := by
  have hcall := current_distillLessons_iff updatedAt hmin hconsistent
  have hevents : (store.distillLessons minEvidence updatedAt).1.events = store.events := rfl
  rw [distilled_iff_current, hevents]
  constructor
  · intro hall
    have hafter := fun lessonId henough => (hcall lessonId henough).mp (hall lessonId henough)
    refine ⟨fun lessonId henough => (hafter lessonId henough).imp_right And.left, ?_⟩
    intro first second hfirst hsecond hne holdFirst holdSecond hsame
    obtain ⟨-, before, after, hrows, hbefore⟩ := (hafter first hfirst).resolve_left holdFirst
    obtain ⟨-, front, rest, hrows', hfront⟩ := (hafter second hsecond).resolve_left holdSecond
    have hmem : rowOf updatedAt (second, evidenceFor store.events second) ∈
        dueRows store minEvidence updatedAt := by
      rw [hrows']
      exact List.mem_append_right _ List.mem_cons_self
    have hdiffers : rowOf updatedAt (second, evidenceFor store.events second) ≠
        rowOf updatedAt (first, evidenceFor store.events first) := by
      intro hrow
      exact hne (congrArg Lesson.lessonId hrow).symm
    rcases earlier_or_later hrows hmem hdiffers with hearlier | ⟨start, tail, hsplit, hlater⟩
    · rw [hsame] at hbefore
      exact hbefore (List.mem_map_of_mem hearlier)
    · have hnodup := nodup_dueRows store minEvidence updatedAt
      rw [hsplit] at hnodup
      rw [← before_unique hnodup (hsplit.symm.trans hrows'), ← hsame] at hfront
      exact hfront (List.mem_map_of_mem hlater)
  · rintro ⟨hstored, hapart⟩ lessonId henough
    refine (hcall lessonId henough).mpr ?_
    by_cases hold : Current store lessonId
    · exact Or.inl hold
    · have hnew := (hstored lessonId henough).resolve_left hold
      have hdue : Due store.lessons (lessonId, evidenceFor store.events lessonId) := by
        by_contra hnot
        exact hnew (stored_of_not_due hnot)
      have hdueMem : rowOf updatedAt (lessonId, evidenceFor store.events lessonId) ∈
          dueRows store minEvidence updatedAt :=
        (mem_dueRows_iff updatedAt hmin).mpr ⟨lessonId, henough, hdue, rfl⟩
      obtain ⟨before, after, hrows⟩ := List.append_of_mem hdueMem
      refine Or.inr ⟨hnew, before, after, hrows, ?_⟩
      intro hearlier
      obtain ⟨row, hrow, hrevision⟩ := List.mem_map.mp hearlier
      have hmem : row ∈ dueRows store minEvidence updatedAt := by
        rw [hrows]
        exact List.mem_append_left _ hrow
      have hne : row.lessonId ≠ lessonId := by
        intro hsame
        have hnodup := nodup_dueRows store minEvidence updatedAt
        rw [hrows, List.map_append, List.nodup_append] at hnodup
        exact hnodup.2.2 _ (List.mem_map_of_mem hrow) _ List.mem_cons_self hsame
      obtain ⟨other, hother, hotherDue, hotherRow⟩ := (mem_dueRows_iff updatedAt hmin).mp hmem
      have hotherId : row.lessonId = other := by
        rw [hotherRow]
        rfl
      have hotherRevision : row.revisionId = fullRevision store other := by
        rw [hotherRow]
        rfl
      rw [hotherId] at hne
      rw [hotherRevision] at hrevision
      have hotherOld : ¬ Current store other := fun h =>
        not_due_of_current hconsistent h hotherDue
      exact hapart other lessonId hother henough hne hotherOld hold hrevision

end JlensEvolve.Experience
