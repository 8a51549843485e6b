import JlensEvolve.Catalog.CatalogReading
import JlensEvolve.Library.Transition

/-!
Appends to one catalog, one after the other. A record that was created stays in
every search and in the index as long as no append writes a record whose file
would not give it back or is not where loading looks for it.
-/

namespace JlensEvolve.Catalog

open Library

variable {root : Place} {disk : Disk} {record : EvolutionRecord}

/-- The disk while the lock is held. -/
def locked (root : Place) (disk : Disk) : Disk :=
  (FileTree.makeAll (above root) disk).2.put (lockPlace root) (.file .cut)

/-- The append gets as far as making directories. -/
def Writes (root : Place) (record : EvolutionRecord) (disk : Disk) : Prop :=
  record.validate = .ok () ∧
    (∃ found, loadAll root disk = .ok found ∧ found.findSome? (answerFor record) = none) ∧
    disk.pathExists (parents root record) (destination root record) = false

/-- The record is read back as it is, from a place that loading looks at, and no
directory on the way to it is in place of a record or of the index. -/
structure Storable (root : Place) (record : EvolutionRecord) : Prop where
  lasting : record.Lasting
  listed : Listed root (destination root record)
  harmless : ∀ place ∈ parents root record, ¬ Listed root place ∧ place ≠ indexPlace root

/-- Nothing that is listed changed, and the index did not. -/
def Same (root : Place) (before after : Disk) : Prop :=
  ∀ place, Listed root place ∨ place = indexPlace root → after.node? place = before.node? place

/-- The record is new in its file, and the index is made of what there is. -/
structure Added (root : Place) (record : EvolutionRecord) (before after : Disk) : Prop where
  absent : before.node? (destination root record) = none
  present : after.node? (destination root record) = some (.file (.whole (.obj record.toDict)))
  others : ∀ place, Listed root place → place ≠ destination root record →
    after.node? place = before.node? place
  index : ∃ found, (∀ place other, (place, other) ∈ found ↔ Holds root after place other) ∧
    after.node? (indexPlace root) = some (.file (.whole (indexDocument root found)))

theorem inOrder_locked (h : InOrder root disk) : InOrder root (locked root disk) := by
  have hmade := h.makeAll fun place hplace => harmless_of_above (above_root_subset place hplace)
  refine hmade.of_agree fun place hplace => ?_
  rw [locked, FileTree.node?_put_of_ne]
  rintro rfl
  exact lock_not_relevant hplace

theorem same_locked : Same root disk (locked root disk) := by
  intro place hplace
  have hne : place ≠ lockPlace root := by
    rintro rfl
    exact hplace.elim lock_not_listed lock_ne_index
  rw [locked, FileTree.node?_put_of_ne _ _ hne]
  rcases FileTree.node?_makeAll (above root) place disk with hkept | ⟨hmem, -⟩
  · exact hkept
  · obtain ⟨hnot, hne⟩ := harmless_of_above (above_root_subset place hmem)
    exact (hplace.elim hnot hne).elim

theorem writeRecord_cases (h : InOrder root disk) (hstorable : Storable root record)
    (hvalid : record.validate = .ok ()) :
    (∃ error after, writeRecord root record disk = (.error error, after) ∧ InOrder root after ∧
      Same root disk after) ∨
    ∃ after, writeRecord root record disk = (.ok ⟨true, destination root record, record⟩, after) ∧
      InOrder root after ∧ Added root record disk after := by
  have hmade := h.makeAll hstorable.harmless
  have hsame : Same root disk (FileTree.makeAll (parents root record) disk).2 := by
    intro place hplace
    rcases FileTree.node?_makeAll (parents root record) place disk with hkept | ⟨hmem, -⟩
    · exact hkept
    · obtain ⟨hnot, hne⟩ := hstorable.harmless place hmem
      exact (hplace.elim hnot hne).elim
  rw [writeRecord]
  generalize FileTree.makeAll (parents root record) disk = outcome at hmade hsame ⊢
  obtain ⟨ok, made⟩ := outcome
  change InOrder root made at hmade
  change Same root disk made at hsame
  cases ok with
  | false => exact Or.inl ⟨_, made, rfl, hmade, hsame⟩
  | true =>
    cases hnode : made.node? (destination root record) with
    | some node =>
      left
      simp only [hnode]
      exact ⟨_, made, rfl, hmade, hsame⟩
    | none =>
      right
      let created := made.put (destination root record) (.file (.whole (.obj record.toDict)))
      have hcreated : InOrder root created := hmade.put_record hstorable.listed <| by
        exact ⟨record, EvolutionRecord.fromDict_toDict hstorable.lasting hvalid⟩
      obtain ⟨found, hfound, hindex⟩ := hcreated.exists_rebuildIndex
      simp only [hnode]
      refine ⟨indexed root created found, ?_, hcreated.indexed found, ?_⟩
      · rw [hindex]
      · have hlisted := hstorable.listed
        refine ⟨?_, ?_, ?_, found, ?_, FileTree.node?_put_self _ _ _⟩
        · exact (hsame _ (Or.inl hlisted)).symm.trans hnode
        · rw [node?_indexed_of_listed found hlisted]
          exact FileTree.node?_put_self _ _ _
        · intro place hplace hne
          rw [node?_indexed_of_listed found hplace]
          exact (FileTree.node?_put_of_ne _ _ hne).trans (hsame place (Or.inl hplace))
        · intro place other
          rw [mem_loadAll_iff hfound]
          exact holds_congr fun hplace => (node?_indexed_of_listed found hplace).symm

theorem append_eq (h : InOrder root disk) (hlock : disk.node? (lockPlace root) = none)
    (record : EvolutionRecord) :
    append root record disk =
      ((appendLocked root record (locked root disk)).1,
        (appendLocked root record (locked root disk)).2.remove (lockPlace root)) := by
  have hpassable : disk.Passable (above root) := fun place hplace =>
    h.folders place (above_root_subset place hplace)
  have hmade := (FileTree.makeAll_fst_iff _ disk).mpr hpassable
  have hfree : (FileTree.makeAll (above root) disk).2.node? (lockPlace root) = none := by
    rcases FileTree.node?_makeAll (above root) (lockPlace root) disk with hkept | ⟨hmem, -⟩
    · exact hkept.trans hlock
    · exact absurd (mem_above_iff.mp (above_root_subset _ hmem)).1 lock_not_above
  rw [append, locked]
  generalize FileTree.makeAll (above root) disk = outcome at hmade hfree ⊢
  obtain ⟨ok, made⟩ := outcome
  change ok = true at hmade
  subst hmade
  simp only [hfree]

theorem InOrder.unlock (h : InOrder root disk) : InOrder root (disk.remove (lockPlace root)) := by
  refine h.of_agree fun place hplace => FileTree.node?_remove_of_ne _ ?_
  rintro rfl
  exact lock_not_relevant hplace

theorem node?_unlock (disk : Disk) {place : Place}
    (h : Listed root place ∨ place = indexPlace root) :
    (disk.remove (lockPlace root)).node? place = disk.node? place := by
  refine FileTree.node?_remove_of_ne _ ?_
  rintro rfl
  exact h.elim lock_not_listed lock_ne_index

theorem Same.unlocked {after : Disk} (h : Same root (locked root disk) after) :
    Same root disk (after.remove (lockPlace root)) := by
  intro place hplace
  rw [node?_unlock after hplace, h place hplace, same_locked place hplace]

theorem Added.unlocked {after : Disk} (h : Added root record (locked root disk) after)
    (hlisted : Listed root (destination root record)) :
    Added root record disk (after.remove (lockPlace root)) := by
  obtain ⟨found, hfound, hindex⟩ := h.index
  refine ⟨?_, ?_, ?_, found, ?_, ?_⟩
  · rw [← same_locked _ (Or.inl hlisted)]
    exact h.absent
  · rw [node?_unlock after (Or.inl hlisted)]
    exact h.present
  · intro place hplace hne
    rw [node?_unlock after (Or.inl hplace), h.others place hplace hne,
      same_locked place (Or.inl hplace)]
  · intro place other
    rw [hfound]
    exact holds_congr fun hplace => (node?_unlock after (Or.inl hplace)).symm
  · rw [node?_unlock after (Or.inr rfl)]
    exact hindex

/-- No record that is loaded has the id or the content. -/
def New (root : Place) (record : EvolutionRecord) (disk : Disk) : Prop :=
  ∀ place other, Holds root disk place other →
    other.recordId ≠ record.recordId ∧ other.fingerprint ≠ record.fingerprint

theorem new_of_unanswered {found : List (Place × EvolutionRecord)}
    (hfound : loadAll root disk = .ok found) (hnone : found.findSome? (answerFor record) = none) :
    New root record disk := by
  intro place other hholds
  have hanswer := List.findSome?_eq_none_iff.mp hnone _ ((mem_loadAll_iff hfound).mpr hholds)
  rw [answerFor] at hanswer
  split at hanswer
  · split at hanswer <;> cases hanswer
  · rename_i hid
    split at hanswer
    · cases hanswer
    · rename_i hfingerprint
      exact ⟨hid, hfingerprint⟩

theorem not_created_of_answerFor {entry : Place × EvolutionRecord}
    {answer : Except CatalogError AppendResult} (h : answerFor record entry = some answer) :
    ∀ path other, answer ≠ .ok ⟨true, path, other⟩ := by
  rw [answerFor] at h
  split at h
  · split at h
    · cases h
      exact nofun
    · cases h
      exact nofun
  · split at h
    · cases h
      exact nofun
    · cases h

theorem append_cases (h : InOrder root disk) (hlock : disk.node? (lockPlace root) = none)
    (hguard : Writes root record (locked root disk) → Storable root record) :
    InOrder root (append root record disk).2 ∧
      ((Same root disk (append root record disk).2 ∧
          ∀ path other, (append root record disk).1 ≠ .ok ⟨true, path, other⟩) ∨
        (append root record disk).1 = .ok ⟨true, destination root record, record⟩ ∧
          record.validate = .ok () ∧ New root record disk ∧ Storable root record ∧
          Added root record disk (append root record disk).2) := by
  rw [append_eq h hlock]
  have hlocked := inOrder_locked h
  have hkept : Same root disk ((locked root disk).remove (lockPlace root)) :=
    Same.unlocked fun _ _ => rfl
  rw [appendLocked]
  split
  · exact ⟨hlocked.unlock, Or.inl ⟨hkept, nofun⟩⟩
  · exact ⟨hlocked.unlock, Or.inl ⟨hkept, nofun⟩⟩
  · rename_i held hvalid hheld
    split
    · rename_i answer hanswer
      refine ⟨hlocked.unlock, Or.inl ⟨hkept, ?_⟩⟩
      obtain ⟨entry, -, hentry⟩ := List.exists_of_findSome?_eq_some hanswer
      exact not_created_of_answerFor hentry
    · rename_i hnone
      split
      · exact ⟨hlocked.unlock, Or.inl ⟨hkept, nofun⟩⟩
      · rename_i hfree
        have hstorable := hguard ⟨hvalid, ⟨held, hheld, hnone⟩, by simpa using hfree⟩
        have hnew : New root record disk := by
          intro place other hholds
          refine new_of_unanswered hheld hnone place other ?_
          exact (holds_congr fun hplace => (same_locked place (Or.inl hplace)).symm).mp hholds
        rcases writeRecord_cases hlocked hstorable hvalid with
          ⟨error, after, hwrite, horder, hsame⟩ | ⟨after, hwrite, horder, hadded⟩
        · rw [hwrite]
          exact ⟨horder.unlock, Or.inl ⟨hsame.unlocked, nofun⟩⟩
        · rw [hwrite]
          exact ⟨horder.unlock, Or.inr ⟨rfl, hvalid, hnew, hstorable,
            hadded.unlocked hstorable.listed⟩⟩

theorem unlocked_append (h : InOrder root disk) (hlock : disk.node? (lockPlace root) = none)
    (record : EvolutionRecord) : (append root record disk).2.node? (lockPlace root) = none := by
  rw [append_eq h hlock]
  exact (FileTree.node?_remove _ _ _).trans (if_pos rfl)

/-- A catalog, and the records whose appends reported that they were created. -/
structure CatalogRun where
  disk : Disk
  created : List EvolutionRecord

/-- The records that one answer adds to those reported as created. -/
def reported : Except CatalogError AppendResult → List EvolutionRecord
  | .ok ⟨true, _, record⟩ => [record]
  | _ => []

namespace CatalogRun

variable (root) in
def step (run : CatalogRun) (record : EvolutionRecord) : CatalogRun :=
  { disk := (append root record run.disk).2
    created := run.created ++ reported (append root record run.disk).1 }

end CatalogRun

def InIndex (root : Place) (record : EvolutionRecord) (disk : Disk) : Prop :=
  ∃ document entries entry, disk.node? (indexPlace root) = some (.file (.whole document)) ∧
    document.get? "entries" = some (.arr entries) ∧ entry ∈ entries ∧
    entry.get? "record_id" = some (.str record.recordId) ∧
    entry.get? "fingerprint" = some (.str record.fingerprint)

/-- The record is in every search that admits it, in the index, and in the index
as it is made anew, and appending it again returns what is there. -/
structure Served (root : Place) (disk : Disk) (record : EvolutionRecord) : Prop where
  search : ∀ filters : SearchFilters, filters.admits record = true →
    ∃ found, search root filters disk = .ok found ∧ record ∈ found
  indexed : InIndex root record disk
  rebuilt : ∃ after, rebuildIndex root disk = (.ok (), after) ∧ InIndex root record after
  again : ∃ place, (append root record disk).1 = .ok ⟨false, place, record⟩

/-- The catalog serves every record that it reported as created. -/
def Closed (root : Place) (run : CatalogRun) : Prop :=
  ∀ record ∈ run.created, Served root run.disk record

/-- An id or a content is that of one file, and what was created is read back. -/
structure Invariant (root : Place) (run : CatalogRun) : Prop where
  inOrder : InOrder root run.disk
  unlocked : run.disk.node? (lockPlace root) = none
  unique : ∀ first second one other, Holds root run.disk first one →
    Holds root run.disk second other →
    one.recordId = other.recordId ∨ one.fingerprint = other.fingerprint → first = second
  valid : ∀ record ∈ run.created, record.validate = .ok ()
  held : ∀ record ∈ run.created, ∃ place, Holds root run.disk place record
  indexed : ∀ record ∈ run.created, InIndex root record run.disk

theorem inIndex_of_holds {found : List (Place × EvolutionRecord)} (place : Place)
    (hfound : ∀ place other, (place, other) ∈ found ↔ Holds root disk place other)
    (hindex : disk.node? (indexPlace root) = some (.file (.whole (indexDocument root found))))
    (hholds : Holds root disk place record) : InIndex root record disk := by
  refine ⟨_, indexEntries root found, indexEntry root (place, record), hindex, rfl, ?_, rfl, rfl⟩
  refine List.mem_map_of_mem ?_
  exact (List.perm_insertionSort _ _).mem_iff.mpr ((hfound place record).mpr hholds)

theorem Added.holds_iff {after : Disk} (h : Added root record disk after)
    (hread : EvolutionRecord.fromDict (.obj record.toDict) = .ok record)
    (hlisted : Listed root (destination root record)) {place : Place} {other : EvolutionRecord} :
    Holds root after place other ↔
      Holds root disk place other ∨ place = destination root record ∧ other = record := by
  by_cases hplace : place = destination root record
  · subst hplace
    rw [Holds, Holds, h.present, h.absent]
    constructor
    · rintro ⟨-, node, hnode, hother⟩
      cases hnode
      exact Or.inr ⟨rfl, Except.ok.inj (hother.symm.trans hread)⟩
    · rintro (⟨-, node, hnode, -⟩ | ⟨-, rfl⟩)
      · cases hnode
      · exact ⟨hlisted, _, rfl, hread⟩
  · rw [holds_congr fun hlisted => h.others place hlisted hplace]
    constructor
    · exact Or.inl
    · rintro (hold | ⟨hsame, -⟩)
      · exact hold
      · exact absurd hsame hplace

theorem reported_eq_nil {answer : Except CatalogError AppendResult}
    (h : ∀ path other, answer ≠ .ok ⟨true, path, other⟩) : reported answer = [] := by
  rcases answer with error | ⟨created, path, other⟩
  · rfl
  · cases created with
    | false => rfl
    | true => exact absurd rfl (h path other)

theorem Invariant.step {run : CatalogRun} (h : Invariant root run)
    (hguard : Writes root record (locked root run.disk) → Storable root record) :
    Invariant root (run.step root record) := by
  obtain ⟨horder, hcases⟩ := append_cases h.inOrder h.unlocked hguard
  have hunlocked := unlocked_append h.inOrder h.unlocked record
  rcases hcases with ⟨hsame, hnot⟩ | ⟨hanswer, hvalid, hnew, hstorable, hadded⟩
  · have hcreated : (run.step root record).created = run.created := by
      rw [CatalogRun.step, reported_eq_nil hnot, List.append_nil]
    have hholds : ∀ place other, Holds root (run.step root record).disk place other ↔
        Holds root run.disk place other := fun place other =>
      holds_congr fun hplace => hsame place (Or.inl hplace)
    refine ⟨horder, hunlocked, ?_, hcreated ▸ h.valid, ?_, ?_⟩
    · intro first second one other hfirst hsecond
      exact h.unique first second one other ((hholds _ _).mp hfirst) ((hholds _ _).mp hsecond)
    · intro created hmem
      rw [hcreated] at hmem
      obtain ⟨place, hplace⟩ := h.held created hmem
      exact ⟨place, (hholds _ _).mpr hplace⟩
    · intro created hmem
      rw [hcreated] at hmem
      obtain ⟨document, entries, entry, hindex, hentry⟩ := h.indexed created hmem
      exact ⟨document, entries, entry, (hsame _ (Or.inr rfl)).trans hindex, hentry⟩
  · have hread := EvolutionRecord.fromDict_toDict hstorable.lasting hvalid
    have hcreated : (run.step root record).created = run.created ++ [record] := by
      rw [CatalogRun.step, hanswer]
      rfl
    have hholds : ∀ {place other}, Holds root (run.step root record).disk place other ↔
        Holds root run.disk place other ∨ place = destination root record ∧ other = record :=
      hadded.holds_iff hread hstorable.listed
    have hheld : ∀ created ∈ (run.step root record).created,
        ∃ place, Holds root (run.step root record).disk place created := by
      intro created hmem
      rw [hcreated, List.mem_append, List.mem_singleton] at hmem
      rcases hmem with hold | rfl
      · obtain ⟨place, hplace⟩ := h.held created hold
        exact ⟨place, hholds.mpr (Or.inl hplace)⟩
      · exact ⟨_, hholds.mpr (Or.inr ⟨rfl, rfl⟩)⟩
    refine ⟨horder, hunlocked, ?_, ?_, hheld, ?_⟩
    · intro first second one other hfirst hsecond hid
      rcases hholds.mp hfirst with holdFirst | ⟨hplace, hone⟩
      · rcases hholds.mp hsecond with holdSecond | ⟨-, hother⟩
        · exact h.unique first second one other holdFirst holdSecond hid
        · rw [hother] at hid
          obtain ⟨hnewId, hnewContent⟩ := hnew first one holdFirst
          exact (hid.elim hnewId hnewContent).elim
      · rcases hholds.mp hsecond with holdSecond | ⟨hsame, -⟩
        · rw [hone] at hid
          obtain ⟨hnewId, hnewContent⟩ := hnew second other holdSecond
          exact (hid.elim (hnewId ∘ Eq.symm) (hnewContent ∘ Eq.symm)).elim
        · rw [hplace, hsame]
    · intro created hmem
      rw [hcreated, List.mem_append, List.mem_singleton] at hmem
      rcases hmem with hold | rfl
      · exact h.valid created hold
      · exact hvalid
    · intro created hmem
      obtain ⟨place, hplace⟩ := hheld created hmem
      obtain ⟨found, hfound, hindex⟩ := hadded.index
      exact inIndex_of_holds place hfound hindex hplace

theorem answerFor_of_unique {entry : Place × EvolutionRecord} {place : Place}
    (h : entry.2.recordId = record.recordId ∨ entry.2.fingerprint = record.fingerprint →
      entry = (place, record)) :
    answerFor record entry =
      if entry = (place, record) then some (.ok ⟨false, place, record⟩) else none := by
  by_cases hentry : entry = (place, record)
  · subst hentry
    simp [answerFor]
  · have hnot : ¬ entry.2.recordId = record.recordId ∧
        ¬ entry.2.fingerprint = record.fingerprint :=
      not_or.mp fun hsame => hentry (h hsame)
    rw [if_neg hentry, answerFor, if_neg hnot.1, if_neg hnot.2]

theorem Invariant.again {run : CatalogRun} (h : Invariant root run)
    (hmem : record ∈ run.created) :
    ∃ place, (append root record run.disk).1 = .ok ⟨false, place, record⟩ := by
  obtain ⟨place, hholds⟩ := h.held record hmem
  obtain ⟨found, hfound⟩ := exists_loadAll_iff.mpr (inOrder_locked h.inOrder).readable
  have hsame : ∀ place other, Holds root (locked root run.disk) place other ↔
      Holds root run.disk place other := fun place other =>
    holds_congr fun hplace => same_locked place (Or.inl hplace)
  have hanswers : ∀ entry ∈ found, answerFor record entry =
      if entry = (place, record) then some (.ok ⟨false, place, record⟩) else none := by
    rintro ⟨other, existing⟩ hentry
    have hother := (hsame _ _).mp ((mem_loadAll_iff hfound).mp hentry)
    refine answerFor_of_unique fun hid => ?_
    have hplace := h.unique other place existing record hother hholds hid
    subst hplace
    rw [hother.record_eq hholds]
  have hentry := (mem_loadAll_iff hfound).mpr ((hsame _ _).mpr hholds)
  have hfirst : found.findSome? (answerFor record) = some (.ok ⟨false, place, record⟩) := by
    cases hanswer : found.findSome? (answerFor record) with
    | none =>
      have hnone := List.findSome?_eq_none_iff.mp hanswer _ hentry
      rw [hanswers _ hentry, if_pos rfl] at hnone
      cases hnone
    | some answer =>
      obtain ⟨entry, hmem, hsome⟩ := List.exists_of_findSome?_eq_some hanswer
      rw [hanswers entry hmem] at hsome
      split at hsome
      · rw [← hsome]
      · cases hsome
  refine ⟨place, ?_⟩
  rw [append_eq h.inOrder h.unlocked, appendLocked, h.valid record hmem, hfound]
  simp only [hfirst]

theorem Invariant.closed {run : CatalogRun} (h : Invariant root run) : Closed root run := by
  intro record hmem
  obtain ⟨place, hholds⟩ := h.held record hmem
  obtain ⟨found, hfound, hrebuild⟩ := h.inOrder.exists_rebuildIndex
  have hentry := (mem_loadAll_iff hfound).mpr hholds
  refine ⟨?_, h.indexed record hmem, ?_, h.again hmem⟩
  · intro filters hadmits
    refine ⟨((found.map Prod.snd).filter filters.admits).insertionSort (recordOrder · ·), ?_, ?_⟩
    · rw [search, hfound]
      rfl
    · refine (List.perm_insertionSort _ _).mem_iff.mpr ?_
      exact List.mem_filter.mpr ⟨List.mem_map_of_mem hentry, hadmits⟩
  · refine ⟨_, hrebuild, inIndex_of_holds place ?_ (FileTree.node?_put_self _ _ _) ?_⟩
    · intro place other
      rw [mem_loadAll_iff hfound]
      exact holds_congr fun hplace => (node?_indexed_of_listed found hplace).symm
    · exact (holds_congr fun hplace => (node?_indexed_of_listed found hplace).symm).mp hholds

/-- A disk on which the catalog has not been used. -/
structure Fresh (root : Place) (disk : Disk) : Prop where
  nothing : ∀ place, root <:+ place → disk.node? place = none
  folders : disk.Passable (above root)

theorem Fresh.invariant (h : Fresh root disk) : Invariant root ⟨disk, []⟩ := by
  have hlisted : ∀ place, Listed root place → disk.node? place = none := by
    rintro place ⟨recordType, -, name, -, rfl⟩
    exact h.nothing _ ((List.suffix_cons _ _).trans (List.suffix_cons _ _))
  have hnever : ∀ place record, ¬ Holds root disk place record := by
    rintro place record ⟨hplace, node, hnode, -⟩
    rw [hlisted place hplace] at hnode
    cases hnode
  refine ⟨⟨?_, ?_, ?_⟩, h.nothing _ (List.suffix_cons _ _), ?_, nofun, nofun, nofun⟩
  · intro place hplace content
    obtain ⟨hsuffix, hne⟩ := mem_above_iff.mp hplace
    rcases List.suffix_cons_iff.mp hsuffix with rfl | hroot
    · rw [h.nothing _ (List.suffix_cons _ _)]
      exact nofun
    · exact h.folders place (mem_above_iff.mpr ⟨hroot, hne⟩) content
  · have hindex : disk.node? (indexPlace root) = none :=
      h.nothing _ ((List.suffix_cons _ _).trans (List.suffix_cons _ _))
    change disk.node? (indexPlace root) ≠ _
    rw [hindex]
    exact nofun
  · intro place node hplace hnode
    rw [hlisted place hplace] at hnode
    cases hnode
  · intro first second one other hfirst
    exact absurd hfirst (hnever first one)

/-- Along any sequence of appends that write only storable records, the catalog
serves every record that it reported as created. -/
theorem catalog_closed (root : Place) (disk : Disk) (hfresh : Fresh root disk)
    (records : List EvolutionRecord)
    (hguard : Guarded (fun run record => Writes root record (locked root run.disk) →
      Storable root record) (CatalogRun.step root) ⟨disk, []⟩ records) :
    Along (Closed root) (CatalogRun.step root) ⟨disk, []⟩ records := by
  exact along_of_guarded (fun _ h => h.closed) (fun _ _ h hstorable => h.step hstorable)
    _ records hfresh.invariant hguard

/-- A record with nothing but the id left open. -/
def noteRecord (recordId : String) : EvolutionRecord :=
  ⟨"skills", recordId, "Retry once", "candidate", ["parsing", "retry"], [], [], "model", "runtime",
    .obj [], [], []⟩

theorem lasting_noteRecord (recordId : String) : (noteRecord recordId).Lasting := by
  refine ⟨⟨?_, ?_⟩, ⟨List.Pairwise.nil, nofun⟩, ⟨List.Pairwise.nil, nofun⟩, rfl, nofun, nofun⟩
  · change ["parsing", "retry"].Pairwise (· < ·)
    decide
  · change ∀ tag ∈ ["parsing", "retry"], Contracts.isText tag = true
    decide

theorem fresh_empty (root : Place) : Fresh root FileTree.empty :=
  ⟨fun _ _ => rfl, fun _ _ _ => nofun⟩

theorem storable_noteRecord : Storable ["catalog"] (noteRecord "a") := by
  refine ⟨lasting_noteRecord "a", ⟨"skills", by decide, "a.json", by decide, by decide⟩, ?_⟩
  have hparents : parents ["catalog"] (noteRecord "a") = above ["skills", "catalog"] := by
    decide
  rw [hparents]
  intro place hplace
  have hlength := (mem_above_iff.mp hplace).1.length_le
  refine ⟨fun hlisted => ?_, ?_⟩
  · have htwo := hlisted.length
    simp at hlength htwo
    omega
  · rintro rfl
    exact absurd hlength (by decide)

/-- One record with a plain id. -/
theorem catalog_closed_one :
    Along (Closed ["catalog"]) (CatalogRun.step ["catalog"]) ⟨FileTree.empty, []⟩
      [noteRecord "a"] :=
  catalog_closed ["catalog"] FileTree.empty (fresh_empty _) [noteRecord "a"]
    ⟨fun _ => storable_noteRecord, trivial⟩

theorem append_nested :
    reported (append ["catalog"] (noteRecord "team/a") FileTree.empty).1 = [noteRecord "team/a"] := by
  decide

theorem search_nested :
    (search ["catalog"] ⟨[], [], [], [], [], []⟩
      (append ["catalog"] (noteRecord "team/a") FileTree.empty).2).toOption = some [] := by
  decide

/-- A record whose id names a folder is created where no search looks. -/
theorem nested_record_lost :
    ¬ Along (Closed ["catalog"]) (CatalogRun.step ["catalog"]) ⟨FileTree.empty, []⟩
      [noteRecord "team/a"] := by
  rintro ⟨-, hclosed⟩
  have hcreated : (CatalogRun.step ["catalog"] ⟨FileTree.empty, []⟩
      (noteRecord "team/a")).created = [noteRecord "team/a"] := append_nested
  have hserved := hclosed (noteRecord "team/a") (hcreated ▸ List.mem_cons_self)
  obtain ⟨found, hfound, hmem⟩ := hserved.search ⟨[], [], [], [], [], []⟩ rfl
  have hnone := search_nested
  change search _ _ (append ["catalog"] (noteRecord "team/a") FileTree.empty).2 = _ at hfound
  rw [hfound] at hnone
  cases Option.some.inj hnone
  cases hmem

end JlensEvolve.Catalog
