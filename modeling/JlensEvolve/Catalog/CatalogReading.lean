import JlensEvolve.Catalog.EvolutionCatalog

/-!
What loading finds, in terms of what is where: the records of all files whose
places are listed, provided that each of them is a record.
-/

namespace JlensEvolve.Catalog

open Library

variable {root : Place} {disk : Disk}

/-- The places that `_load_all` looks at. -/
def Listed (root place : Place) : Prop :=
  ∃ recordType ∈ recordTypes, ∃ name, isJsonName name = true ∧ place = name :: recordType :: root

/-- A record that is read at a place. -/
def Holds (root : Place) (disk : Disk) (place : Place) (record : EvolutionRecord) : Prop :=
  Listed root place ∧ ∃ node, disk.node? place = some node ∧ readNode node = .ok record

theorem Holds.record_eq {place : Place} {record other : EvolutionRecord}
    (h : Holds root disk place record) (hother : Holds root disk place other) :
    record = other := by
  obtain ⟨-, node, hnode, hread⟩ := h
  obtain ⟨-, same, hsame, hreadOther⟩ := hother
  cases hnode.symm.trans hsame
  exact Except.ok.inj (hread.symm.trans hreadOther)

/-- All that is listed is a record. -/
def Readable (root : Place) (disk : Disk) : Prop :=
  ∀ place node, Listed root place → disk.node? place = some node →
    ∃ record, readNode node = .ok record

def files (root : Place) (disk : Disk) : List (Place × Node Content) :=
  recordTypes.flatMap fun recordType => disk.listing (recordType :: root) isJsonName

theorem mem_files_iff {place : Place} {node : Node Content} :
    (place, node) ∈ files root disk ↔ Listed root place ∧ disk.node? place = some node := by
  rw [files, List.mem_flatMap]
  constructor
  · rintro ⟨recordType, htype, hentry⟩
    obtain ⟨hnode, name, hname, hplace⟩ := disk.mem_listing_iff.mp hentry
    exact ⟨⟨recordType, htype, name, hname, hplace⟩, hnode⟩
  · rintro ⟨⟨recordType, htype, name, hname, hplace⟩, hnode⟩
    exact ⟨recordType, htype, disk.mem_listing_iff.mpr ⟨hnode, name, hname, hplace⟩⟩

theorem loadOne_ok_iff {entry : Place × Node Content} {loaded : Place × EvolutionRecord} :
    loadOne entry = .ok loaded ↔ loaded.1 = entry.1 ∧ readNode entry.2 = .ok loaded.2 := by
  obtain ⟨place, record⟩ := loaded
  rw [loadOne]
  split
  · rename_i found hread
    rw [hread]
    simp [eq_comm]
  · rename_i error hread
    rw [hread]
    simp

theorem exists_loadAll_iff : (∃ found, loadAll root disk = .ok found) ↔ Readable root disk := by
  constructor
  · rintro ⟨found, hfound⟩ place node hlisted hnode
    obtain ⟨loaded, hloaded⟩ := mapM_ok_mem hfound (mem_files_iff.mpr ⟨hlisted, hnode⟩)
    exact ⟨loaded.2, (loadOne_ok_iff.mp hloaded).2⟩
  · intro hreadable
    refine mapM_ok_of_forall ?_
    rintro ⟨place, node⟩ hentry
    obtain ⟨hlisted, hnode⟩ := mem_files_iff.mp hentry
    obtain ⟨record, hread⟩ := hreadable place node hlisted hnode
    exact ⟨(place, record), loadOne_ok_iff.mpr ⟨rfl, hread⟩⟩

theorem mem_loadAll_iff {found : List (Place × EvolutionRecord)}
    (h : loadAll root disk = .ok found) {place : Place} {record : EvolutionRecord} :
    (place, record) ∈ found ↔ Holds root disk place record := by
  rw [mem_mapM_iff h, Holds]
  constructor
  · rintro ⟨⟨other, node⟩, hentry, hloaded⟩
    obtain ⟨hplace, hread⟩ := loadOne_ok_iff.mp hloaded
    change place = other at hplace
    subst hplace
    obtain ⟨hlisted, hnode⟩ := mem_files_iff.mp hentry
    exact ⟨hlisted, node, hnode, hread⟩
  · rintro ⟨hlisted, node, hnode, hread⟩
    exact ⟨(place, node), mem_files_iff.mpr ⟨hlisted, hnode⟩, loadOne_ok_iff.mpr ⟨rfl, hread⟩⟩

theorem mem_above_iff {place other : Place} :
    other ∈ above place ↔ other <:+ place ∧ other ≠ [] := by
  induction place with
  | nil => simp [above]
  | cons name rest ih =>
    rw [above, List.mem_append, List.mem_singleton, ih, List.suffix_cons_iff]
    constructor
    · rintro (⟨hsuffix, hne⟩ | rfl)
      · exact ⟨Or.inr hsuffix, hne⟩
      · exact ⟨Or.inl rfl, List.cons_ne_nil _ _⟩
    · rintro ⟨rfl | hsuffix, hne⟩
      · exact Or.inr rfl
      · exact Or.inl ⟨hsuffix, hne⟩

theorem Listed.length {place : Place} (h : Listed root place) :
    place.length = root.length + 2 := by
  obtain ⟨recordType, -, name, -, rfl⟩ := h
  simp

theorem Listed.not_above {place : Place} (h : Listed root place) :
    ¬ place <:+ indexFolder root := by
  intro hsuffix
  have hle := hsuffix.length_le
  rw [h.length, indexFolder, List.length_cons] at hle
  omega

theorem Listed.ne_index {place : Place} (h : Listed root place) : place ≠ indexPlace root := by
  obtain ⟨recordType, htype, name, -, rfl⟩ := h
  intro hsame
  obtain ⟨-, htail⟩ := List.cons.inj hsame
  obtain ⟨rfl, -⟩ := List.cons.inj htail
  exact absurd htype (by decide)

theorem lock_not_listed : ¬ Listed root (lockPlace root) := by
  intro h
  have hlength := h.length
  rw [lockPlace, List.length_cons] at hlength
  omega

theorem lock_not_above : ¬ lockPlace root <:+ indexFolder root := by
  intro h
  rw [lockPlace, indexFolder, List.suffix_cons_iff] at h
  rcases h with hsame | hsuffix
  · exact absurd (List.cons.inj hsame).1 (by decide)
  · have hle := hsuffix.length_le
    rw [List.length_cons] at hle
    omega

theorem lock_ne_index : lockPlace root ≠ indexPlace root := by
  intro h
  exact absurd (List.cons.inj h).1 (by decide)

structure InOrder (root : Place) (disk : Disk) : Prop where
  folders : disk.Passable (above (indexFolder root))
  index : disk.node? (indexPlace root) ≠ some .directory
  readable : Readable root disk

/-- What loading and indexing look at. -/
def Relevant (root place : Place) : Prop :=
  Listed root place ∨ place <:+ indexFolder root ∨ place = indexPlace root

theorem lock_not_relevant : ¬ Relevant root (lockPlace root) := by
  rintro (h | h | h)
  · exact lock_not_listed h
  · exact lock_not_above h
  · exact lock_ne_index h

theorem InOrder.of_agree {after : Disk} (h : InOrder root disk)
    (hagree : ∀ place, Relevant root place → after.node? place = disk.node? place) :
    InOrder root after := by
  refine ⟨?_, ?_, ?_⟩
  · intro place hplace content
    rw [hagree place (Or.inr (Or.inl (mem_above_iff.mp hplace).1))]
    exact h.folders place hplace content
  · rw [hagree _ (Or.inr (Or.inr rfl))]
    exact h.index
  · intro place node hlisted hnode
    rw [hagree place (Or.inl hlisted)] at hnode
    exact h.readable place node hlisted hnode

theorem InOrder.makeAll (h : InOrder root disk) {places : List Place}
    (hplaces : ∀ place ∈ places, ¬ Listed root place ∧ place ≠ indexPlace root) :
    InOrder root (FileTree.makeAll places disk).2 := by
  refine ⟨?_, ?_, ?_⟩
  · intro place hplace content
    rcases FileTree.node?_makeAll places place disk with hkept | ⟨-, -, hmade⟩
    · rw [hkept]
      exact h.folders place hplace content
    · rw [hmade]
      exact nofun
  · rcases FileTree.node?_makeAll places (indexPlace root) disk with hkept | ⟨hmem, -⟩
    · rw [hkept]
      exact h.index
    · exact absurd rfl (hplaces _ hmem).2
  · intro place node hlisted hnode
    rcases FileTree.node?_makeAll places place disk with hkept | ⟨hmem, -⟩
    · rw [hkept] at hnode
      exact h.readable place node hlisted hnode
    · exact absurd hlisted (hplaces place hmem).1

theorem InOrder.put_record (h : InOrder root disk) {place : Place} (hlisted : Listed root place)
    {content : Content} (hread : ∃ record, readNode (.file content) = .ok record) :
    InOrder root (disk.put place (.file content)) := by
  refine ⟨?_, ?_, ?_⟩
  · intro other hother
    rw [FileTree.node?_put_of_ne]
    · exact h.folders other hother
    · rintro rfl
      exact hlisted.not_above (mem_above_iff.mp hother).1
  · rw [FileTree.node?_put_of_ne _ _ hlisted.ne_index.symm]
    exact h.index
  · intro other node hother hnode
    rw [FileTree.node?_put] at hnode
    split at hnode
    · cases hnode
      exact hread
    · exact h.readable other node hother hnode

theorem holds_congr {after : Disk} {place : Place} {record : EvolutionRecord}
    (h : Listed root place → disk.node? place = after.node? place) :
    Holds root disk place record ↔ Holds root after place record := by
  refine and_congr_right fun hlisted => ?_
  rw [h hlisted]

theorem node?_makeAll_of_listed {places : List Place}
    (hplaces : ∀ place ∈ places, ¬ Listed root place) {place : Place} (h : Listed root place) :
    (FileTree.makeAll places disk).2.node? place = disk.node? place := by
  rcases FileTree.node?_makeAll places place disk with hkept | ⟨hmem, -⟩
  · exact hkept
  · exact absurd h (hplaces place hmem)

theorem harmless_of_above {place : Place} (h : place ∈ above (indexFolder root)) :
    ¬ Listed root place ∧ place ≠ indexPlace root := by
  have hsuffix := (mem_above_iff.mp h).1
  refine ⟨fun hlisted => hlisted.not_above hsuffix, ?_⟩
  rintro rfl
  have hle := hsuffix.length_le
  rw [indexPlace, List.length_cons] at hle
  omega

theorem above_root_subset : ∀ place ∈ above root, place ∈ above (indexFolder root) := by
  intro place hplace
  obtain ⟨hsuffix, hne⟩ := mem_above_iff.mp hplace
  exact mem_above_iff.mpr ⟨hsuffix.trans (List.suffix_cons _ _), hne⟩

/-- What rebuilding leaves. -/
def indexed (root : Place) (disk : Disk) (found : List (Place × EvolutionRecord)) : Disk :=
  (FileTree.makeAll (above (indexFolder root)) disk).2.put (indexPlace root)
    (.file (.whole (indexDocument root found)))

/-- The index is made anew exactly when the catalog is in order, and it is made
of what loading finds. -/
theorem rebuildIndex_ok_iff {after : Disk} :
    rebuildIndex root disk = (.ok (), after) ↔
      InOrder root disk ∧ ∃ found, loadAll root disk = .ok found ∧
        after = indexed root disk found := by
  constructor
  · intro h
    rw [rebuildIndex] at h
    split at h
    · cases h
    · rename_i found hfound
      split at h
      · cases h
      · rename_i made hmade
        have hpassable := (FileTree.makeAll_fst_iff _ disk).mp (congrArg Prod.fst hmade)
        have hindex : disk.node? (indexPlace root) ≠ some .directory := by
          intro hdirectory
          have hafter : (FileTree.makeAll (above (indexFolder root)) disk).2 = made :=
            congrArg Prod.snd hmade
          have hstays : made.node? (indexPlace root) = some .directory := by
            rw [← hafter]
            exact FileTree.node?_makeAll_of_some hdirectory
          rw [hstays] at h
          cases h
        refine ⟨⟨hpassable, hindex, exists_loadAll_iff.mp ⟨found, hfound⟩⟩, found, hfound, ?_⟩
        rw [indexed, hmade]
        split at h
        · cases h
        · exact (congrArg Prod.snd h).symm
  · rintro ⟨horder, found, hfound, rfl⟩
    have hpassable := (FileTree.makeAll_fst_iff _ disk).mpr horder.folders
    have hindex := (horder.makeAll fun _ => harmless_of_above).index
    rw [rebuildIndex, hfound, indexed]
    rcases hmade : FileTree.makeAll (above (indexFolder root)) disk with ⟨made?, made⟩
    rw [hmade] at hpassable hindex
    change made? = true at hpassable
    subst hpassable
    rcases hnode : made.node? (indexPlace root) with _ | _ | content
    · simp only [hnode]
    · exact absurd hnode hindex
    · simp only [hnode]

theorem InOrder.exists_rebuildIndex (h : InOrder root disk) :
    ∃ found, loadAll root disk = .ok found ∧
      rebuildIndex root disk = (.ok (), indexed root disk found) := by
  obtain ⟨found, hfound⟩ := exists_loadAll_iff.mpr h.readable
  exact ⟨found, hfound, rebuildIndex_ok_iff.mpr ⟨h, found, hfound, rfl⟩⟩

theorem node?_indexed_of_listed (found : List (Place × EvolutionRecord)) {place : Place}
    (h : Listed root place) : (indexed root disk found).node? place = disk.node? place := by
  rw [indexed, FileTree.node?_put_of_ne _ _ h.ne_index]
  exact node?_makeAll_of_listed (fun _ hplace => (harmless_of_above hplace).1) h

theorem InOrder.indexed (h : InOrder root disk) (found : List (Place × EvolutionRecord)) :
    InOrder root (indexed root disk found) := by
  have hmade := h.makeAll fun _ => harmless_of_above
  refine ⟨?_, ?_, ?_⟩
  · intro place hplace content
    rw [Catalog.indexed, FileTree.node?_put_of_ne _ _ (harmless_of_above hplace).2]
    exact hmade.folders place hplace content
  · rw [Catalog.indexed, FileTree.node?_put_self]
    exact nofun
  · intro place node hlisted hnode
    rw [node?_indexed_of_listed found hlisted] at hnode
    exact h.readable place node hlisted hnode

end JlensEvolve.Catalog
