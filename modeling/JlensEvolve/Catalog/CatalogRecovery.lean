import JlensEvolve.Catalog.CatalogCrashes

/-!
What is left to do after a crash inside `append`. With the lock removed the
catalog works as before unless a file was left that loading finds and cannot
read, or one that stands in its own record's way.
-/

namespace JlensEvolve.Catalog

open Library

variable {root : Place} {disk : Disk} {record : EvolutionRecord}

/-- A reason to refuse a record that lies in the record itself. -/
def OwnFault (disk : Disk) : CatalogError → Prop
  | .conflict _ | .notADirectory | .fileExists | .isADirectory => True
  | .unreadable place _ => disk.node? place = none
  | .contract _ => False

/-- Once the lock is gone every search, every rebuilding of the index and every
append of a valid record works, the interrupted record is found whole or not at
all, and its append, where it would have returned, returns when it is repeated. -/
structure Recovered (root : Place) (record : EvolutionRecord) (before after : Disk) : Prop where
  found : FoundIn root record before after
  searched : ∀ filters, ∃ found, search root filters after = .ok found
  indexed : ∃ next, rebuildIndex root after = (.ok (), next)
  appended : ∀ later : EvolutionRecord, later.validate = .ok () →
    ∀ error, (append root later after).1 = .error error → OwnFault after error
  again : Writes root record (locked root before) →
    (∃ result, (append root record before).1 = .ok result) →
    ∃ result, (append root record after).1 = .ok result

theorem ownFault_of_loadAll {after : Disk} (h : Readable root disk)
    (hkept : ∀ place node, disk.node? place = some node → after.node? place = some node)
    {error : CatalogError} (herror : loadAll root after = .error error) :
    OwnFault disk error := by
  obtain ⟨⟨place, node⟩, hentry, hload⟩ := mapM_error_mem herror
  obtain ⟨hlisted, hnode⟩ := mem_files_iff.mp hentry
  rw [loadOne] at hload
  split at hload
  · cases hload
  · rename_i reason hread
    cases hload
    cases hold : disk.node? place with
    | none => exact hold
    | some old =>
      obtain ⟨record, hrecord⟩ := h place old hlisted hold
      cases hnode.symm.trans (hkept place old hold)
      cases hread.symm.trans hrecord

theorem rebuildIndex_error {error : CatalogError}
    (h : (rebuildIndex root disk).1 = .error error) :
    loadAll root disk = .error error ∨ error = .notADirectory ∨ error = .isADirectory := by
  rw [rebuildIndex] at h
  split at h
  · rename_i reason hload
    cases h
    exact Or.inl hload
  · split at h
    · cases h
      exact Or.inr (Or.inl rfl)
    · split at h
      · cases h
        exact Or.inr (Or.inr rfl)
      · cases h

theorem ownFault_of_writeRecord (h : Readable root disk) {error : CatalogError}
    (herror : (writeRecord root record disk).1 = .error error) : OwnFault disk error := by
  have hkept : ∀ place node, disk.node? place = some node →
      (FileTree.makeAll (parents root record) disk).2.node? place = some node :=
    fun _ _ hnode => FileTree.node?_makeAll_of_some hnode
  rw [writeRecord] at herror
  generalize FileTree.makeAll (parents root record) disk = outcome at hkept herror
  obtain ⟨ok, made⟩ := outcome
  cases ok with
  | false =>
    cases herror
    trivial
  | true =>
    cases hmissing : made.node? (destination root record) with
    | some node =>
      simp only [hmissing] at herror
      cases herror
      trivial
    | none =>
      let created := made.put (destination root record) (.file (.whole (.obj record.toDict)))
      have hcreated : ∀ place node, disk.node? place = some node →
          created.node? place = some node := by
        intro place node hnode
        have hthere := hkept place node hnode
        refine (FileTree.node?_put_of_ne _ _ ?_).trans hthere
        rintro rfl
        rw [hmissing] at hthere
        cases hthere
      simp only [hmissing] at herror
      split at herror
      · rename_i reason after hrebuild
        cases herror
        rcases rebuildIndex_error (congrArg Prod.fst hrebuild) with hload | rfl | rfl
        · exact ownFault_of_loadAll h hcreated hload
        · trivial
        · trivial
      · cases herror

theorem ownFault_unlocked {error : CatalogError} (h : OwnFault (locked root disk) error) :
    OwnFault disk error := by
  cases error with
  | unreadable place reason =>
    change (locked root disk).node? place = none at h
    change disk.node? place = none
    by_contra hsome
    obtain ⟨node, hnode⟩ := Option.ne_none_iff_exists'.mp hsome
    rw [locked, FileTree.node?_put, FileTree.node?_makeAll_of_some hnode] at h
    split at h <;> cases h
  | contract message => exact h
  | conflict message => trivial
  | notADirectory => trivial
  | fileExists => trivial
  | isADirectory => trivial

theorem ownFault_of_answerFor {entry : Place × EvolutionRecord} {error : CatalogError}
    (h : answerFor record entry = some (.error error)) : OwnFault disk error := by
  rw [answerFor] at h
  split at h
  · split at h
    · cases h
      trivial
    · cases h
  · split at h <;> cases h

theorem ownFault_of_appendLocked (h : Readable root disk) (hvalid : record.validate = .ok ())
    {error : CatalogError} (herror : (appendLocked root record disk).1 = .error error) :
    OwnFault disk error := by
  obtain ⟨found, hfound⟩ := exists_loadAll_iff.mpr h
  rw [appendLocked, hvalid, hfound] at herror
  simp only at herror
  split at herror
  · rename_i answer hanswer
    obtain ⟨entry, -, hentry⟩ := List.exists_of_findSome?_eq_some hanswer
    change answer = .error error at herror
    rw [herror] at hentry
    exact ownFault_of_answerFor hentry
  · split at herror
    · cases herror
      trivial
    · exact ownFault_of_writeRecord h herror

theorem ownFault_of_append (h : InOrder root disk) (hlock : disk.node? (lockPlace root) = none)
    (hvalid : record.validate = .ok ()) {error : CatalogError}
    (herror : (append root record disk).1 = .error error) : OwnFault disk error := by
  rw [append_eq h hlock] at herror
  have hfault : OwnFault (locked root disk) error :=
    ownFault_of_appendLocked (inOrder_locked h).readable hvalid herror
  exact ownFault_unlocked hfault

theorem appendLocked_of_writes (h : Writes root record disk) :
    appendLocked root record disk = writeRecord root record disk := by
  obtain ⟨hvalid, ⟨found, hfound, hnone⟩, hfree⟩ := h
  rw [appendLocked, hvalid, hfound]
  simp only [hnone, hfree, Bool.false_eq_true, if_false]

/-- A write returns exactly when nothing is in its way and the catalog is in order
with the new file. -/
theorem writeRecord_ok_iff :
    (∃ result, (writeRecord root record disk).1 = .ok result) ↔
      disk.Passable (parents root record) ∧
        (FileTree.makeAll (parents root record) disk).2.node? (destination root record) = none ∧
        InOrder root (withRecord root record (.whole (.obj record.toDict)) disk) := by
  rw [← FileTree.makeAll_fst_iff, withRecord, writeRecord]
  generalize FileTree.makeAll (parents root record) disk = outcome
  obtain ⟨ok, made⟩ := outcome
  cases ok with
  | false =>
    constructor
    · rintro ⟨result, h⟩
      cases h
    · rintro ⟨h, -⟩
      cases h
  | true =>
    cases hmissing : made.node? (destination root record) with
    | some node =>
      simp only [hmissing]
      constructor
      · rintro ⟨result, h⟩
        cases h
      · rintro ⟨-, h, -⟩
        cases h
    | none =>
      simp only [hmissing, true_and]
      constructor
      · rintro ⟨result, h⟩
        split at h
        · cases h
        · rename_i after hrebuild
          exact (rebuildIndex_ok_iff.mp hrebuild).1
      · intro horder
        obtain ⟨found, -, hindex⟩ := horder.exists_rebuildIndex
        rw [hindex]
        exact ⟨_, rfl⟩

theorem node?_relocked {crashed : Disk}
    (hlock : crashed.node? (lockPlace root) = some (.file .cut))
    (habove : ∀ place ∈ above root, crashed.node? place = some .directory) (place : Place) :
    (locked root (crashed.remove (lockPlace root))).node? place = crashed.node? place := by
  rw [locked, FileTree.node?_put]
  split
  · rename_i hsame
    rw [hsame, hlock]
  · rename_i hne
    have hremoved := FileTree.node?_remove_of_ne crashed hne
    rcases FileTree.node?_makeAll (above root) place (crashed.remove (lockPlace root)) with
      hkept | ⟨hmem, hnone, -⟩
    · rw [hkept, hremoved]
    · rw [hremoved, habove place hmem] at hnone
      cases hnone

/-- The lock and the folders above it are there. -/
def Held (root : Place) (disk : Disk) : Prop :=
  disk.node? (lockPlace root) = some (.file .cut) ∧
    ∀ place ∈ above root, disk.node? place = some .directory

theorem held_locked (hheld : disk.Passable (above root)) : Held root (locked root disk) :=
  ⟨FileTree.node?_put_self _ _ _, fun _ => node?_locked_above hheld⟩

theorem Held.makeAll (h : Held root disk) (places : List Place) :
    Held root (FileTree.makeAll places disk).2 :=
  ⟨FileTree.node?_makeAll_of_some h.1,
    fun place hplace => FileTree.node?_makeAll_of_some (h.2 place hplace)⟩

theorem Held.put (h : Held root disk) {place : Place} {node : Node Content}
    (hlock : place ≠ lockPlace root) (habove : place ∉ above root) :
    Held root (disk.put place node) := by
  refine ⟨(FileTree.node?_put_of_ne _ _ hlock.symm).trans h.1, fun other hother => ?_⟩
  refine (FileTree.node?_put_of_ne _ _ ?_).trans (h.2 other hother)
  rintro rfl
  exact habove hother

theorem held_record {written : Nat} {after : Disk}
    (h : Crashes root record disk (.record written) after) : Held root after := by
  cases h with
  | record _ hheld hwrites hpassable hmissing =>
    have hmade := (held_locked hheld).makeAll (parents root record)
    refine hmade.put ?_ ?_
    · intro hsame
      rw [hsame, hmade.1] at hmissing
      cases hmissing
    · intro habove
      rw [hmade.2 _ habove] at hmissing
      cases hmissing

theorem index_not_above : indexPlace root ∉ above root := fun h =>
  (harmless_of_above (above_root_subset _ h)).2 rfl

theorem held_crashed {point : CrashPoint} {after : Disk}
    (h : Crashes root record disk point after) : Held root after := by
  cases h with
  | reading hheld => exact held_locked hheld
  | folders made hheld hwrites hpassable => exact (held_locked hheld).makeAll _
  | record written hheld hwrites hpassable hmissing =>
    exact held_record (.record written hheld hwrites hpassable hmissing)
  | indexFolders made hwritten hreadable hpassable => exact (held_record hwritten).makeAll _
  | temporary ending hwritten hreadable hpassable hunused =>
    refine ((held_record hwritten).makeAll _).put ?_ ?_
    · intro hsame
      have hlength := congrArg List.length hsame
      simp [lockPlace, indexFolder] at hlength
    · intro habove
      exact temporary_not_relevant ending
        (Or.inr (Or.inl (mem_above_iff.mp (above_root_subset _ habove)).1))
  | replaced hwritten hrebuilt =>
    obtain ⟨-, found, -, rfl⟩ := rebuildIndex_ok_iff.mp hrebuilt
    exact ((held_record hwritten).makeAll _).put lock_ne_index.symm index_not_above

/-- The crash came after the record's file was made. -/
def CrashPoint.hasFile : CrashPoint → Bool
  | .reading | .folders _ => false
  | _ => true

/-- What a crash leaves once the record's file is there. -/
structure FileMade (root : Place) (record : EvolutionRecord) (disk crashed : Disk) : Prop where
  writes : Writes root record (locked root disk)
  passable : (locked root disk).Passable (parents root record)
  missing : (FileTree.makeAll (parents root record) (locked root disk)).2.node?
    (destination root record) = none
  folders : ∀ place ∈ parents root record, crashed.node? place = some .directory
  file : ∃ node, crashed.node? (destination root record) = some node

theorem fileMade_record {written : Nat} {after : Disk}
    (h : Crashes root record disk (.record written) after) : FileMade root record disk after := by
  cases h with
  | record _ hheld hwrites hpassable hmissing =>
    refine ⟨hwrites, hpassable, hmissing, ?_, _, FileTree.node?_put_self _ _ _⟩
    intro place hplace
    have hdirectory := FileTree.node?_makeAll_of_mem hplace
      ((FileTree.makeAll_fst_iff _ _).mpr hpassable)
    refine (FileTree.node?_put_of_ne _ _ ?_).trans hdirectory
    rintro rfl
    rw [hmissing] at hdirectory
    cases hdirectory

theorem FileMade.kept {whole after : Disk} (h : FileMade root record disk whole)
    (hdirectory : ∀ place, whole.node? place = some .directory →
      after.node? place = some .directory)
    (hthere : ∀ place node, whole.node? place = some node → ∃ node, after.node? place = some node) :
    FileMade root record disk after := by
  obtain ⟨node, hnode⟩ := h.file
  exact ⟨h.writes, h.passable, h.missing, fun place hplace => hdirectory place (h.folders place hplace),
    hthere _ node hnode⟩

theorem fileMade_crashed {point : CrashPoint} {after : Disk}
    (h : Crashes root record disk point after) (hfile : point.hasFile = true) :
    FileMade root record disk after := by
  cases h with
  | reading hheld => cases hfile
  | folders made hheld hwrites hpassable => cases hfile
  | record written hheld hwrites hpassable hmissing =>
    exact fileMade_record (.record written hheld hwrites hpassable hmissing)
  | indexFolders made hwritten hreadable hpassable =>
    exact (fileMade_record hwritten).kept (fun _ => FileTree.node?_makeAll_of_some)
      fun _ node hnode => ⟨node, FileTree.node?_makeAll_of_some hnode⟩
  | temporary ending hwritten hreadable hpassable hunused =>
    rename_i whole
    have hkept : ∀ place node, whole.node? place = some node →
        ((FileTree.makeAll (above (indexFolder root)) whole).2.put
          ((".CATALOG.json." ++ ending) :: indexFolder root) (.file .cut)).node? place =
            some node := by
      intro place node hnode
      refine (FileTree.node?_put_of_ne _ _ ?_).trans (FileTree.node?_makeAll_of_some hnode)
      rintro rfl
      rw [hunused] at hnode
      cases hnode
    exact (fileMade_record hwritten).kept (fun place => hkept place _)
      fun place node hnode => ⟨node, hkept place node hnode⟩
  | replaced hwritten hrebuilt =>
    obtain ⟨horder, found, -, rfl⟩ := rebuildIndex_ok_iff.mp hrebuilt
    refine (fileMade_record hwritten).kept ?_ ?_
    · intro place hdirectory
      refine (FileTree.node?_put_of_ne _ _ ?_).trans (FileTree.node?_makeAll_of_some hdirectory)
      rintro rfl
      exact horder.index hdirectory
    · intro place node hnode
      rw [indexed, FileTree.node?_put]
      split
      · exact ⟨_, rfl⟩
      · exact ⟨node, FileTree.node?_makeAll_of_some hnode⟩

theorem unanswered_of_writes (h : Writes root record (locked root disk)) {place : Place}
    {other : EvolutionRecord} (hholds : Holds root disk place other) :
    answerFor record (place, other) = none := by
  obtain ⟨-, ⟨found, hfound, hnone⟩, -⟩ := h
  exact List.findSome?_eq_none_iff.mp hnone _
    ((mem_loadAll_iff hfound).mpr (holds_locked_iff.mpr hholds))

section Again

variable {crashed : Disk}

theorem node?_again (h : Held root crashed) (place : Place) :
    (locked root (crashed.remove (lockPlace root))).node? place = crashed.node? place :=
  node?_relocked h.1 h.2 place

theorem holds_again (h : Held root crashed) {place : Place} {other : EvolutionRecord} :
    Holds root (locked root (crashed.remove (lockPlace root))) place other ↔
      Holds root crashed place other :=
  holds_congr fun _ => node?_again h place

theorem append_again (h : InOrder root (crashed.remove (lockPlace root))) :
    (append root record (crashed.remove (lockPlace root))).1 =
      (appendLocked root record (locked root (crashed.remove (lockPlace root)))).1 := by
  have hfree : (crashed.remove (lockPlace root)).node? (lockPlace root) = none :=
    (FileTree.node?_remove _ _ _).trans (if_pos rfl)
  rw [append_eq h hfree]

theorem not_again_of_not_listed (horder : InOrder root (crashed.remove (lockPlace root)))
    (hheld : Held root crashed) (hmade : FileMade root record disk crashed)
    (hfound : FoundIn root record disk crashed)
    (hlisted : ¬ Listed root (destination root record)) :
    ¬ ∃ result, (append root record (crashed.remove (lockPlace root))).1 = .ok result := by
  have hlocked := inOrder_locked horder
  obtain ⟨found, hload⟩ := exists_loadAll_iff.mpr hlocked.readable
  have hnone : found.findSome? (answerFor record) = none := by
    refine List.findSome?_eq_none_iff.mpr ?_
    rintro ⟨place, other⟩ hentry
    have hholds := (holds_again hheld).mp ((mem_loadAll_iff hload).mp hentry)
    refine unanswered_of_writes hmade.writes ?_
    rcases hfound with hsame | ⟨whole, -, -, hsame⟩
    · exact (hsame place other).mp hholds
    · rcases (hsame place other).mp hholds with hbefore | ⟨rfl, -⟩
      · exact hbefore
      · exact absurd hholds.1 hlisted
  have hexists : (locked root (crashed.remove (lockPlace root))).pathExists (parents root record)
      (destination root record) = true := by
    obtain ⟨node, hnode⟩ := hmade.file
    rw [FileTree.pathExists, Bool.and_eq_true, List.all_eq_true, node?_again hheld, hnode]
    refine ⟨fun place hplace => ?_, rfl⟩
    rw [node?_again hheld, hmade.folders place hplace]
  rintro ⟨result, hresult⟩
  rw [append_again horder, appendLocked, hmade.writes.1, hload] at hresult
  simp only [hnone, hexists, if_true] at hresult
  cases hresult

theorem again_of_found (horder : InOrder root (crashed.remove (lockPlace root)))
    (hheld : Held root crashed) (hmade : FileMade root record disk crashed)
    (hfound : FoundIn root record disk crashed)
    (hlisted : Listed root (destination root record)) :
    ∃ result, (append root record (crashed.remove (lockPlace root))).1 = .ok result := by
  have hlocked := inOrder_locked horder
  obtain ⟨found, hload⟩ := exists_loadAll_iff.mpr hlocked.readable
  obtain ⟨node, hnode⟩ := hmade.file
  obtain ⟨other, hread⟩ := hlocked.readable _ node hlisted ((node?_again hheld _).trans hnode)
  have hhere : Holds root crashed (destination root record) other := ⟨hlisted, node, hnode, hread⟩
  have hnew : ¬ Holds root disk (destination root record) other := by
    intro hbefore
    obtain ⟨-, old, hold, -⟩ := holds_makeAll_iff.mpr (holds_locked_iff.mpr hbefore)
    rw [hmade.missing] at hold
    cases hold
  rcases hfound with hsame | ⟨whole, hid, hfingerprint, hsame⟩
  · exact absurd ((hsame _ _).mp hhere) hnew
  · have hanswer : ∀ place, answerFor record (place, whole) = some (.ok ⟨false, place, whole⟩) := by
      intro place
      simp [answerFor, hid, hfingerprint]
    have hmem : (destination root record, whole) ∈ found := by
      refine (mem_loadAll_iff hload).mpr ((holds_again hheld).mpr ?_)
      obtain hbefore | ⟨-, rfl⟩ := (hsame _ _).mp hhere
      · exact absurd hbefore hnew
      · exact hhere
    rw [append_again horder, appendLocked, hmade.writes.1, hload]
    simp only
    cases hfirst : found.findSome? (answerFor record) with
    | none =>
      have hnone := List.findSome?_eq_none_iff.mp hfirst _ hmem
      rw [hanswer] at hnone
      cases hnone
    | some answer =>
      obtain ⟨⟨place, one⟩, hentry, hone⟩ := List.exists_of_findSome?_eq_some hfirst
      have hholds := (holds_again hheld).mp ((mem_loadAll_iff hload).mp hentry)
      rcases (hsame place one).mp hholds with hbefore | ⟨-, rfl⟩
      · rw [unanswered_of_writes hmade.writes hbefore] at hone
        cases hone
      · rw [hanswer] at hone
        exact ⟨_, (Option.some.inj hone).symm⟩

theorem again_of_folders {made : Nat} (hpassable : disk.Passable (above root))
    (horder : InOrder root (crashed.remove (lockPlace root))) (hheld : Held root crashed)
    (hcrashed : crashed = withFolders root record made (locked root disk))
    (hwrites : Writes root record (locked root disk))
    (hreturns : ∃ result, (writeRecord root record (locked root disk)).1 = .ok result) :
    ∃ result, (append root record (crashed.remove (lockPlace root))).1 = .ok result := by
  obtain ⟨hfolders, hmissing, hwhole⟩ := writeRecord_ok_iff.mp hreturns
  have hnotAbove := destination_not_above hpassable hmissing
  obtain ⟨hbefore, hread⟩ := (inOrder_put_iff hmissing hnotAbove).mp hwhole
  have hharmless := ((inOrder_makeAll_iff hfolders).mp hbefore).2
  have hparent : destination root record ∉ parents root record := by
    intro hmem
    rw [FileTree.node?_makeAll_of_mem hmem ((FileTree.makeAll_fst_iff _ _).mpr hfolders)]
      at hmissing
    cases hmissing
  have hnode : ∀ place, crashed.node? place = (locked root disk).node? place ∨
      place ∈ parents root record ∧ crashed.node? place = some .directory := by
    intro place
    rw [hcrashed]
    rcases FileTree.node?_makeAll ((parents root record).take made) place (locked root disk) with
      hkept | ⟨hmem, -, hdirectory⟩
    · exact Or.inl hkept
    · exact Or.inr ⟨List.mem_of_mem_take hmem, hdirectory⟩
  have habsent : (locked root (crashed.remove (lockPlace root))).node?
      (destination root record) = none := by
    rw [node?_again hheld]
    rcases hnode (destination root record) with hkept | ⟨hmem, -⟩
    · rw [hkept]
      cases hold : (locked root disk).node? (destination root record) with
      | none => rfl
      | some node =>
        rw [FileTree.node?_makeAll_of_some hold] at hmissing
        cases hmissing
    · exact absurd hmem hparent
  have hlocked := inOrder_locked horder
  obtain ⟨found, hload⟩ := exists_loadAll_iff.mpr hlocked.readable
  have hagain : Writes root record (locked root (crashed.remove (lockPlace root))) := by
    refine ⟨hwrites.1, ⟨found, hload, ?_⟩, ?_⟩
    · refine List.findSome?_eq_none_iff.mpr ?_
      rintro ⟨place, other⟩ hentry
      have hholds := (holds_again hheld).mp ((mem_loadAll_iff hload).mp hentry)
      rw [hcrashed] at hholds
      exact unanswered_of_writes hwrites (holds_locked_iff.mp (holds_makeAll_iff.mp hholds))
    · rw [FileTree.pathExists, habsent, Option.isSome_none, Bool.and_false]
  rw [append_again horder, appendLocked_of_writes hagain]
  have hclear : (locked root (crashed.remove (lockPlace root))).Passable (parents root record) := by
    intro place hplace content hfile
    rw [node?_again hheld] at hfile
    rcases hnode place with hkept | ⟨-, hdirectory⟩
    · exact hfolders place hplace content (hkept ▸ hfile)
    · cases hdirectory.symm.trans hfile
  have hstill : (FileTree.makeAll (parents root record)
      (locked root (crashed.remove (lockPlace root)))).2.node? (destination root record) = none := by
    rcases FileTree.node?_makeAll (parents root record) (destination root record)
        (locked root (crashed.remove (lockPlace root))) with hkept | ⟨hmem, -⟩
    · rw [hkept, habsent]
    · exact absurd hmem hparent
  refine writeRecord_ok_iff.mpr ⟨hclear, hstill, (inOrder_put_iff hstill hnotAbove).mpr ⟨?_, hread⟩⟩
  exact hlocked.makeAll hharmless

end Again

/-- What the claim of recovery comes to: what is written so far keeps the catalog
in order, and the record's file, once it is there, is where loading looks. -/
def Safe (root : Place) (record : EvolutionRecord) (point : CrashPoint) : Prop :=
  Orderly root record point ∧
    (point.hasFile = true → Listed root (destination root record))

theorem Orderly.harmless {point : CrashPoint} (h : Orderly root record point)
    (hfile : point.hasFile = true) : ∀ place ∈ parents root record, Harmless root place := by
  cases point with
  | reading => cases hfile
  | folders made => cases hfile
  | record written => exact h.1
  | indexFolders made => exact h.1
  | temporary ending => exact h.1
  | replaced => exact h.1

theorem folders_of_no_file {point : CrashPoint} {crashed : Disk}
    (h : Crashes root record disk point crashed) (hfile : point.hasFile = false) :
    ∃ made, crashed = withFolders root record made (locked root disk) := by
  cases h with
  | reading hheld => exact ⟨0, rfl⟩
  | folders made hheld hwrites hpassable => exact ⟨made, rfl⟩
  | record written hheld hwrites hpassable hmissing => cases hfile
  | indexFolders made hwritten hreadable hpassable => cases hfile
  | temporary ending hwritten hreadable hpassable hunused => cases hfile
  | replaced hwritten hrebuilt => cases hfile

theorem passable_of_inOrder (h : InOrder root disk) : disk.Passable (above root) :=
  fun place hplace => h.folders place (above_root_subset place hplace)

theorem returns_of_not_listed (horder : InOrder root disk) {crashed : Disk}
    (hpassable : disk.Passable (above root)) (hlock : disk.node? (lockPlace root) = none)
    (hmade : FileMade root record disk crashed)
    (hharmless : ∀ place ∈ parents root record, Harmless root place)
    (hlisted : ¬ Listed root (destination root record)) :
    ∃ result, (append root record disk).1 = .ok result := by
  rw [append_eq horder hlock, appendLocked_of_writes hmade.writes]
  refine writeRecord_ok_iff.mpr ⟨hmade.passable, hmade.missing, ?_⟩
  refine (inOrder_put_iff hmade.missing (destination_not_above hpassable hmade.missing)).mpr
    ⟨(inOrder_locked horder).makeAll hharmless, fun h => absurd h hlisted⟩

/-- After a crash at any point of an append, and with the lock removed, the
catalog recovers exactly when it was in order before and the point is a safe
one. -/
theorem recovered_iff (root : Place) (record : EvolutionRecord) (disk : Disk)
    (hlock : disk.node? (lockPlace root) = none) (point : CrashPoint) (crashed : Disk)
    (hcrash : Crashes root record disk point crashed) :
    Recovered root record disk (crashed.remove (lockPlace root)) ↔
      InOrder root disk ∧ Safe root record point := by
  have hheld := held_crashed hcrash
  have hfound := foundIn_crashed hcrash
  have horderly : InOrder root (crashed.remove (lockPlace root)) ↔
      InOrder root disk ∧ Orderly root record point :=
    inOrder_unlock_iff.trans (inOrder_crashed_iff hcrash)
  have hfree : (crashed.remove (lockPlace root)).node? (lockPlace root) = none := by
    rw [FileTree.node?_remove, if_pos rfl]
  constructor
  · intro h
    obtain ⟨next, hnext⟩ := h.indexed
    have hafter := (rebuildIndex_ok_iff.mp hnext).1
    obtain ⟨horder, hpoint⟩ := horderly.mp hafter
    refine ⟨horder, hpoint, fun hfile => ?_⟩
    have hmade := fileMade_crashed hcrash hfile
    by_contra hlisted
    refine not_again_of_not_listed hafter hheld hmade hfound hlisted (h.again hmade.writes ?_)
    exact returns_of_not_listed horder (passable_of_inOrder horder) hlock hmade
      (hpoint.harmless hfile) hlisted
  · rintro ⟨horder, hpoint, hfile⟩
    have hafter := horderly.mpr ⟨horder, hpoint⟩
    refine ⟨?_, ?_, ?_, ?_, ?_⟩
    · exact hfound.congr fun place other => holds_congr fun hlisted =>
        node?_unlock crashed (Or.inl hlisted)
    · intro filters
      obtain ⟨found, hload⟩ := exists_loadAll_iff.mpr hafter.readable
      rw [search, hload]
      exact ⟨_, rfl⟩
    · obtain ⟨found, -, hindex⟩ := hafter.exists_rebuildIndex
      exact ⟨_, hindex⟩
    · intro later hvalid error herror
      exact ownFault_of_append hafter hfree hvalid herror
    · intro hwrites hreturns
      cases hhas : point.hasFile with
      | true =>
          exact again_of_found hafter hheld (fileMade_crashed hcrash hhas) hfound (hfile hhas)
      | false =>
          obtain ⟨made, hmade⟩ := folders_of_no_file hcrash hhas
          rw [append_eq horder hlock, appendLocked_of_writes hwrites] at hreturns
          exact again_of_folders (passable_of_inOrder horder) hafter hheld hmade hwrites hreturns

theorem writes_noteRecord :
    Writes ["catalog"] (noteRecord "a") (locked ["catalog"] FileTree.empty) := by
  obtain ⟨found, hfound⟩ := exists_loadAll_iff.mpr
    (inOrder_locked (fresh_empty ["catalog"]).invariant.inOrder).readable
  refine ⟨rfl, ⟨found, hfound, ?_⟩, by decide⟩
  refine List.findSome?_eq_none_iff.mpr ?_
  rintro ⟨place, other⟩ hentry
  obtain ⟨-, node, hnode, -⟩ := holds_locked_iff.mp ((mem_loadAll_iff hfound).mp hentry)
  cases hnode

theorem crashes_noteRecord (written : Nat) :
    Crashes ["catalog"] (noteRecord "a") FileTree.empty (.record written)
      (withRecord ["catalog"] (noteRecord "a") (brokenOff (noteRecord "a") written)
        (locked ["catalog"] FileTree.empty)) := by
  have hmade : (FileTree.makeAll (parents ["catalog"] (noteRecord "a"))
      (locked ["catalog"] FileTree.empty)).1 = true := by decide
  have hmissing : ((FileTree.makeAll (parents ["catalog"] (noteRecord "a"))
      (locked ["catalog"] FileTree.empty)).2.node?
        (destination ["catalog"] (noteRecord "a"))).isNone = true := by decide
  exact .record written (fresh_empty _).folders writes_noteRecord
    ((FileTree.makeAll_fst_iff _ _).mp hmade) (Option.isNone_iff_eq_none.mp hmissing)

/-- A crash right after the text is out. -/
theorem recovered_whole :
    Recovered ["catalog"] (noteRecord "a") FileTree.empty
      ((withRecord ["catalog"] (noteRecord "a")
        (brokenOff (noteRecord "a") (recordText (noteRecord "a")).length)
        (locked ["catalog"] FileTree.empty)).remove (lockPlace ["catalog"])) := by
  refine (recovered_iff ["catalog"] (noteRecord "a") FileTree.empty rfl _ _
    (crashes_noteRecord _)).mpr ⟨(fresh_empty _).invariant.inOrder, ⟨?_, ?_⟩, ?_⟩
  · exact storable_noteRecord.harmless
  · intro _
    exact ⟨le_rfl, _, EvolutionRecord.fromDict_toDict (lasting_noteRecord "a") rfl⟩
  · intro _
    exact storable_noteRecord.listed

theorem recordText_pos (record : EvolutionRecord) : 0 < (recordText record).length := by
  rw [recordText, Json.writtenText, String.length_append, String.length_append]
  have hbrace : ("\x7b" : String).length = 1 := rfl
  omega

/-- A crash right after the file is made leaves one that no later loading gets
past. -/
theorem empty_record_file :
    ¬ Recovered ["catalog"] (noteRecord "a") FileTree.empty
      ((withRecord ["catalog"] (noteRecord "a") (brokenOff (noteRecord "a") 0)
        (locked ["catalog"] FileTree.empty)).remove (lockPlace ["catalog"])) := by
  intro h
  obtain ⟨next, hnext⟩ := h.indexed
  have horder := inOrder_unlock_iff.mp (rebuildIndex_ok_iff.mp hnext).1
  obtain ⟨-, -, hfile⟩ := (inOrder_record_iff (crashes_noteRecord 0)).mp horder
  have hshort := (hfile storable_noteRecord.listed).1
  have hpos := recordText_pos (noteRecord "a")
  omega

end JlensEvolve.Catalog
