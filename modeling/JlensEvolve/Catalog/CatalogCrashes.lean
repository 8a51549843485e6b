import JlensEvolve.Catalog.CatalogClosure

/-!
Crashes inside `append`. The index is replaced in one step, but the file of a
record is made first and filled afterwards, and loading reads every file that it
finds.
-/

namespace JlensEvolve.Catalog

open Library

variable {root : Place} {disk : Disk} {record : EvolutionRecord}

theorem splitOn_append_of_not_mem (chars : List Char) {ending : List Char} (h : '/' ∉ ending) :
    ∃ front last, (chars ++ ending).splitOn '/' = front ++ [last ++ ending] := by
  by_cases hmem : '/' ∈ chars.reverse
  · obtain ⟨after, before, hchars, hafter⟩ := List.eq_append_cons_of_mem hmem
    have hsplit : chars = before.reverse ++ '/' :: after.reverse := by
      rw [← chars.reverse_reverse, hchars]
      simp
    have hlast : '/' ∉ after.reverse ++ ending := by
      simpa [hafter] using h
    refine ⟨List.splitOn '/' before.reverse, after.reverse, ?_⟩
    rw [hsplit, List.append_assoc, List.cons_append, List.splitOn_append_cons_self,
      List.splitOn_eq_singleton hlast]
  · have hnone : '/' ∉ chars ++ ending := by
      simpa [h] using hmem
    exact ⟨[], chars, List.splitOn_eq_singleton hnone⟩

theorem exists_fileNames (record : EvolutionRecord) :
    ∃ front last, fileNames record = front ++ [last] ∧ isJsonName last = true := by
  have hending : '/' ∉ ".json".toList := by decide
  obtain ⟨front, last, hsplit⟩ := splitOn_append_of_not_mem record.recordId.toList hending
  have hname : ∀ name : String, name.length < 5 → String.ofList (last ++ ".json".toList) ≠ name := by
    intro name hshort hsame
    have hlength := congrArg String.length hsame
    rw [String.length_ofList, List.length_append] at hlength
    have hfive : ".json".toList.length = 5 := by decide
    omega
  have hkept : (String.ofList (last ++ ".json".toList) ≠ "" ∧
      String.ofList (last ++ ".json".toList) ≠ ".") :=
    ⟨hname "" (by decide), hname "." (by decide)⟩
  refine ⟨(front.map String.ofList).filter fun name => name ≠ "" ∧ name ≠ ".",
    String.ofList (last ++ ".json".toList), ?_, ?_⟩
  · rw [fileNames, segments, String.toList_append, hsplit, List.map_append, List.filter_append,
      List.map_singleton, List.filter_cons_of_pos (by simpa using hkept), List.filter_nil]
  · have hchars : (String.ofList (last ++ ".json".toList)).toList = last ++ ".json".toList :=
      String.toList_ofList
    rw [isJsonName, List.isSuffixOf_iff_suffix, hchars]
    exact List.suffix_append last ".json".toList

theorem exists_destination (root : Place) (record : EvolutionRecord) :
    ∃ name folder, isJsonName name = true ∧ destination root record = name :: folder := by
  obtain ⟨front, last, hnames, hjson⟩ := exists_fileNames record
  have hdots : last ≠ ".." := by
    rintro rfl
    exact absurd hjson (by decide)
  refine ⟨last, FileTree.walk (startPlace root record) front, hjson, ?_⟩
  rw [destination, hnames, FileTree.walk, List.foldl_append]
  exact if_neg hdots

theorem destination_ne_indexFolder : destination root record ≠ indexFolder root := by
  obtain ⟨name, folder, hjson, hdestination⟩ := exists_destination root record
  rw [hdestination]
  intro hsame
  rw [(List.cons.inj hsame).1] at hjson
  exact absurd hjson (by decide)

/-- How far an append came. -/
inductive CrashPoint where
  /-- The lock is there, and nothing is written. -/
  | reading
  /-- So many of the folders above the record are there. -/
  | folders (made : Nat)
  /-- The record's file is there, with so many characters of its text. -/
  | record (written : Nat)
  /-- So many of the folders above the index are there. -/
  | indexFolders (made : Nat)
  /-- The new index is being written under a name of its own. -/
  | temporary (name : String)
  /-- The new index is in place. -/
  | replaced

/-- The text of the record's file, without the newline. -/
def recordText (record : EvolutionRecord) : String :=
  (Json.obj (Json.sortFields record.toDict)).writtenText

/-- The file after so many characters. -/
def brokenOff (record : EvolutionRecord) (written : Nat) : Content :=
  if written < (recordText record).length then .cut else .whole (.obj record.toDict)

def withFolders (root : Place) (record : EvolutionRecord) (made : Nat) (disk : Disk) : Disk :=
  (FileTree.makeAll ((parents root record).take made) disk).2

/-- The record's file with this content. -/
def withRecord (root : Place) (record : EvolutionRecord) (content : Content) (disk : Disk) : Disk :=
  (FileTree.makeAll (parents root record) disk).2.put (destination root record) (.file content)

/-- A crash is where an append can be, and leaves the disk as it is then. -/
inductive Crashes (root : Place) (record : EvolutionRecord) (disk : Disk) :
    CrashPoint → Disk → Prop where
  | reading (held : disk.Passable (above root)) :
      Crashes root record disk .reading (locked root disk)
  | folders (made : Nat) (held : disk.Passable (above root))
      (writes : Writes root record (locked root disk))
      (passable : (locked root disk).Passable ((parents root record).take made)) :
      Crashes root record disk (.folders made) (withFolders root record made (locked root disk))
  | record (written : Nat) (held : disk.Passable (above root))
      (writes : Writes root record (locked root disk))
      (passable : (locked root disk).Passable (parents root record))
      (missing : (FileTree.makeAll (parents root record) (locked root disk)).2.node?
        (destination root record) = none) :
      Crashes root record disk (.record written)
        (withRecord root record (brokenOff record written) (locked root disk))
  | indexFolders (made : Nat) {whole : Disk}
      (written : Crashes root record disk (.record (recordText record).length) whole)
      (readable : Readable root whole)
      (passable : whole.Passable ((above (indexFolder root)).take made)) :
      Crashes root record disk (.indexFolders made)
        (FileTree.makeAll ((above (indexFolder root)).take made) whole).2
  | temporary (ending : String) {whole : Disk}
      (written : Crashes root record disk (.record (recordText record).length) whole)
      (readable : Readable root whole) (passable : whole.Passable (above (indexFolder root)))
      (unused : whole.node? ((".CATALOG.json." ++ ending) :: indexFolder root) = none) :
      Crashes root record disk (.temporary ending)
        ((FileTree.makeAll (above (indexFolder root)) whole).2.put
          ((".CATALOG.json." ++ ending) :: indexFolder root) (.file .cut))
  | replaced {whole after : Disk}
      (written : Crashes root record disk (.record (recordText record).length) whole)
      (rebuilt : rebuildIndex root whole = (.ok (), after)) :
      Crashes root record disk .replaced after

theorem crashes_of_writeRecord {result : AppendResult} {after : Disk}
    (hheld : disk.Passable (above root)) (hwrites : Writes root record (locked root disk))
    (h : writeRecord root record (locked root disk) = (.ok result, after)) :
    Crashes root record disk .replaced after := by
  have hwhole : brokenOff record (recordText record).length = .whole (.obj record.toDict) :=
    if_neg (Nat.lt_irrefl _)
  rw [writeRecord] at h
  split at h
  · cases h
  · rename_i made hmade
    have hpassable := (FileTree.makeAll_fst_iff _ _).mp (congrArg Prod.fst hmade)
    have hafter : (FileTree.makeAll (parents root record) (locked root disk)).2 = made :=
      congrArg Prod.snd hmade
    split at h
    · cases h
    · rename_i hmissing
      rw [← hafter] at h hmissing
      split at h
      · cases h
      · rename_i next hrebuild
        cases h
        refine .replaced (.record _ hheld hwrites hpassable hmissing) ?_
        rw [withRecord, hwhole]
        exact hrebuild

/-- A directory here is in nobody's way. -/
def Harmless (root place : Place) : Prop := ¬ Listed root place ∧ place ≠ indexPlace root

theorem inOrder_congr {after : Disk}
    (h : ∀ place, Relevant root place → after.node? place = disk.node? place) :
    InOrder root after ↔ InOrder root disk :=
  ⟨fun hafter => hafter.of_agree fun place hplace => (h place hplace).symm,
    fun hdisk => hdisk.of_agree h⟩

theorem inOrder_makeAll_iff {places : List Place} (hpassable : disk.Passable places) :
    InOrder root (FileTree.makeAll places disk).2 ↔
      InOrder root disk ∧ ∀ place ∈ places, Harmless root place := by
  constructor
  · intro h
    have hmade := (FileTree.makeAll_fst_iff places disk).mpr hpassable
    refine ⟨⟨?_, ?_, ?_⟩, ?_⟩
    · intro place hplace content hfile
      exact h.folders place hplace content (FileTree.node?_makeAll_of_some hfile)
    · intro hdirectory
      exact h.index (FileTree.node?_makeAll_of_some hdirectory)
    · intro place node hlisted hnode
      exact h.readable place node hlisted (FileTree.node?_makeAll_of_some hnode)
    · intro place hplace
      have hdirectory := FileTree.node?_makeAll_of_mem hplace hmade
      constructor
      · intro hlisted
        obtain ⟨record, hread⟩ := h.readable place _ hlisted hdirectory
        cases hread
      · rintro rfl
        exact h.index hdirectory
  · rintro ⟨h, hharmless⟩
    exact h.makeAll hharmless

theorem inOrder_put_iff {place : Place} {content : Content} (hmissing : disk.node? place = none)
    (hfolder : place ∉ above (indexFolder root)) :
    InOrder root (disk.put place (.file content)) ↔
      InOrder root disk ∧ (Listed root place → ∃ record, readNode (.file content) = .ok record) := by
  constructor
  · intro h
    have hkept : ∀ other node, disk.node? other = some node →
        (disk.put place (.file content)).node? other = some node := by
      intro other node hnode
      rw [FileTree.node?_put_of_ne, hnode]
      rintro rfl
      rw [hmissing] at hnode
      cases hnode
    refine ⟨⟨?_, ?_, ?_⟩, ?_⟩
    · intro other hother found hfile
      exact h.folders other hother found (hkept _ _ hfile)
    · intro hdirectory
      exact h.index (hkept _ _ hdirectory)
    · intro other node hlisted hnode
      exact h.readable other node hlisted (hkept _ _ hnode)
    · intro hlisted
      exact h.readable place _ hlisted (FileTree.node?_put_self _ _ _)
  · rintro ⟨h, hread⟩
    by_cases hlisted : Listed root place
    · exact h.put_record hlisted (hread hlisted)
    · refine ⟨?_, ?_, ?_⟩
      · intro other hother
        rw [FileTree.node?_put_of_ne]
        · exact h.folders other hother
        · rintro rfl
          exact hfolder hother
      · rw [FileTree.node?_put]
        split
        · exact nofun
        · exact h.index
      · intro other node hother hnode
        rw [FileTree.node?_put_of_ne] at hnode
        · exact h.readable other node hother hnode
        · rintro rfl
          exact hlisted hother

theorem inOrder_locked_iff (hheld : disk.Passable (above root)) :
    InOrder root (locked root disk) ↔ InOrder root disk := by
  have hlock : InOrder root (locked root disk) ↔
      InOrder root (FileTree.makeAll (above root) disk).2 := by
    refine inOrder_congr fun place hplace => FileTree.node?_put_of_ne _ _ ?_
    rintro rfl
    exact lock_not_relevant hplace
  rw [hlock, inOrder_makeAll_iff hheld]
  exact and_iff_left fun place hplace => harmless_of_above (above_root_subset place hplace)

theorem inOrder_unlock_iff :
    InOrder root (disk.remove (lockPlace root)) ↔ InOrder root disk := by
  refine inOrder_congr fun place hplace => FileTree.node?_remove_of_ne _ ?_
  rintro rfl
  exact lock_not_relevant hplace

theorem node?_locked_above (hheld : disk.Passable (above root)) {place : Place}
    (hplace : place ∈ above root) : (locked root disk).node? place = some .directory := by
  have hne : place ≠ lockPlace root := by
    rintro rfl
    exact lock_not_above (mem_above_iff.mp (above_root_subset _ hplace)).1
  rw [locked, FileTree.node?_put_of_ne _ _ hne]
  exact FileTree.node?_makeAll_of_mem hplace ((FileTree.makeAll_fst_iff _ disk).mpr hheld)

theorem destination_not_above (hheld : disk.Passable (above root)) {places : List Place}
    (hmissing : (FileTree.makeAll places (locked root disk)).2.node?
      (destination root record) = none) :
    destination root record ∉ above (indexFolder root) := by
  intro habove
  obtain ⟨hsuffix, hne⟩ := mem_above_iff.mp habove
  rcases List.suffix_cons_iff.mp hsuffix with hsame | hroot
  · exact destination_ne_indexFolder hsame
  · have hdirectory := node?_locked_above hheld (mem_above_iff.mpr ⟨hroot, hne⟩)
    rw [FileTree.node?_makeAll_of_some hdirectory] at hmissing
    cases hmissing

/-- No directory is made in anyone's way, and a file that loading finds is whole
and reads as a record. -/
def Orderly (root : Place) (record : EvolutionRecord) : CrashPoint → Prop
  | .reading => True
  | .folders made => ∀ place ∈ (parents root record).take made, Harmless root place
  | .record written =>
    (∀ place ∈ parents root record, Harmless root place) ∧
      (Listed root (destination root record) → (recordText record).length ≤ written ∧
        ∃ other, EvolutionRecord.fromDict (.obj record.toDict) = .ok other)
  | _ =>
    (∀ place ∈ parents root record, Harmless root place) ∧
      (Listed root (destination root record) →
        ∃ other, EvolutionRecord.fromDict (.obj record.toDict) = .ok other)

theorem readNode_brokenOff_iff (written : Nat) (other : EvolutionRecord) :
    readNode (.file (brokenOff record written)) = .ok other ↔
      (recordText record).length ≤ written ∧
        EvolutionRecord.fromDict (.obj record.toDict) = .ok other := by
  rw [brokenOff]
  split
  · rename_i hshort
    constructor
    · exact nofun
    · rintro ⟨hle, -⟩
      omega
  · rename_i hwhole
    exact ⟨fun h => ⟨Nat.le_of_not_lt hwhole, h⟩, And.right⟩

theorem inOrder_record_iff {written : Nat} {after : Disk}
    (h : Crashes root record disk (.record written) after) :
    InOrder root after ↔ InOrder root disk ∧ Orderly root record (.record written) := by
  cases h with
  | record _ hheld hwrites hpassable hmissing =>
    rw [withRecord, inOrder_put_iff hmissing (destination_not_above hheld hmissing),
      inOrder_makeAll_iff hpassable, inOrder_locked_iff hheld, and_assoc]
    simp only [readNode_brokenOff_iff, exists_and_left]
    rfl

theorem inOrder_whole_iff {whole : Disk}
    (h : Crashes root record disk (.record (recordText record).length) whole) :
    InOrder root whole ↔ InOrder root disk ∧ Orderly root record .replaced := by
  rw [inOrder_record_iff h]
  simp only [Orderly, le_refl, true_and]

theorem temporary_not_relevant (ending : String) :
    ¬ Relevant root ((".CATALOG.json." ++ ending) :: indexFolder root) := by
  rintro (⟨recordType, htype, name, -, hplace⟩ | hsuffix | hindex)
  · obtain ⟨-, htail⟩ := List.cons.inj hplace
    obtain ⟨rfl, -⟩ := List.cons.inj htail
    exact absurd htype (by decide)
  · have hle := hsuffix.length_le
    rw [List.length_cons] at hle
    omega
  · have hname := congrArg String.toList (List.cons.inj hindex).1
    rw [String.toList_append] at hname
    exact absurd (List.cons.inj hname).1 (by decide)

/-- After the crash the catalog is in order exactly when it was before and what is
written so far keeps it so. -/
theorem inOrder_crashed_iff {point : CrashPoint} {after : Disk}
    (h : Crashes root record disk point after) :
    InOrder root after ↔ InOrder root disk ∧ Orderly root record point := by
  cases h with
  | reading hheld =>
    rw [inOrder_locked_iff hheld]
    exact (and_iff_left trivial).symm
  | folders made hheld hwrites hpassable =>
    rw [withFolders, inOrder_makeAll_iff hpassable, inOrder_locked_iff hheld]
    rfl
  | record written hheld hwrites hpassable hmissing =>
    exact inOrder_record_iff (.record written hheld hwrites hpassable hmissing)
  | indexFolders made hwritten hreadable hpassable =>
    rw [inOrder_makeAll_iff hpassable, inOrder_whole_iff hwritten]
    exact and_iff_left fun place hplace => harmless_of_above (List.mem_of_mem_take hplace)
  | temporary ending hwritten hreadable hpassable hunused =>
    rename_i whole
    have hrest : InOrder root ((FileTree.makeAll (above (indexFolder root)) whole).2.put
        ((".CATALOG.json." ++ ending) :: indexFolder root) (.file .cut)) ↔
        InOrder root (FileTree.makeAll (above (indexFolder root)) whole).2 := by
      refine inOrder_congr fun place hplace => FileTree.node?_put_of_ne _ _ ?_
      rintro rfl
      exact temporary_not_relevant ending hplace
    rw [hrest, inOrder_makeAll_iff hpassable, inOrder_whole_iff hwritten]
    exact and_iff_left fun place => harmless_of_above
  | replaced hwritten hrebuilt =>
    obtain ⟨horder, found, -, rfl⟩ := rebuildIndex_ok_iff.mp hrebuilt
    exact iff_of_true (horder.indexed found) ((inOrder_whole_iff hwritten).mp horder)

theorem holds_makeAll_iff {places : List Place} {place : Place} {other : EvolutionRecord} :
    Holds root (FileTree.makeAll places disk).2 place other ↔ Holds root disk place other := by
  rw [Holds, Holds]
  refine and_congr_right fun _ => ?_
  rcases FileTree.node?_makeAll places place disk with hkept | ⟨-, hnone, hmade⟩
  · rw [hkept]
  · rw [hnone, hmade]
    constructor
    · rintro ⟨node, hnode, hread⟩
      cases hnode
      cases hread
    · rintro ⟨node, hnode, -⟩
      cases hnode

theorem holds_locked_iff {place : Place} {other : EvolutionRecord} :
    Holds root (locked root disk) place other ↔ Holds root disk place other :=
  holds_congr fun hlisted => same_locked place (Or.inl hlisted)

/-- The record's file, as far as it can be read, is all that is found besides. -/
def FoundIn (root : Place) (record : EvolutionRecord) (before after : Disk) : Prop :=
  (∀ place other, Holds root after place other ↔ Holds root before place other) ∨
    ∃ whole, whole.recordId = record.recordId ∧ whole.fingerprint = record.fingerprint ∧
      ∀ place other, Holds root after place other ↔
        Holds root before place other ∨ place = destination root record ∧ other = whole

theorem foundIn_record {written : Nat} {after : Disk}
    (h : Crashes root record disk (.record written) after) : FoundIn root record disk after := by
  cases h with
  | record _ hheld hwrites hpassable hmissing =>
    have hold : ∀ other, ¬ Holds root disk (destination root record) other := by
      intro other hholds
      obtain ⟨-, node, hnode, -⟩ := holds_makeAll_iff.mpr (holds_locked_iff.mpr hholds)
      rw [hmissing] at hnode
      cases hnode
    have helse : ∀ place other, place ≠ destination root record →
        (Holds root (withRecord root record (brokenOff record written) (locked root disk))
          place other ↔ Holds root disk place other) := by
      intro place other hne
      rw [withRecord, holds_congr fun _ => FileTree.node?_put_of_ne _ _ hne, holds_makeAll_iff,
        holds_locked_iff]
    have hhere : (withRecord root record (brokenOff record written) (locked root disk)).node?
        (destination root record) = some (.file (brokenOff record written)) :=
      FileTree.node?_put_self _ _ _
    by_cases hread : Listed root (destination root record) ∧
        ∃ other, readNode (.file (brokenOff record written)) = .ok other
    · obtain ⟨hlisted, whole, hwhole⟩ := hread
      obtain ⟨hid, hfingerprint⟩ := EvolutionRecord.same_of_fromDict
        ((readNode_brokenOff_iff written whole).mp hwhole).2
      refine Or.inr ⟨whole, hid, hfingerprint, fun place other => ?_⟩
      by_cases hplace : place = destination root record
      · subst hplace
        constructor
        · rintro ⟨-, node, hnode, hother⟩
          cases hhere.symm.trans hnode
          exact Or.inr ⟨rfl, Except.ok.inj (hother.symm.trans hwhole)⟩
        · rintro (hbefore | ⟨-, rfl⟩)
          · exact absurd hbefore (hold other)
          · exact ⟨hlisted, _, hhere, hwhole⟩
      · rw [helse place other hplace]
        exact (or_iff_left fun h => hplace h.1).symm
    · refine Or.inl fun place other => ?_
      by_cases hplace : place = destination root record
      · subst hplace
        refine iff_of_false ?_ (hold other)
        rintro ⟨hlisted, node, hnode, hother⟩
        cases hhere.symm.trans hnode
        exact hread ⟨hlisted, other, hother⟩
      · exact helse place other hplace

theorem FoundIn.congr {before whole after : Disk} (h : FoundIn root record before whole)
    (hsame : ∀ place other, Holds root after place other ↔ Holds root whole place other) :
    FoundIn root record before after := by
  rcases h with hnone | ⟨found, hid, hfingerprint, hsome⟩
  · exact Or.inl fun place other => (hsame place other).trans (hnone place other)
  · exact Or.inr ⟨found, hid, hfingerprint, fun place other =>
      (hsame place other).trans (hsome place other)⟩

theorem foundIn_crashed {point : CrashPoint} {after : Disk}
    (h : Crashes root record disk point after) : FoundIn root record disk after := by
  cases h with
  | reading hheld => exact Or.inl fun _ _ => holds_locked_iff
  | folders made hheld hwrites hpassable =>
    exact Or.inl fun _ _ => holds_makeAll_iff.trans holds_locked_iff
  | record written hheld hwrites hpassable hmissing =>
    exact foundIn_record (.record written hheld hwrites hpassable hmissing)
  | indexFolders made hwritten hreadable hpassable =>
    exact (foundIn_record hwritten).congr fun _ _ => holds_makeAll_iff
  | temporary ending hwritten hreadable hpassable hunused =>
    rename_i whole
    refine (foundIn_record hwritten).congr fun place other => ?_
    have hmade : Holds root (FileTree.makeAll (above (indexFolder root)) whole).2 place other ↔
        Holds root whole place other := holds_makeAll_iff
    rw [← hmade]
    refine holds_congr fun hlisted => FileTree.node?_put_of_ne _ _ ?_
    rintro rfl
    exact temporary_not_relevant ending (Or.inl hlisted)
  | replaced hwritten hrebuilt =>
    obtain ⟨-, found, -, rfl⟩ := rebuildIndex_ok_iff.mp hrebuilt
    exact (foundIn_record hwritten).congr fun _ _ =>
      holds_congr fun hlisted => node?_indexed_of_listed found hlisted

end JlensEvolve.Catalog
