import JlensEvolve.Library.MergedLines
import JlensEvolve.SkillLoop.SpanReplacement
import JlensEvolve.SkillLoop.StudentAdapter

/-!
Whether the patch of an edit encodes the edit. `difflib` works on lines that end
at any line boundary and writes them with the ends they have, a patch has lines
that end at newlines: the two agree where every line that the hunks reach over
ends with a newline.
-/

namespace JlensEvolve.SkillLoop.SearchReplace

open Library Contracts

/-- A well-formed diff of the file that turns one text into the other. -/
def Encodes (file before after patch : String) : Prop :=
  ∃ diff, UnifiedDiff.read patch.toList = some diff ∧ diff.oldName = ("a/" ++ file).toList ∧
    diff.newName = ("b/" ++ file).toList ∧ diff.apply before.toList = some after.toList

/-- The lines of both texts up to the end of the last hunk. -/
def reachedLines (before after : String) : List (List Char) :=
  let reach := Difflib.reach (keepLines before) (keepLines after)
  (keepLines before).take reach.1 ++ (keepLines after).take reach.2

def shownLines (before after : String) : List (List Char) :=
  (Difflib.groupedOpcodes 3 (keepLines before) (keepLines after)).flatMap fun group =>
    (Difflib.groupLines (keepLines before) (keepLines after) group).map Prod.snd

def EndInNewlines (lines : List (List Char)) : Prop := ∀ line ∈ lines, line.getLast? = some '\n'

theorem flatten_keepLines (source : String) : (keepLines source).flatten = source.toList :=
  TextLines.flatten_splitKeep _ _

theorem keepLines_inj {first second : String} (h : keepLines first = keepLines second) :
    first = second := by
  rw [← String.toList_inj, ← flatten_keepLines, h, flatten_keepLines]

theorem find_of_count {source search : String} (h : count source search = 1) :
    ∃ found, SpanRewrite.find source.toList search.toList 0 = some found := by
  rw [count, countFrom] at h
  split at h
  · cases h
  · rename_i found hfound
    exact ⟨found, hfound⟩

theorem replaceOnce_ne {source search replacement : String} (hcount : count source search = 1)
    (hne : search ≠ replacement) : replaceOnce source search replacement ≠ source := by
  obtain ⟨found, hfound⟩ := find_of_count hcount
  have hprefix := List.prefix_iff_eq_append.mp (SpanRewrite.find_some hfound)
  have hsource : source.toList = source.toList.take found ++ search.toList ++
      source.toList.drop (found + search.length) := by
    rw [String.length_toList, List.drop_drop] at hprefix
    rw [List.append_assoc, hprefix, List.take_append_drop]
  intro hsame
  have htexts := congrArg String.toList hsame
  rw [replaceOnce, hfound] at htexts
  dsimp only at htexts
  rw [String.toList_ofList] at htexts
  have hmiddle := List.append_cancel_right (htexts.trans hsource)
  exact hne (String.toList_inj.mp (List.append_cancel_left hmiddle)).symm

theorem whole_of_keepLines {source : String} {line : List Char} (hline : line ∈ keepLines source)
    (hlast : line.getLast? = some '\n') : UnifiedDiff.Whole line := by
  have hne : line ≠ [] := by
    rintro rfl
    cases hlast
  rw [List.getLast?_eq_some_getLast hne] at hlast
  refine ⟨line.dropLast, TextLines.newline_notMem_dropLast rfl hline, ?_⟩
  rw [← Option.some.inj hlast]
  exact (List.dropLast_append_getLast hne).symm

section Patches

variable {file before after : String}

theorem newline_notMem_name (side : String) (hside : '\n' ∉ side.toList)
    (hfile : '\n' ∉ file.toList) : '\n' ∉ (side ++ file).toList := by
  rw [String.toList_append, List.mem_append, not_or]
  exact ⟨hside, hfile⟩

theorem encodes_of_endInNewlines (hne : after ≠ before) (hfile : '\n' ∉ file.toList)
    (hlines : EndInNewlines (reachedLines before after)) :
    Encodes file before after (patchBetween file before after) := by
  have hkeep : keepLines before ≠ keepLines after := fun hsame => hne (keepLines_inj hsame).symm
  obtain ⟨hread, happly⟩ := Difflib.read_unifiedDiff hkeep
    (newline_notMem_name "a/" (by decide) hfile) (newline_notMem_name "b/" (by decide) hfile)
    (fun line hline => whole_of_keepLines (List.mem_of_mem_take hline)
      (hlines line (List.mem_append_left _ hline)))
    (fun line hline => whole_of_keepLines (List.mem_of_mem_take hline)
      (hlines line (List.mem_append_right _ hline)))
  rw [flatten_keepLines, flatten_keepLines] at happly
  refine ⟨_, ?_, rfl, rfl, happly⟩
  rw [patchBetween, String.toList_ofList]
  exact hread

theorem Encodes.ends {patch : String} (h : Encodes file before after patch) :
    '\n' ∉ file.toList ∧ patch.toList.getLast? = some '\n' := by
  obtain ⟨diff, hread, hold, -, -⟩ := h
  refine ⟨fun hmem => (UnifiedDiff.newline_notMem_names hread).1 ?_,
    UnifiedDiff.getLast?_of_read hread⟩
  rw [hold, String.toList_append]
  exact List.mem_append_right _ hmem

theorem Encodes.shown (hne : after ≠ before)
    (hone : (Difflib.groupedOpcodes 3 (keepLines before) (keepLines after)).length = 1)
    (h : Encodes file before after (patchBetween file before after)) :
    EndInNewlines (shownLines before after) := by
  have hfile := h.ends.1
  obtain ⟨diff, hread, -, -, -⟩ := h
  have hkeep : keepLines before ≠ keepLines after := fun hsame => hne (keepLines_inj hsame).symm
  obtain ⟨group, hgroup⟩ := List.length_eq_one_iff.mp hone
  have hcounted : UnifiedDiff.Counted
      (Difflib.hunkOf (keepLines before) (keepLines after) group) := by
    refine Difflib.counted_hunkOf _ _ group ?_
    rw [hgroup]
    exact List.mem_singleton_self group
  have hnonempty := (Difflib.groupedOpcodes_located 3 (keepLines before)
    (keepLines after)).ne_nil group (hgroup ▸ List.mem_singleton_self group)
  have hlines : (Difflib.hunkOf (keepLines before) (keepLines after) group).lines =
      Difflib.groupLines (keepLines before) (keepLines after) group := by
    cases group with
    | nil => exact absurd rfl hnonempty
    | cons first rest => rfl
  have hshown : ∀ line ∈ (Difflib.hunkOf (keepLines before) (keepLines after) group).lines,
      line.2 ≠ [] ∧ '\n' ∉ line.2.dropLast := by
    intro line hline
    rw [hlines] at hline
    obtain hmem | hmem := Difflib.mem_of_mem_groupLines hline
    · exact ⟨fun hnil => TextLines.nil_notMem_splitKeep _ (hnil ▸ hmem),
        TextLines.newline_notMem_dropLast rfl hmem⟩
    · exact ⟨fun hnil => TextLines.nil_notMem_splitKeep _ (hnil ▸ hmem),
        TextLines.newline_notMem_dropLast rfl hmem⟩
  rw [patchBetween, String.toList_ofList, (Difflib.unifiedDiff_eq hkeep _ _).2] at hread
  have hhunks : (Difflib.diffOf (keepLines before) (keepLines after) ("a/" ++ file).toList
      ("b/" ++ file).toList).hunks =
      [Difflib.hunkOf (keepLines before) (keepLines after) group] := by
    rw [Difflib.diffOf, hgroup, List.map_singleton]
  have hwhole := UnifiedDiff.whole_of_read_write hhunks hcounted hshown
    (newline_notMem_name "a/" (by decide) hfile) (newline_notMem_name "b/" (by decide) hfile) hread
  intro line hline
  rw [shownLines, hgroup, List.flatMap_singleton] at hline
  obtain ⟨shown, hmem, rfl⟩ := List.mem_map.mp hline
  exact hwhole shown (hlines ▸ hmem)

end Patches

/-- The patch of an edit encodes it where newlines end the lines that its hunks reach over. It
does not where a newline is in the name of the file or missing at the end of the patch, nor where
it has one hunk, with a line in it that no newline ends. -/
theorem patch_encoding (edit : StructuredEdit) (before : String) (hvalid : edit.validate = .ok ())
    (honce : count before edit.search = 1) :
    ('\n' ∉ edit.file.toList → EndInNewlines
        (reachedLines before (replaceOnce before edit.search edit.replace)) →
      Encodes edit.file before (replaceOnce before edit.search edit.replace)
        (patchBetween edit.file before (replaceOnce before edit.search edit.replace))) ∧
    (Encodes edit.file before (replaceOnce before edit.search edit.replace)
        (patchBetween edit.file before (replaceOnce before edit.search edit.replace)) →
      '\n' ∉ edit.file.toList ∧
      (patchBetween edit.file before
        (replaceOnce before edit.search edit.replace)).toList.getLast? = some '\n' ∧
      ((Difflib.groupedOpcodes 3 (keepLines before)
          (keepLines (replaceOnce before edit.search edit.replace))).length = 1 →
        EndInNewlines (shownLines before (replaceOnce before edit.search edit.replace)))) := by
  simp only [StructuredEdit.validate, except_bind_ok_iff, require_ok_iff] at hvalid
  obtain ⟨_, -, hchanges⟩ := hvalid
  have hne := replaceOnce_ne honce hchanges
  refine ⟨fun hfile hlines => encodes_of_endInNewlines hne hfile hlines, fun h => ?_⟩
  exact ⟨h.ends.1, h.ends.2, fun hone => h.shown hne hone⟩
theorem count_eq_one {source search : String} {found : Nat}
    (hfirst : SpanRewrite.find source.toList search.toList 0 = some found)
    (hlast : SpanRewrite.find source.toList search.toList (found + max 1 search.toList.length) =
      none) : count source search = 1 := by
  rw [count, countFrom]
  split
  · rename_i hnone
    rw [hfirst] at hnone
    cases hnone
  · rename_i other hother
    rw [hfirst] at hother
    cases hother
    rw [countFrom]
    split
    · rfl
    · rename_i hsome
      rw [hlast] at hsome
      cases hsome

theorem mem_reachedLines {before after : String} {line : List Char}
    (h : line ∈ reachedLines before after) : line ∈ keepLines before ∨ line ∈ keepLines after :=
  (List.mem_append.mp h).imp List.mem_of_mem_take List.mem_of_mem_take

def wordEdit : StructuredEdit := ⟨"notes.txt", "a", "b", "reword"⟩

theorem wordEdit_encoded :
    Encodes "notes.txt" "a\n" "b\n" (patchBetween "notes.txt" "a\n" "b\n") := by
  have hfirst : SpanRewrite.find "a\n".toList wordEdit.search.toList 0 = some 0 := by decide
  have honce : count "a\n" wordEdit.search = 1 := count_eq_one hfirst (by decide)
  have hafter : replaceOnce "a\n" wordEdit.search wordEdit.replace = "b\n" := by decide
  have hlines : EndInNewlines (reachedLines "a\n" "b\n") := by
    intro line hline
    obtain hold | hnew := mem_reachedLines hline
    · obtain rfl : line = ['a', '\n'] := List.mem_singleton.mp hold
      rfl
    · obtain rfl : line = ['b', '\n'] := List.mem_singleton.mp hnew
      rfl
  have hencoded := (patch_encoding wordEdit "a\n" (by decide) honce).1 (by decide)
  rw [hafter] at hencoded
  exact hencoded hlines

theorem groupedOpcodes_word :
    Difflib.groupedOpcodes 3 (keepLines "a") (keepLines "b") = [[⟨.replace, 0, 1, 0, 1⟩]] := by
  have hblocks : SequenceMatcher.blocksIn
      (SequenceMatcher.whole (keepLines "a") (keepLines "b")) = [] := by
    rw [SequenceMatcher.blocksIn, if_pos (by decide)]
  have hcodes : Difflib.opcodes (keepLines "a") (keepLines "b") = [⟨.replace, 0, 1, 0, 1⟩] := by
    rw [Difflib.opcodes, SequenceMatcher.matchingBlocks, hblocks]
    decide
  rw [Difflib.groupedOpcodes, hcodes]
  decide

/-- Without a newline at the end the two lines of the patch run into each other. -/
theorem wordEdit_not_encoded :
    ∃ (edit : StructuredEdit) (before : String), edit.validate = .ok () ∧
      count before edit.search = 1 ∧ replaceOnce before edit.search edit.replace ≠ before ∧
      ¬ Encodes edit.file before (replaceOnce before edit.search edit.replace)
        (patchBetween edit.file before (replaceOnce before edit.search edit.replace)) := by
  have hfirst : SpanRewrite.find "a".toList wordEdit.search.toList 0 = some 0 := by decide
  have honce : count "a" wordEdit.search = 1 := count_eq_one hfirst (by decide)
  have hafter : replaceOnce "a" wordEdit.search wordEdit.replace = "b" := by decide
  refine ⟨wordEdit, "a", by decide, honce, ?_, ?_⟩
  · rw [hafter]
    decide
  · rw [hafter]
    intro h
    have hlast := h.ends.2
    have hpatch : patchBetween wordEdit.file "a" "b" =
        "--- a/notes.txt\n+++ b/notes.txt\n@@ -1 +1 @@\n-a+b" := by
      rw [patchBetween, Difflib.unifiedDiff, groupedOpcodes_word]
      decide
    rw [hpatch] at hlast
    exact absurd hlast (by decide)

end JlensEvolve.SkillLoop.SearchReplace
