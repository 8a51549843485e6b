import Mathlib.Data.List.DropRight
import JlensEvolve.Contracts
import JlensEvolve.Library.MergedLines

/-!
`_extract_hunk` of `legacy_swe_4b.py`: the diff in the answer of a model starts
at the first line with `--- a/` and goes on, behind the last hunk header, as
long as the lines can be lines of a hunk.
-/

namespace JlensEvolve.SkillLoop.HunkExtraction

open Library Contracts

/-- `text.splitlines()`. -/
def splitLines (text : List Char) : List (List Char) :=
  (TextLines.splitKeep isLineBoundary text).map fun line =>
    line.takeWhile fun c => !isLineBoundary c

def startsWith (start : String) (line : List Char) : Bool := start.toList.isPrefixOf line

def noNewline : List Char := "\\ No newline at end of file".toList

/-- What `_extract_hunk` takes for a line of a hunk. -/
def isHunkLine (line : List Char) : Bool :=
  [" ", "+", "-", "@@", "---", "+++"].any (fun start => startsWith start line) || line == noNewline

/-- `text.rstrip()`. -/
def rstrip (text : List Char) : List Char := text.rdropWhile isSpace

def isNoHeader (line : List Char) : Bool := !startsWith "@@" line

/-- The lines of the diff in a text: from the first file header on. -/
def diffLines (text : List Char) : List (List Char) :=
  (splitLines text).dropWhile fun line => !startsWith "--- a/" line

/-- `diff_lines[:body_end]`: the lines up to the last header of a hunk, and those behind it as long
as they can be lines of a hunk. -/
def keptLines (lines : List (List Char)) : List (List Char) :=
  lines.rdropWhile isNoHeader ++ (lines.rtakeWhile isNoHeader).takeWhile isHunkLine

/-- `_extract_hunk`: the diff, or the reason for there being none. -/
def extractHunk (text : List Char) : Except String (List Char) :=
  let lines := diffLines text
  if lines = [] then .error "no-diff"
  else if lines.rdropWhile isNoHeader = [] then .error "malformed-hunk"
  else
    let candidate := rstrip (['\n'].intercalate (keptLines lines)) ++ ['\n']
    if "+++ b/".toList <:+: candidate then .ok candidate else .error "bad-header"

section Ends

variable {α : Type} {test : α → Bool} {first second : List α}

theorem rdropWhile_append_of_ne_nil (h : second.rdropWhile test ≠ []) :
    (first ++ second).rdropWhile test = first ++ second.rdropWhile test := by
  have hsome : (second.reverse.dropWhile test).isEmpty = false := by
    cases hdrop : second.reverse.dropWhile test with
    | nil => exact absurd (by rw [List.rdropWhile, hdrop]; rfl) h
    | cons c rest => rfl
  rw [List.rdropWhile, List.reverse_append, List.dropWhile_append, hsome,
    if_neg Bool.false_ne_true, List.reverse_append, List.reverse_reverse]
  rfl

theorem rdropWhile_append_of_all (h : ∀ item ∈ second, test item = true) :
    (first ++ second).rdropWhile test = first.rdropWhile test := by
  have hall : ∀ item ∈ second.reverse, test item = true := fun item hmem =>
    h item (List.mem_reverse.mp hmem)
  rw [List.rdropWhile, List.reverse_append, List.dropWhile_append_of_pos hall, List.rdropWhile]

theorem rtakeWhile_append_of_all (h : ∀ item ∈ second, test item = true) :
    (first ++ second).rtakeWhile test = first.rtakeWhile test ++ second := by
  have hall : ∀ item ∈ second.reverse, test item = true := fun item hmem =>
    h item (List.mem_reverse.mp hmem)
  rw [List.rtakeWhile, List.reverse_append, List.takeWhile_append_of_pos hall, List.reverse_append,
    List.reverse_reverse, List.rtakeWhile]

end Ends

/-- The text ends with a character that is no blank. -/
def Trimmed (text : List Char) : Prop := ∃ c ∈ text.getLast?, isSpace c = false

theorem rstrip_of_trimmed {text : List Char} (h : Trimmed text) : rstrip text = text := by
  obtain ⟨c, hlast, hc⟩ := h
  refine List.rdropWhile_eq_self_iff.mpr fun hne hspace => ?_
  rw [List.getLast?_eq_some_getLast hne] at hlast
  cases hlast
  rw [hc] at hspace
  cases hspace

theorem trimmed_rstrip {text : List Char} (hne : rstrip text ≠ []) : Trimmed (rstrip text) := by
  refine ⟨_, List.getLast?_eq_some_getLast hne, ?_⟩
  exact Bool.eq_false_iff.mpr (List.rdropWhile_last_not isSpace text hne)

theorem boundary_of_mem_splitLines {text line : List Char} (hline : line ∈ splitLines text) :
    ∀ c ∈ line, isLineBoundary c = false := by
  obtain ⟨kept, -, rfl⟩ := List.mem_map.mp hline
  intro c hc
  simpa using List.mem_takeWhile_imp hc

theorem splitLines_append {body rest : List Char} {c : Char}
    (h : TextLines.breaksAfter isLineBoundary c rest = true) :
    splitLines (body ++ [c] ++ rest) = splitLines (body ++ [c]) ++ splitLines rest := by
  rw [splitLines, TextLines.splitKeep_append h, List.map_append]
  rfl

theorem dropLast_concat_of_getLast? {text : List Char} {c : Char} (h : text.getLast? = some c) :
    text.dropLast ++ [c] = text := by
  have hne : text ≠ [] := by
    rintro rfl
    cases h
  rw [List.getLast?_eq_some_getLast hne] at h
  rw [← Option.some.inj h]
  exact List.dropLast_append_getLast hne

theorem splitLines_of_newlines {text : List Char}
    (hboundary : ∀ c ∈ text, isLineBoundary c = true → c = '\n')
    (hends : ∀ line ∈ TextLines.splitKeep UnifiedDiff.isLineFeed text,
      line.getLast? = some '\n') :
    splitLines text = (TextLines.splitKeep UnifiedDiff.isLineFeed text).map List.dropLast := by
  have hagree : ∀ c ∈ text, isLineBoundary c = UnifiedDiff.isLineFeed c := by
    intro c hc
    cases hline : isLineBoundary c with
    | true => rw [hboundary c hc hline]; rfl
    | false =>
      symm
      rw [UnifiedDiff.isLineFeed, beq_eq_false_iff_ne]
      rintro rfl
      cases hline
  have hlines : TextLines.splitKeep isLineBoundary text =
      TextLines.splitKeep UnifiedDiff.isLineFeed text := TextLines.splitKeep_congr rfl hagree
  rw [splitLines, hlines]
  refine List.map_congr_left fun line hline => ?_
  have hsplit := dropLast_concat_of_getLast? (hends line hline)
  have hfree := TextLines.newline_notMem_dropLast rfl hline
  have hplain : ∀ c ∈ line.dropLast, (!isLineBoundary c) = true := by
    intro c hc
    have hmem : c ∈ text := by
      rw [← TextLines.flatten_splitKeep UnifiedDiff.isLineFeed text]
      exact List.mem_flatten.mpr ⟨line, hline, List.mem_of_mem_dropLast hc⟩
    cases hboundaryC : isLineBoundary c with
    | true => exact absurd (hboundary c hmem hboundaryC ▸ hc) hfree
    | false => rfl
  rw [← hsplit, List.takeWhile_append_of_pos hplain, List.dropLast_concat]
  exact List.append_nil _

theorem intercalate_concat {lines : List (List Char)} (hne : lines ≠ []) :
    ['\n'].intercalate lines ++ ['\n'] = (lines.map fun line => line ++ ['\n']).flatten := by
  induction lines with
  | nil => exact absurd rfl hne
  | cons line rest ih =>
    cases rest with
    | nil => simp [List.intercalate]
    | cons next others =>
      have hrest := ih (List.cons_ne_nil _ _)
      rw [List.map_cons, List.flatten_cons, ← hrest, List.intercalate_cons_cons]
      simp only [List.append_assoc]

theorem intercalate_append {first second : List (List Char)} (hfirst : first ≠ [])
    (hsecond : second ≠ []) : ['\n'].intercalate (first ++ second) =
      ['\n'].intercalate first ++ ('\n' :: ['\n'].intercalate second) := by
  induction first with
  | nil => exact absurd rfl hfirst
  | cons line rest ih =>
    cases rest with
    | nil =>
      obtain ⟨next, others, rfl⟩ := List.exists_cons_of_ne_nil hsecond
      rw [List.singleton_append, List.intercalate_cons_cons]
      simp [List.intercalate]
    | cons next others =>
      rw [List.cons_append, List.cons_append, List.intercalate_cons_cons,
        ← List.cons_append, ih (List.cons_ne_nil _ _), List.intercalate_cons_cons]
      simp only [List.append_assoc]

theorem mem_intercalate {lines : List (List Char)} {c : Char}
    (h : c ∈ ['\n'].intercalate lines) : c = '\n' ∨ ∃ line ∈ lines, c ∈ line := by
  induction lines with
  | nil => cases h
  | cons line rest ih =>
    cases rest with
    | nil =>
      have hline : c ∈ line := by simpa [List.intercalate] using h
      exact Or.inr ⟨line, List.mem_cons_self, hline⟩
    | cons next others =>
      rw [List.intercalate_cons_cons, List.mem_append, List.mem_append] at h
      obtain (hline | hnewline) | hrest := h
      · exact Or.inr ⟨line, List.mem_cons_self, hline⟩
      · exact Or.inl (List.mem_singleton.mp hnewline)
      · obtain hnewline | ⟨found, hfound, hc⟩ := ih hrest
        · exact Or.inl hnewline
        · exact Or.inr ⟨found, List.mem_cons_of_mem _ hfound, hc⟩

theorem mem_intercalate_of_mem {lines : List (List Char)} {line : List Char} {c : Char}
    (hline : line ∈ lines) (hc : c ∈ line) : c ∈ ['\n'].intercalate lines := by
  induction lines with
  | nil => cases hline
  | cons first rest ih =>
    cases rest with
    | nil =>
      obtain rfl := List.mem_singleton.mp hline
      simpa [List.intercalate] using hc
    | cons next others =>
      rw [List.intercalate_cons_cons, List.mem_append, List.mem_append]
      obtain rfl | hrest := List.mem_cons.mp hline
      · exact Or.inl (Or.inl hc)
      · exact Or.inr (ih hrest)

end JlensEvolve.SkillLoop.HunkExtraction
