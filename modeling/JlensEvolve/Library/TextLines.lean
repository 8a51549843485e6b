import JlensEvolve.Library.OneLine

/-!
Breaking a text into lines. Which characters end a line is a parameter, since
the readers of one file disagree about it: `str.splitlines` ends lines at eleven
characters, Python's parser at two of them, a patch at one. A carriage return
and a newline end one line together where both of them end lines.
-/

namespace JlensEvolve.Library.TextLines

variable (ends : Char → Bool)

/-- A line ends after the character. -/
def breaksAfter (c : Char) (rest : List Char) : Bool :=
  ends c && !(c == '\r' && ends '\n' && rest.head? == some '\n')

/-- A character in front of the first line. -/
def growFirst (c : Char) : List (List Char) → List (List Char)
  | [] => [[c]]
  | line :: others => (c :: line) :: others

/-- `splitlines(keepends=True)` for the given line ends. -/
def splitKeep : List Char → List (List Char)
  | [] => []
  | c :: rest =>
    if breaksAfter ends c rest then [c] :: splitKeep rest else growFirst c (splitKeep rest)

theorem flatten_growFirst (c : Char) (lines : List (List Char)) :
    (growFirst c lines).flatten = c :: lines.flatten := by
  cases lines <;> rfl

theorem flatten_splitKeep (text : List Char) : (splitKeep ends text).flatten = text := by
  induction text with
  | nil => rfl
  | cons c rest ih =>
    rw [splitKeep]
    split
    · rw [List.flatten_cons, ih]
      rfl
    · rw [flatten_growFirst, ih]

variable {ends}

theorem splitKeep_line {text rest : List Char} {c : Char} (htext : ∀ d ∈ text, ends d = false)
    (hbreak : breaksAfter ends c rest = true) :
    splitKeep ends (text ++ c :: rest) = (text ++ [c]) :: splitKeep ends rest := by
  induction text with
  | nil => rw [List.nil_append, splitKeep, if_pos hbreak]; rfl
  | cons d others ih =>
    obtain ⟨hd, hothers⟩ := List.forall_mem_cons.mp htext
    have hgoes : breaksAfter ends d (others ++ c :: rest) = false := by
      rw [breaksAfter, hd, Bool.false_and]
    rw [List.cons_append, splitKeep, hgoes, ih hothers]
    rfl

theorem mem_growFirst {c : Char} {lines : List (List Char)} {line : List Char}
    (h : line ∈ growFirst c lines) :
    (∃ first, (first = [] ∨ first ∈ lines) ∧ line = c :: first) ∨ line ∈ lines := by
  cases lines with
  | nil => exact Or.inl ⟨[], Or.inl rfl, List.mem_singleton.mp h⟩
  | cons first others =>
    obtain rfl | hothers := List.mem_cons.mp h
    · exact Or.inl ⟨first, Or.inr List.mem_cons_self, rfl⟩
    · exact Or.inr (List.mem_cons_of_mem _ hothers)

theorem newline_notMem_dropLast (hends : ends '\n' = true) {text line : List Char}
    (h : line ∈ splitKeep ends text) : '\n' ∉ line.dropLast := by
  induction text generalizing line with
  | nil => cases h
  | cons c rest ih =>
    rw [splitKeep] at h
    split at h
    · obtain rfl | hrest := List.mem_cons.mp h
      · exact List.not_mem_nil
      · exact ih hrest
    · rename_i hgoes
      have hc : c ≠ '\n' := by
        rintro rfl
        exact hgoes (by rw [breaksAfter, hends]; rfl)
      obtain ⟨first, hfirst, rfl⟩ | hmem := mem_growFirst h
      · obtain rfl | hfirst := hfirst
        · exact List.not_mem_nil
        · cases first with
          | nil => exact List.not_mem_nil
          | cons d others =>
            rw [List.dropLast_cons_of_ne_nil (List.cons_ne_nil _ _), List.mem_cons, not_or]
            exact ⟨fun heq => hc heq.symm, ih hfirst⟩
      · exact ih hmem

theorem growFirst_append {c : Char} {first : List (List Char)} (hne : first ≠ [])
    (second : List (List Char)) : growFirst c (first ++ second) = growFirst c first ++ second := by
  cases first with
  | nil => exact absurd rfl hne
  | cons line others => rfl

theorem splitKeep_ne_nil {text : List Char} (h : text ≠ []) : splitKeep ends text ≠ [] := by
  intro hnil
  have hflatten := flatten_splitKeep ends text
  rw [hnil] at hflatten
  exact h hflatten.symm

theorem splitKeep_append {body rest : List Char} {c : Char} (h : breaksAfter ends c rest = true) :
    splitKeep ends (body ++ [c] ++ rest) =
      splitKeep ends (body ++ [c]) ++ splitKeep ends rest := by
  have halone : breaksAfter ends c [] = true := by
    rw [breaksAfter, Bool.and_eq_true] at h
    rw [breaksAfter, h.1]
    simp
  induction body with
  | nil =>
    rw [List.nil_append, List.singleton_append, splitKeep, if_pos h, splitKeep, if_pos halone]
    rfl
  | cons d others ih =>
    have hne : others ++ [c] ≠ [] := List.append_ne_nil_of_right_ne_nil _ (List.cons_ne_nil _ _)
    have hhead : breaksAfter ends d (others ++ [c] ++ rest) =
        breaksAfter ends d (others ++ [c]) := by
      rw [breaksAfter, breaksAfter, List.head?_append_of_ne_nil _ hne]
    rw [List.cons_append, List.cons_append, splitKeep, hhead, ih, splitKeep]
    split
    · rfl
    · exact growFirst_append (splitKeep_ne_nil hne) _

theorem splitKeep_congr {ends' : Char → Bool} {text : List Char} (hnewline : ends '\n' = ends' '\n')
    (h : ∀ c ∈ text, ends c = ends' c) : splitKeep ends text = splitKeep ends' text := by
  induction text with
  | nil => rfl
  | cons c rest ih =>
    obtain ⟨hc, hrest⟩ := List.forall_mem_cons.mp h
    rw [splitKeep, splitKeep, breaksAfter, breaksAfter, hc, hnewline, ih hrest]

theorem nil_notMem_splitKeep (text : List Char) : [] ∉ splitKeep ends text := by
  induction text with
  | nil => exact List.not_mem_nil
  | cons c rest ih =>
    intro h
    rw [splitKeep] at h
    split at h
    · obtain hnil | hrest := List.mem_cons.mp h
      · cases hnil
      · exact ih hrest
    · obtain ⟨first, -, hnil⟩ | hrest := mem_growFirst h
      · cases hnil
      · exact ih hrest

end JlensEvolve.Library.TextLines
