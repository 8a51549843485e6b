import JlensEvolve.Library.TextLines

/-!
Two readers of one text, the finer of which ends a line wherever the other one
does and at further characters. A number of lines of the finer reader makes up
no more of the text than as many lines of the other.
-/

namespace JlensEvolve.Library.TextLines

variable {ends : Char → Bool}

theorem flatten_take_growFirst (c : Char) (lines : List (List Char)) (n : Nat) :
    ((growFirst c lines).take (n + 1)).flatten = c :: (lines.take (n + 1)).flatten := by
  cases lines with
  | nil => rw [growFirst, List.take_succ_cons, List.take_nil, List.take_nil]; rfl
  | cons line others => rfl

theorem take_growFirst (c : Char) {lines : List (List Char)} (n : Nat) :
    (growFirst c lines).take (n + 1) = growFirst c (lines.take (n + 1)) := by
  cases lines with
  | nil => rw [growFirst, List.take_succ_cons, List.take_nil, List.take_nil]; rfl
  | cons line others => rfl

theorem breaksAfter_take {c : Char} {rest : List Char} {n : Nat} :
    breaksAfter ends c ((splitKeep ends rest).take (n + 1)).flatten = breaksAfter ends c rest := by
  cases rest with
  | nil => rfl
  | cons d others =>
    have hhead : (((splitKeep ends (d :: others)).take (n + 1)).flatten).head? = some d := by
      rw [splitKeep]
      split
      · rfl
      · rw [flatten_take_growFirst]
        rfl
    rw [breaksAfter, breaksAfter, hhead]
    rfl

theorem breaksAfter_nil {c : Char} {rest : List Char} (h : breaksAfter ends c rest = true) :
    breaksAfter ends c [] = true := by
  rw [breaksAfter, Bool.and_eq_true] at h
  rw [breaksAfter, h.1]
  simp

theorem splitKeep_flatten_take (text : List Char) (n : Nat) :
    splitKeep ends ((splitKeep ends text).take n).flatten = (splitKeep ends text).take n := by
  induction text generalizing n with
  | nil => rw [splitKeep, List.take_nil]; rfl
  | cons c rest ih =>
    cases n with
    | zero => rfl
    | succ n =>
      rw [splitKeep]
      split
      · rename_i hbreak
        rw [List.take_succ_cons, List.flatten_cons, List.singleton_append, splitKeep, ih]
        refine if_pos ?_
        cases n with
        | zero => exact breaksAfter_nil hbreak
        | succ n => rw [breaksAfter_take, hbreak]
      · rename_i hgoes
        rw [flatten_take_growFirst, splitKeep, ih, breaksAfter_take, if_neg hgoes,
          take_growFirst]

section Readers

variable {fine coarse : Char → Bool}

/-- The finer reader ends a line wherever the other one does, and both end lines at newlines. -/
structure Finer (fine coarse : Char → Bool) : Prop where
  newline : coarse '\n' = true
  ends : ∀ c, coarse c = true → fine c = true

theorem Finer.breaksAfter (h : Finer fine coarse) (c : Char) (rest : List Char) :
    TextLines.breaksAfter fine c rest =
      (TextLines.breaksAfter coarse c rest ||
        (TextLines.breaksAfter fine c rest && !coarse c)) := by
  rw [TextLines.breaksAfter, TextLines.breaksAfter, h.newline, h.ends _ h.newline]
  cases hcoarse : coarse c with
  | false => simp
  | true => rw [h.ends c hcoarse]; simp

theorem isPrefix_flatten_take (h : Finer fine coarse) (text : List Char) (n : Nat) :
    ((splitKeep fine text).take n).flatten <+: ((splitKeep coarse text).take n).flatten := by
  induction text generalizing n with
  | nil => exact List.prefix_refl _
  | cons c rest ih =>
    cases n with
    | zero => exact List.nil_prefix
    | succ n =>
      rw [splitKeep, splitKeep]
      by_cases hcoarse : breaksAfter coarse c rest = true
      · have hfine : breaksAfter fine c rest = true := by
          rw [h.breaksAfter, hcoarse, Bool.true_or]
        rw [if_pos hfine, if_pos hcoarse]
        exact (List.prefix_append_right_inj [c]).mpr (ih n)
      · rw [if_neg hcoarse, flatten_take_growFirst]
        split
        · -- a line of the finer reader ends inside a line of the other
          have hmore : ((splitKeep coarse rest).take n).flatten <+:
              ((splitKeep coarse rest).take (n + 1)).flatten := by
            obtain ⟨last, hlast⟩ : (splitKeep coarse rest).take n <+:
                (splitKeep coarse rest).take (n + 1) := List.take_prefix_take_left (by omega)
            exact ⟨last.flatten, by rw [← hlast, List.flatten_append]⟩
          exact (List.prefix_append_right_inj [c]).mpr ((ih n).trans hmore)
        · rw [flatten_take_growFirst]
          exact (List.prefix_append_right_inj [c]).mpr (ih (n + 1))

theorem length_growFirst (c : Char) (lines : List (List Char)) :
    (growFirst c lines).length = max lines.length 1 := by
  cases lines with
  | nil => rfl
  | cons line others =>
    rw [growFirst, List.length_cons, List.length_cons]
    omega

theorem length_splitKeep_pos {c : Char} {rest : List Char} :
    0 < (splitKeep ends (c :: rest)).length :=
  List.length_pos_iff.mpr (splitKeep_ne_nil (List.cons_ne_nil c rest))

theorem length_splitKeep_le (h : Finer fine coarse) (text : List Char) :
    (splitKeep coarse text).length ≤ (splitKeep fine text).length := by
  induction text with
  | nil => exact Nat.le_refl _
  | cons c rest ih =>
    rw [splitKeep, splitKeep]
    by_cases hcoarse : breaksAfter coarse c rest = true
    · have hfine : breaksAfter fine c rest = true := by
        rw [h.breaksAfter, hcoarse, Bool.true_or]
      rw [if_pos hcoarse, if_pos hfine, List.length_cons, List.length_cons]
      omega
    · rw [if_neg hcoarse, length_growFirst]
      split
      · rw [List.length_cons]
        omega
      · rw [length_growFirst]
        omega

theorem splitKeep_eq_of_length (h : Finer fine coarse) {text : List Char}
    (hlength : (splitKeep fine text).length ≤ (splitKeep coarse text).length) :
    splitKeep fine text = splitKeep coarse text := by
  induction text with
  | nil => rfl
  | cons c rest ih =>
    have hrest := length_splitKeep_le h rest
    rw [splitKeep, splitKeep] at hlength ⊢
    by_cases hcoarse : breaksAfter coarse c rest = true
    · have hfine : breaksAfter fine c rest = true := by
        rw [h.breaksAfter, hcoarse, Bool.true_or]
      rw [if_pos hcoarse, if_pos hfine, List.length_cons, List.length_cons] at hlength
      rw [if_pos hcoarse, if_pos hfine, ih (Nat.le_of_succ_le_succ hlength)]
    · rw [if_neg hcoarse] at hlength ⊢
      rw [length_growFirst] at hlength
      cases rest with
      | nil =>
        split
        · rfl
        · rfl
      | cons d others =>
        have hpos : 0 < (splitKeep coarse (d :: others)).length := length_splitKeep_pos
        split at hlength
        · -- a further line of the finer reader would not be made up for
          rw [List.length_cons] at hlength
          omega
        · rename_i hfine
          rw [length_growFirst] at hlength
          rw [if_neg hfine, ih (by omega)]

end Readers

end JlensEvolve.Library.TextLines
