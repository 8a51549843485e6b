import Mathlib.Data.List.Sort
import Mathlib.Tactic.Common

/-!
Edits of a list by offsets. Edits that do not overlap can be made from the right
one by one: the offsets of the edits still to come stay what they were, so the
list that results is the one with all edits made at once.
-/

namespace JlensEvolve.Library.Splice

variable {α : Type}

/-- What stands from `start` up to `stop` gives way to the replacement. -/
structure Edit (α : Type) where
  start : Nat
  stop : Nat
  replacement : List α

/-- `text[:start] + replacement + text[stop:]`. -/
def Edit.apply (edit : Edit α) (text : List α) : List α :=
  text.take edit.start ++ edit.replacement ++ text.drop edit.stop

/-- The edits one by one, the last first. -/
def fromRight (source : List α) (edits : List (Edit α)) : List α :=
  edits.foldr Edit.apply source

/-- The rest of the source from an offset on, with all edits made at once: what stands between
two edits is copied. -/
def allAtOnce (source : List α) : Nat → List (Edit α) → List α
  | offset, [] => source.drop offset
  | offset, edit :: rest =>
    (source.drop offset).take (edit.start - offset) ++ edit.replacement ++
      allAtOnce source edit.stop rest

/-- Edits from left to right that do not overlap. -/
def Apart (bound : Nat) : Nat → List (Edit α) → Prop
  | offset, [] => offset ≤ bound
  | offset, edit :: rest =>
    offset ≤ edit.start ∧ edit.start ≤ edit.stop ∧ Apart bound edit.stop rest

theorem Apart.le_bound {bound offset : Nat} {edits : List (Edit α)} (h : Apart bound offset edits) :
    offset ≤ bound := by
  induction edits generalizing offset with
  | nil => exact h
  | cons edit rest ih =>
    have hrest := ih h.2.2
    have hstart := h.1
    have hstop := h.2.1
    omega

theorem take_append_drop_take (source : List α) {offset start : Nat} (h : offset ≤ start) :
    source.take start = source.take offset ++ (source.drop offset).take (start - offset) := by
  have hsplit := List.take_append_drop offset (source.take start)
  rw [List.take_take, Nat.min_eq_left h, List.drop_take] at hsplit
  exact hsplit.symm

theorem drop_eq_take_append (source : List α) {offset start : Nat} (h : offset ≤ start) :
    source.drop offset = (source.drop offset).take (start - offset) ++ source.drop start := by
  have hdrop : source.drop start = (source.drop offset).drop (start - offset) := by
    rw [List.drop_drop, Nat.add_sub_cancel' h]
  rw [hdrop, List.take_append_drop]

theorem fromRight_eq (source : List α) {offset : Nat} {edits : List (Edit α)}
    (h : Apart source.length offset edits) :
    fromRight source edits = source.take offset ++ allAtOnce source offset edits := by
  induction edits generalizing offset with
  | nil => exact (List.take_append_drop offset source).symm
  | cons edit rest ih =>
    obtain ⟨hstart, hstop, hrest⟩ := h
    have hbound := hrest.le_bound
    have htake : (source.take edit.stop ++ allAtOnce source edit.stop rest).take edit.start =
        source.take edit.start := by
      rw [List.take_append_of_le_length (by rw [List.length_take]; omega), List.take_take,
        Nat.min_eq_left hstop]
    have hdrop : (source.take edit.stop ++ allAtOnce source edit.stop rest).drop edit.stop =
        allAtOnce source edit.stop rest := by
      have hlength : (source.take edit.stop).length = edit.stop := by
        rw [List.length_take]
        omega
      exact List.drop_left' hlength
    have hcons : fromRight source (edit :: rest) = edit.apply (fromRight source rest) := rfl
    rw [hcons, ih hrest, Edit.apply, htake, hdrop, allAtOnce,
      take_append_drop_take source hstart]
    simp only [List.append_assoc]

theorem fromRight_eq_allAtOnce {source : List α} {edits : List (Edit α)}
    (h : Apart source.length 0 edits) : fromRight source edits = allAtOnce source 0 edits := by
  rw [fromRight_eq source h]
  rfl

/-- A copied piece of the source, the part that is replaced after it, and what it is replaced
with. -/
structure Piece (α : Type) where
  copied : List α
  before : List α
  after : List α

/-- The pieces of the source from an offset on. -/
def pieces (source : List α) : Nat → List (Edit α) → List (Piece α)
  | _, [] => []
  | offset, edit :: rest =>
    ⟨(source.drop offset).take (edit.start - offset),
      (source.drop edit.start).take (edit.stop - edit.start), edit.replacement⟩ ::
      pieces source edit.stop rest

/-- Where the last edit ends. -/
def lastStop : Nat → List (Edit α) → Nat
  | offset, [] => offset
  | _, edit :: rest => lastStop edit.stop rest

theorem allAtOnce_eq_pieces (source : List α) (offset : Nat) (edits : List (Edit α)) :
    allAtOnce source offset edits =
      (pieces source offset edits).flatMap (fun piece => piece.copied ++ piece.after) ++
        source.drop (lastStop offset edits) := by
  induction edits generalizing offset with
  | nil => rfl
  | cons edit rest ih =>
    rw [allAtOnce, ih, pieces, List.flatMap_cons, lastStop]
    simp only [List.append_assoc]

theorem drop_eq_pieces (source : List α) {offset : Nat} {edits : List (Edit α)}
    (h : Apart source.length offset edits) :
    source.drop offset =
      (pieces source offset edits).flatMap (fun piece => piece.copied ++ piece.before) ++
        source.drop (lastStop offset edits) := by
  induction edits generalizing offset with
  | nil => rfl
  | cons edit rest ih =>
    obtain ⟨hstart, hstop, hrest⟩ := h
    rw [pieces, List.flatMap_cons, lastStop, List.append_assoc, ← ih hrest]
    calc source.drop offset = (source.drop offset).take (edit.start - offset) ++
          source.drop edit.start := drop_eq_take_append source hstart
      _ = (source.drop offset).take (edit.start - offset) ++
          ((source.drop edit.start).take (edit.stop - edit.start) ++ source.drop edit.stop) := by
            rw [← drop_eq_take_append source hstop]
      _ = _ := by rw [List.append_assoc]

end JlensEvolve.Library.Splice
