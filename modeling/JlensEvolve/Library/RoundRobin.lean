import Mathlib.Algebra.BigOperators.Group.List.Basic
import Mathlib.Algebra.Order.Ring.Nat
import Mathlib.Data.List.Basic
import Mathlib.Data.List.Perm.Basic

/-!
Taking turns: the first elements of several lists in the order of the lists,
then the second elements, and so on while any list has an element left. Nothing
is lost and nothing is taken twice.
-/

namespace JlensEvolve.Library.RoundRobin

variable {α : Type}

/-- The most turns that a list needs. -/
def turns (lists : List (List α)) : Nat := (lists.map List.length).foldl max 0

/-- The elements at the position, of the lists that have one there. -/
def turn (lists : List (List α)) (position : Nat) : List α := lists.filterMap (·[position]?)

def interleave (lists : List (List α)) : List α :=
  (List.range (turns lists)).flatMap (turn lists)

theorem le_foldl_max (lengths : List Nat) (start : Nat) :
    start ≤ lengths.foldl max start ∧ ∀ length ∈ lengths, length ≤ lengths.foldl max start := by
  induction lengths generalizing start with
  | nil => exact ⟨Nat.le_refl _, fun _ h => absurd h List.not_mem_nil⟩
  | cons first rest ih =>
    obtain ⟨hstart, hrest⟩ := ih (max start first)
    rw [List.foldl_cons]
    refine ⟨Nat.le_trans (Nat.le_max_left start first) hstart, ?_⟩
    intro length hlength
    rcases List.mem_cons.mp hlength with rfl | hlength
    · exact Nat.le_trans (Nat.le_max_right start _) hstart
    · exact hrest length hlength

theorem length_le_turns {lists : List (List α)} {items : List α} (h : items ∈ lists) :
    items.length ≤ turns lists :=
  (le_foldl_max (lists.map List.length) 0).2 _ (List.mem_map_of_mem h)

theorem flatMap_getElem? {items : List α} {count : Nat} (h : items.length ≤ count) :
    (List.range count).flatMap (fun position => items[position]?.toList) = items := by
  induction items generalizing count with
  | nil =>
    rw [List.flatMap_eq_nil_iff]
    intro position _
    rfl
  | cons first rest ih =>
    obtain ⟨fewer, rfl⟩ : ∃ fewer, count = fewer + 1 := ⟨count - 1, by
      rw [List.length_cons] at h
      omega⟩
    have hrest : rest.length ≤ fewer := Nat.le_of_succ_le_succ h
    rw [List.range_succ_eq_map, List.flatMap_cons, List.flatMap_map]
    exact congrArg (first :: ·) (ih hrest)

theorem turns_perm {lists : List (List α)} {count : Nat}
    (h : ∀ items ∈ lists, items.length ≤ count) :
    ((List.range count).flatMap (turn lists)).Perm lists.flatten := by
  induction lists with
  | nil =>
    have hempty : (List.range count).flatMap (turn ([] : List (List α))) = [] := by
      rw [List.flatMap_eq_nil_iff]
      intro position _
      rfl
    rw [hempty]
    exact List.Perm.refl _
  | cons items others ih =>
    obtain ⟨hitems, hothers⟩ := List.forall_mem_cons.mp h
    have hsplit : turn (items :: others) = fun position =>
        items[position]?.toList ++ turn others position := by
      funext position
      rw [turn, List.filterMap_cons]
      cases items[position]? <;> rfl
    rw [hsplit, List.flatten_cons]
    refine (List.flatMap_append_perm _ _ _).symm.trans ?_
    rw [flatMap_getElem? hitems]
    exact (ih hothers).append_left items

theorem interleave_perm (lists : List (List α)) : (interleave lists).Perm lists.flatten :=
  turns_perm fun _ hitems => length_le_turns hitems

theorem mem_interleave {lists : List (List α)} {item : α} :
    item ∈ interleave lists ↔ ∃ items ∈ lists, item ∈ items := by
  rw [(interleave_perm lists).mem_iff, List.mem_flatten]

theorem countP_interleave (test : α → Bool) (lists : List (List α)) :
    (interleave lists).countP test = (lists.map (List.countP test)).sum := by
  rw [(interleave_perm lists).countP_eq, List.countP_flatten]

end JlensEvolve.Library.RoundRobin
