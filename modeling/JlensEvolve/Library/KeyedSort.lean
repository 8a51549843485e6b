import Mathlib.Data.List.Sort
import Mathlib.Order.Lattice
import Mathlib.Data.List.Basic
import Mathlib.Tactic.Common

/-!
Sorting by a key. Where no two elements share a key, the sorted list depends on
which elements there are and not on the order they came in, and the place of an
element is the number of elements with a smaller key.
-/

namespace JlensEvolve.Library.KeyedSort

variable {α κ : Type} [LinearOrder κ] (key : α → κ)

/-- `sorted(items, key=key)`. -/
def sortBy (items : List α) : List α := items.insertionSort fun a b => key a ≤ key b

theorem perm_sortBy (items : List α) : (sortBy key items).Perm items :=
  List.perm_insertionSort _ items

theorem pairwise_sortBy (items : List α) :
    (sortBy key items).Pairwise fun a b => key a ≤ key b := by
  have : Std.Total fun a b => key a ≤ key b := ⟨fun a b => le_total (key a) (key b)⟩
  have : IsTrans α fun a b => key a ≤ key b := ⟨fun _ _ _ => le_trans⟩
  exact List.pairwise_insertionSort (fun a b => key a ≤ key b) items

def KeysApart (items : List α) : Prop := ∀ a ∈ items, ∀ b ∈ items, key a = key b → a = b

variable {key}

theorem sortBy_eq_of_perm {items others : List α} (hkeys : KeysApart key items)
    (h : items.Perm others) : sortBy key items = sortBy key others := by
  refine List.Perm.eq_of_pairwise ?_ (pairwise_sortBy key items) (pairwise_sortBy key others) ?_
  · intro a b ha hb hab hba
    have ha : a ∈ items := (perm_sortBy key items).mem_iff.mp ha
    have hb : b ∈ items := h.mem_iff.mpr ((perm_sortBy key others).mem_iff.mp hb)
    exact hkeys a ha b hb (le_antisymm hab hba)
  · exact (perm_sortBy key items).trans (h.trans (perm_sortBy key others).symm)

theorem strict_sortBy {items : List α} (hkeys : KeysApart key items) (hnodup : items.Nodup) :
    (sortBy key items).Pairwise fun a b => key a < key b := by
  have hdistinct : (sortBy key items).Nodup := (perm_sortBy key items).nodup_iff.mpr hnodup
  refine (List.pairwise_and_iff.mpr ⟨pairwise_sortBy key items, hdistinct⟩).imp_of_mem ?_
  intro a b ha hb hab
  refine lt_of_le_of_ne hab.1 fun hsame => hab.2 ?_
  exact hkeys a ((perm_sortBy key items).mem_iff.mp ha) b
    ((perm_sortBy key items).mem_iff.mp hb) hsame

theorem length_filter_lt {items : List α} (h : items.Pairwise fun a b => key a < key b) {n : Nat}
    {item : α} (hitem : items[n]? = some item) :
    (items.filter fun other => key other < key item).length = n := by
  induction items generalizing n with
  | nil => simp at hitem
  | cons first rest ih =>
    obtain ⟨hfirst, hrest⟩ := List.pairwise_cons.mp h
    cases n with
    | zero =>
      obtain rfl : first = item := by simpa using hitem
      have hnone : rest.filter (fun other => key other < key first) = [] := by
        refine List.filter_eq_nil_iff.mpr ?_
        intro other hother
        simpa using (hfirst other hother).le
      rw [List.filter_cons_of_neg (by simp), hnone, List.length_nil]
    | succ n =>
      have hitem : rest[n]? = some item := by simpa using hitem
      have hbelow : key first < key item := hfirst item (List.mem_of_getElem? hitem)
      rw [List.filter_cons_of_pos (by simpa using hbelow), List.length_cons, ih hrest hitem]

theorem length_filter_lt_of_sortBy {items : List α} (hkeys : KeysApart key items)
    (hnodup : items.Nodup) {n : Nat} {item : α} (hitem : (sortBy key items)[n]? = some item) :
    (items.filter fun other => key other < key item).length = n := by
  rw [← length_filter_lt (strict_sortBy hkeys hnodup) hitem]
  exact ((perm_sortBy key items).filter _).length_eq.symm

end JlensEvolve.Library.KeyedSort

/-!
The earliest of the items with the highest score, kept while items arrive one
by one.
-/

namespace JlensEvolve.Library

variable {α β : Type} [LinearOrder β]

/-- Those before the item score less, those after it no more. -/
def FirstMax (score : α → β) (items : List α) (item : α) : Prop :=
  ∃ before after, items = before ++ item :: after ∧
    (∀ other ∈ before, score other < score item) ∧ ∀ other ∈ after, score other ≤ score item

variable {score : α → β} {items : List α} {best next : α}

theorem FirstMax.mem (h : FirstMax score items best) : best ∈ items := by
  obtain ⟨before, after, hitems, -, -⟩ := h
  rw [hitems]
  simp

theorem firstMax_singleton : FirstMax score [next] next :=
  ⟨[], [], rfl, by simp, by simp⟩

theorem FirstMax.le (h : FirstMax score items best) {other : α} (hother : other ∈ items) :
    score other ≤ score best := by
  obtain ⟨before, after, hitems, hbefore, hafter⟩ := h
  rw [hitems] at hother
  rcases List.mem_append.mp hother with hfirst | hrest
  · exact (hbefore other hfirst).le
  · rcases List.mem_cons.mp hrest with rfl | hlast
    · exact le_rfl
    · exact hafter other hlast

theorem FirstMax.concat_of_le (h : FirstMax score items best) (hle : score next ≤ score best) :
    FirstMax score (items ++ [next]) best := by
  obtain ⟨before, after, hitems, hbefore, hafter⟩ := h
  refine ⟨before, after ++ [next], by simp [hitems], hbefore, ?_⟩
  intro other hother
  rcases List.mem_append.mp hother with hold | hnew
  · exact hafter other hold
  · rw [List.mem_singleton.mp hnew]
    exact hle

theorem FirstMax.concat_of_lt (h : FirstMax score items best) (hlt : score best < score next) :
    FirstMax score (items ++ [next]) next := by
  refine ⟨items, [], rfl, ?_, by simp⟩
  intro other hother
  exact lt_of_le_of_lt (h.le hother) hlt

end JlensEvolve.Library
