import Mathlib.Algebra.BigOperators.Group.List.Basic
import Mathlib.Algebra.Order.Field.Rat
import Mathlib.Tactic.Linarith
import Mathlib.Tactic.Ring

/-!
Means over groups. When the mean of one value over each group is at least that
of another, up to a tolerance, so is the mean over all items: the groups count
by their sizes, which are the same for both values.
-/

namespace JlensEvolve.Library.GroupedMean

variable {α κ : Type} [DecidableEq κ]

def mean (values : List ℚ) : ℚ := values.sum / values.length

def ofGroup (group : α → κ) (items : List α) (key : κ) : List α :=
  items.filter fun item => group item = key

theorem sum_groups (group : α → κ) (value : α → ℚ) (items : List α) (key : κ) :
    (items.map value).sum = ((ofGroup group items key).map value).sum +
      ((items.filter fun item => group item ≠ key).map value).sum := by
  have hsplit := List.sum_map_filter_add_sum_map_filter_not (fun item => group item = key) value
    items
  simpa [ofGroup] using hsplit.symm

theorem ofGroup_of_ne (group : α → κ) (items : List α) {key other : κ} (h : other ≠ key) :
    ofGroup group (items.filter fun item => group item ≠ key) other = ofGroup group items other := by
  rw [ofGroup, ofGroup, List.filter_filter]
  refine List.filter_congr fun item _ => ?_
  by_cases hgroup : group item = other
  · simp [hgroup, h]
  · simp [hgroup]

theorem sum_nonneg (group : α → κ) (value : α → ℚ) (items : List α)
    (h : ∀ item ∈ items, 0 ≤ ((ofGroup group items (group item)).map value).sum) :
    0 ≤ (items.map value).sum := by
  -- one group after the other is taken out
  induction hlength : items.length using Nat.strong_induction_on generalizing items with
  | _ length ih =>
    cases items with
    | nil => exact le_refl _
    | cons first rest =>
      rw [sum_groups group value _ (group first)]
      refine add_nonneg (h first List.mem_cons_self) ?_
      have hshorter : ((first :: rest).filter fun item => group item ≠ group first).length <
          length := by
        rw [← hlength]
        refine List.length_filter_lt_length_iff_exists.mpr ⟨first, List.mem_cons_self, ?_⟩
        simp
      refine ih _ hshorter _ ?_ rfl
      intro item hitem
      obtain ⟨hmem, hne⟩ := List.mem_filter.mp hitem
      have hgroup : group item ≠ group first := of_decide_eq_true hne
      rw [ofGroup_of_ne group _ hgroup]
      exact h item hmem

theorem sum_map_sub_add (value other : α → ℚ) (tolerance : ℚ) (items : List α) :
    (items.map fun item => value item - other item + tolerance).sum =
      (items.map value).sum - (items.map other).sum + items.length * tolerance := by
  induction items with
  | nil => simp
  | cons first rest ih =>
    simp only [List.map_cons, List.sum_cons, ih, List.length_cons]
    push_cast
    ring

theorem mean_le_iff (value other : α → ℚ) (tolerance : ℚ) {items : List α} (hne : items ≠ []) :
    mean (items.map other) ≤ mean (items.map value) + tolerance ↔
      0 ≤ (items.map fun item => value item - other item + tolerance).sum := by
  have hpos : (0 : ℚ) < items.length := by
    exact_mod_cast List.length_pos_iff.mpr hne
  rw [sum_map_sub_add, mean, mean, List.length_map, List.length_map]
  constructor
  · intro h
    rw [div_le_iff₀ hpos, add_mul, div_mul_cancel₀ _ hpos.ne'] at h
    linarith
  · intro h
    rw [div_le_iff₀ hpos, add_mul, div_mul_cancel₀ _ hpos.ne']
    linarith

theorem mean_le_of_groups (group : α → κ) (value other : α → ℚ) (tolerance : ℚ) {items : List α}
    (hne : items ≠ [])
    (h : ∀ item ∈ items, mean ((ofGroup group items (group item)).map other) ≤
      mean ((ofGroup group items (group item)).map value) + tolerance) :
    mean (items.map other) ≤ mean (items.map value) + tolerance := by
  rw [mean_le_iff value other tolerance hne]
  refine sum_nonneg group _ items fun item hitem => ?_
  have hgroup : ofGroup group items (group item) ≠ [] :=
    List.ne_nil_of_mem (List.mem_filter.mpr ⟨hitem, decide_eq_true rfl⟩)
  exact (mean_le_iff value other tolerance hgroup).mp (h item hitem)

end JlensEvolve.Library.GroupedMean
