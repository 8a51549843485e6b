import JlensEvolve.Library.KeyedSort
import JlensEvolve.Library.StepUp

/-!
`benjamini_hochberg` of `attribution.py`: the adjusted p-values, computed by a
running minimum over the sorted values and scattered back, are the least levels
at which the step-up procedure rejects. Values are exact rationals.
-/

namespace JlensEvolve.Statistics

open Library StepUp

/-- `np.argsort`: positions in an order that sorts the values. Which of two equal
values comes first is left open. -/
structure Argsort where
  order : List ℚ → List Nat
  perm : ∀ values, (order values).Perm (List.range values.length)
  sorted : ∀ values, ((order values).map fun i => values.getD i 0).Pairwise (· ≤ ·)

/-- `values[order]`. -/
def gather (values : List ℚ) (order : List Nat) : List ℚ := order.map fun i => values.getD i 0

/-- `target[order] = held`. -/
def scatter (order : List Nat) (held target : List ℚ) : List ℚ :=
  (order.zip held).foldl (fun filled entry => filled.set entry.1 entry.2) target

/-- `np.clip(value, 0, 1)`. -/
def clip (value : ℚ) : ℚ := min (max value 0) 1

/-- `benjamini_hochberg`. The array of `np.empty_like` is one of zeros here; every
position of it is written. -/
def benjaminiHochberg (argsort : Argsort) (values : List ℚ) : Except String (List ℚ) :=
  if values = [] then .ok []
  else if values.any fun value => value < 0 || 1 < value then
    .error "p-values must be finite and within [0, 1]"
  else
    let order := argsort.order values
    let ranked := gather values order
    let levels : List ℚ := ranked.mapIdx fun k (value : ℚ) =>
      value * (values.length : ℚ) / (k + 1 : Nat)
    let adjustedRanked := (runningMin levels.reverse).reverse
    .ok (scatter order (adjustedRanked.map clip) (List.replicate values.length 0))

theorem length_scatter (order : List Nat) (held target : List ℚ) :
    (scatter order held target).length = target.length := by
  induction order generalizing held target with
  | nil => rfl
  | cons i rest ih =>
    cases held with
    | nil => rfl
    | cons value others =>
      rw [scatter, List.zip_cons_cons, List.foldl_cons, ← scatter, ih, List.length_set]

theorem getElem?_scatter_of_notMem {order : List Nat} {i : Nat} (h : i ∉ order)
    (held target : List ℚ) : (scatter order held target)[i]? = target[i]? := by
  induction order generalizing held target with
  | nil => rfl
  | cons j rest ih =>
    cases held with
    | nil => rfl
    | cons value others =>
      obtain ⟨hne, hrest⟩ := not_or.mp (List.mem_cons.not.mp h)
      rw [scatter, List.zip_cons_cons, List.foldl_cons, ← scatter, ih hrest,
        List.getElem?_set_ne (Ne.symm hne)]

theorem getElem?_scatter {order : List Nat} {held target : List ℚ} {k i : Nat} {value : ℚ}
    (hnodup : order.Nodup) (hlt : i < target.length) (hi : order[k]? = some i)
    (hvalue : held[k]? = some value) : (scatter order held target)[i]? = some value := by
  induction order generalizing held target k with
  | nil => cases hi
  | cons j rest ih =>
    obtain ⟨hj, hrest⟩ := List.nodup_cons.mp hnodup
    cases held with
    | nil => cases hvalue
    | cons first others =>
      rw [scatter, List.zip_cons_cons, List.foldl_cons, ← scatter]
      cases k with
      | zero =>
        obtain rfl : j = i := Option.some.inj hi
        obtain rfl : first = value := Option.some.inj hvalue
        rw [getElem?_scatter_of_notMem hj, List.getElem?_set_self hlt]
      | succ k => exact ih hrest (by rw [List.length_set]; exact hlt) hi hvalue

variable (argsort : Argsort) {values : List ℚ}

theorem nodup_order : (argsort.order values).Nodup :=
  (argsort.perm values).nodup_iff.mpr List.nodup_range

theorem gather_range (values : List ℚ) : gather values (List.range values.length) = values := by
  refine List.ext_getElem (by rw [gather, List.length_map, List.length_range]) ?_
  intro i hi hvalues
  simp only [gather, List.getElem_map, List.getElem_range]
  exact List.getD_eq_getElem values 0 hvalues

theorem gather_order :
    gather values (argsort.order values) = values.insertionSort (· ≤ ·) := by
  have hperm : (gather values (argsort.order values)).Perm values := by
    have hmap : (gather values (argsort.order values)).Perm
        (gather values (List.range values.length)) := (argsort.perm values).map _
    rw [gather_range] at hmap
    exact hmap
  exact List.Perm.eq_of_pairwise (fun _ _ _ _ hab hba => le_antisymm hab hba)
    (argsort.sorted values) (List.pairwise_insertionSort _ values)
    (hperm.trans (List.perm_insertionSort _ values).symm)

theorem clip_le_iff (value level : ℚ) :
    clip value ≤ level ↔ (value ≤ level ∧ 0 ≤ level) ∨ 1 ≤ level := by
  rw [clip, min_le_iff, max_le_iff]

variable {argsort}

theorem valid_of_ok (hp : ∀ p ∈ values, 0 ≤ p ∧ p ≤ 1) :
    (values.any fun value => value < 0 || 1 < value) = false := by
  rw [List.any_eq_false]
  intro p hmem
  obtain ⟨hzero, hone⟩ := hp p hmem
  rw [Bool.or_eq_true, decide_eq_true_eq, decide_eq_true_eq]
  rintro (hlt | hlt)
  · exact absurd hlt (not_lt.mpr hzero)
  · exact absurd hlt (not_lt.mpr hone)

def adjustedValues (argsort : Argsort) (values : List ℚ) : List ℚ :=
  scatter (argsort.order values)
    ((minFrom (rankLevels (values.insertionSort (· ≤ ·)))).map clip)
    (List.replicate values.length 0)

theorem benjaminiHochberg_eq (hp : ∀ p ∈ values, 0 ≤ p ∧ p ≤ 1) :
    benjaminiHochberg argsort values = .ok (adjustedValues argsort values) := by
  have hlength : (values.insertionSort (· ≤ ·)).length = values.length :=
    List.length_insertionSort _ _
  rw [benjaminiHochberg]
  by_cases hnil : values = []
  · rw [if_pos hnil, hnil, adjustedValues]
    have hempty : scatter (argsort.order [])
        ((minFrom (rankLevels (([] : List ℚ).insertionSort (· ≤ ·)))).map clip)
        (List.replicate ([] : List ℚ).length 0) = [] := by
      rw [← List.length_eq_zero_iff, length_scatter]
      rfl
    rw [hempty]
  · rw [if_neg hnil, valid_of_ok hp, adjustedValues, rankLevels, hlength]
    simp only [gather_order]
    rfl

theorem length_adjustedValues : (adjustedValues argsort values).length = values.length := by
  rw [adjustedValues, length_scatter, List.length_replicate]

theorem adjusted_le_iff (argsort : Argsort) (hp : ∀ p ∈ values, 0 ≤ p ∧ p ≤ 1) {i : Nat}
    (hi : i < values.length) (level : ℚ) :
    (adjustedValues argsort values).getD i 0 ≤ level ↔
      Rejected (values.insertionSort (· ≤ ·)) level (values.getD i 0) := by
  have hsorted := List.pairwise_insertionSort (· ≤ ·) values
  have hmem : ∀ x ∈ values.insertionSort (· ≤ ·), 0 ≤ x ∧ x ≤ 1 := fun x hx =>
    hp x ((List.mem_insertionSort _).mp hx)
  have horder : i ∈ argsort.order values :=
    (argsort.perm values).mem_iff.mpr (List.mem_range.mpr hi)
  obtain ⟨k, hk⟩ := List.mem_iff_getElem?.mp horder
  have hvalue : (values.insertionSort (· ≤ ·))[k]? = some (values.getD i 0) := by
    rw [← gather_order argsort, gather, List.getElem?_map, hk]
    rfl
  obtain ⟨least, hleast⟩ : ∃ least,
      (minFrom (rankLevels (values.insertionSort (· ≤ ·))))[k]? = some least := by
    refine ⟨_, List.getElem?_eq_getElem ?_⟩
    rw [length_minFrom, rankLevels, List.length_mapIdx]
    exact (List.getElem?_eq_some_iff.mp hvalue).1
  have hget : (adjustedValues argsort values)[i]? = some (clip least) := by
    refine getElem?_scatter (nodup_order argsort) ?_ hk ?_
    · rw [List.length_replicate]
      exact hi
    · rw [List.getElem?_map, hleast]
      rfl
  have hstep := minFrom_rankLevels_le_iff hsorted (fun x hx => (hmem x hx).1) hvalue hleast level
  rw [List.getD_eq_getElem?_getD, hget, Option.getD_some, clip_le_iff, hstep]
  constructor
  · rintro (⟨hrejected, -⟩ | hone)
    · exact hrejected
    · exact rejected_of_one_le hsorted (fun x hx => (hmem x hx).2) hvalue hone
  · intro hrejected
    have hnonneg := (hmem _ (List.mem_of_getElem? hvalue)).1
    exact Or.inl ⟨hrejected, hnonneg.trans (hrejected.le fun x hx => (hmem x hx).1)⟩

theorem eq_of_levels {x y : ℚ} (h : ∀ level, x ≤ level ↔ y ≤ level) : x = y :=
  le_antisymm ((h y).mpr (le_refl y)) ((h x).mp (le_refl x))

/-- The p-values at some positions, each position taken once, are adjusted to the adjusted
values at these positions. -/
theorem adjustedValues_perm (hp : ∀ p ∈ values, 0 ≤ p ∧ p ≤ 1) {positions : List Nat}
    (hperm : positions.Perm (List.range values.length)) :
    adjustedValues argsort (gather values positions) =
      gather (adjustedValues argsort values) positions := by
  have hgather : (gather values positions).Perm values := by
    have hmap : (gather values positions).Perm (gather values (List.range values.length)) :=
      hperm.map _
    rw [gather_range] at hmap
    exact hmap
  have hsame : (gather values positions).insertionSort (· ≤ ·) = values.insertionSort (· ≤ ·) :=
    List.Perm.eq_of_pairwise (fun _ _ _ _ hab hba => le_antisymm hab hba)
      (List.pairwise_insertionSort _ _) (List.pairwise_insertionSort _ _)
      ((List.perm_insertionSort _ _).trans (hgather.trans (List.perm_insertionSort _ _).symm))
  have hlength : (gather values positions).length = positions.length := List.length_map _
  refine List.ext_getElem (by rw [length_adjustedValues, hlength, gather, List.length_map]) ?_
  intro i hleft hright
  have hi : i < positions.length := by
    rw [length_adjustedValues, hlength] at hleft
    exact hleft
  have hposition : positions[i] < values.length :=
    List.mem_range.mp (hperm.mem_iff.mp (List.getElem_mem hi))
  have hgathered : (gather values positions).getD i 0 = values.getD positions[i] 0 := by
    rw [List.getD_eq_getElem _ 0 (hlength ▸ hi)]
    exact List.getElem_map _
  refine eq_of_levels fun level => ?_
  have hfirst := adjusted_le_iff argsort (fun p hmem => hp p (hgather.mem_iff.mp hmem))
    (hlength ▸ hi) level
  rw [hsame, hgathered, ← adjusted_le_iff argsort hp hposition,
    List.getD_eq_getElem _ 0 hleft] at hfirst
  rw [hfirst]
  simp only [gather, List.getElem_map]

/-- The adjusted values are the step-up procedure: they are at most a level exactly where it
rejects, they lie between the p-values and one, keep the order of the p-values and follow
every permutation of them. -/
theorem benjamini_hochberg_step_up (argsort : Argsort) {values : List ℚ}
    (hp : ∀ p ∈ values, 0 ≤ p ∧ p ≤ 1) :
    ∃ adjusted, benjaminiHochberg argsort values = .ok adjusted ∧
      adjusted.length = values.length ∧
      (∀ i < values.length, ∀ level, adjusted.getD i 0 ≤ level ↔
        Rejected (values.insertionSort (· ≤ ·)) level (values.getD i 0)) ∧
      (∀ i < values.length, values.getD i 0 ≤ adjusted.getD i 0 ∧ adjusted.getD i 0 ≤ 1) ∧
      (∀ i < values.length, ∀ j < values.length, values.getD i 0 ≤ values.getD j 0 →
        adjusted.getD i 0 ≤ adjusted.getD j 0) ∧
      (∀ positions : List Nat, positions.Perm (List.range values.length) →
        benjaminiHochberg argsort (gather values positions) = .ok (gather adjusted positions)) := by
  have hlevels := fun i (hi : i < values.length) level =>
    adjusted_le_iff argsort hp hi level
  have hmem : ∀ i < values.length, values.getD i 0 ∈ values := by
    intro i hi
    rw [List.getD_eq_getElem values 0 hi]
    exact List.getElem_mem hi
  refine ⟨adjustedValues argsort values, benjaminiHochberg_eq hp, length_adjustedValues, hlevels,
    ?_, ?_, ?_⟩
  · intro i hi
    constructor
    · refine ((hlevels i hi _).mp (le_refl _)).le fun x hx => ?_
      exact (hp x ((List.mem_insertionSort _).mp hx)).1
    · have hsorted := List.pairwise_insertionSort (· ≤ ·) values
      have hfound : values.getD i 0 ∈ values.insertionSort (· ≤ ·) :=
        (List.mem_insertionSort _).mpr (hmem i hi)
      obtain ⟨k, hk⟩ := List.mem_iff_getElem?.mp hfound
      refine (hlevels i hi 1).mpr (rejected_of_one_le hsorted ?_ hk (le_refl 1))
      exact fun x hx => (hp x ((List.mem_insertionSort _).mp hx)).2
  · intro i hi j hj hle
    exact (hlevels i hi _).mpr (((hlevels j hj _).mp (le_refl _)).mono hle)
  · intro positions hperm
    have hgather : ∀ p ∈ gather values positions, 0 ≤ p ∧ p ≤ 1 := by
      intro p hfound
      obtain ⟨i, hi, rfl⟩ := List.mem_map.mp hfound
      exact hp _ (hmem i (List.mem_range.mp (hperm.mem_iff.mp hi)))
    rw [benjaminiHochberg_eq hgather, adjustedValues_perm hp hperm]

/-- Positions sorted by their values, equal values in the order of their positions. -/
def stableArgsort : Argsort where
  order values := KeyedSort.sortBy (fun i => values.getD i 0) (List.range values.length)
  perm _ := KeyedSort.perm_sortBy _ _
  sorted _ := List.pairwise_map.mpr (KeyedSort.pairwise_sortBy _ _)

def threeValues : List ℚ := [1 / 100, 1 / 20, 3 / 100]

theorem threeValues_within : ∀ p ∈ threeValues, 0 ≤ p ∧ p ≤ 1 := by
  intro p hp
  simp only [threeValues, List.mem_cons, List.not_mem_nil, or_false] at hp
  rcases hp with rfl | rfl | rfl <;> norm_num

theorem benjamini_hochberg_step_up_three :
    ∃ adjusted, benjaminiHochberg stableArgsort threeValues = .ok adjusted ∧
      adjusted.length = threeValues.length ∧
      (∀ i < threeValues.length, ∀ level, adjusted.getD i 0 ≤ level ↔
        Rejected (threeValues.insertionSort (· ≤ ·)) level (threeValues.getD i 0)) ∧
      (∀ i < threeValues.length,
        threeValues.getD i 0 ≤ adjusted.getD i 0 ∧ adjusted.getD i 0 ≤ 1) ∧
      (∀ i < threeValues.length, ∀ j < threeValues.length,
        threeValues.getD i 0 ≤ threeValues.getD j 0 →
          adjusted.getD i 0 ≤ adjusted.getD j 0) ∧
      (∀ positions : List Nat, positions.Perm (List.range threeValues.length) →
        benjaminiHochberg stableArgsort (gather threeValues positions) =
          .ok (gather adjusted positions)) :=
  benjamini_hochberg_step_up stableArgsort threeValues_within

end JlensEvolve.Statistics
