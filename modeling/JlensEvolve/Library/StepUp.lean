import Mathlib.Algebra.Order.Field.Basic
import Mathlib.Algebra.Order.Field.Rat
import Mathlib.Data.List.GetD
import Mathlib.Data.List.Sort
import Mathlib.Tactic.FieldSimp
import Mathlib.Tactic.Positivity
import Mathlib.Tactic.Linarith

/-!
Step-up procedures. Of `n` values in order, the `k`-th smallest is compared with
`α * k / n`, and every value up to the last one that passes is rejected. The
least level that rejects a value is a minimum over the ranks behind it, which a
running minimum from the right gives for all values at once.
-/

namespace JlensEvolve.Library.StepUp

section RunningMin

variable {α : Type} [LinearOrder α]

/-- `minimum.accumulate`: the minimum of the elements so far. -/
def runningMin : List α → List α
  | [] => []
  | x :: rest => x :: (runningMin rest).map (min x)

theorem length_runningMin (values : List α) : (runningMin values).length = values.length := by
  induction values with
  | nil => rfl
  | cons x rest ih => rw [runningMin, List.length_cons, List.length_map, ih, List.length_cons]

theorem runningMin_le_iff {values : List α} {k : Nat} {least : α}
    (h : (runningMin values)[k]? = some least) (bound : α) :
    least ≤ bound ↔ ∃ j ≤ k, ∃ x, values[j]? = some x ∧ x ≤ bound := by
  induction values generalizing k least with
  | nil => cases h
  | cons x rest ih =>
    cases k with
    | zero =>
      obtain rfl : x = least := Option.some.inj h
      constructor
      · exact fun hle => ⟨0, Nat.le_refl 0, x, rfl, hle⟩
      · rintro ⟨j, hj, y, hy, hle⟩
        obtain rfl := Nat.le_zero.mp hj
        obtain rfl : x = y := Option.some.inj hy
        exact hle
    | succ k =>
      rw [runningMin, List.getElem?_cons_succ, List.getElem?_map, Option.map_eq_some_iff] at h
      obtain ⟨later, hlater, rfl⟩ := h
      rw [min_le_iff, ih hlater]
      constructor
      · rintro (hle | ⟨j, hj, y, hy, hle⟩)
        · exact ⟨0, Nat.zero_le _, x, rfl, hle⟩
        · exact ⟨j + 1, Nat.succ_le_succ hj, y, hy, hle⟩
      · rintro ⟨j, hj, y, hy, hle⟩
        cases j with
        | zero =>
          obtain rfl : x = y := Option.some.inj hy
          exact Or.inl hle
        | succ j => exact Or.inr ⟨j, Nat.le_of_succ_le_succ hj, y, hy, hle⟩

/-- The running minimum from the right. -/
def minFrom (values : List α) : List α := (runningMin values.reverse).reverse

theorem length_minFrom (values : List α) : (minFrom values).length = values.length := by
  rw [minFrom, List.length_reverse, length_runningMin, List.length_reverse]

theorem minFrom_le_iff {values : List α} {k : Nat} {least : α}
    (h : (minFrom values)[k]? = some least) (bound : α) :
    least ≤ bound ↔ ∃ j, k ≤ j ∧ ∃ x, values[j]? = some x ∧ x ≤ bound := by
  have hk : k < values.length := by
    rw [← length_minFrom]
    exact (List.getElem?_eq_some_iff.mp h).1
  have hlength : (runningMin values.reverse).length = values.length := by
    rw [length_runningMin, List.length_reverse]
  rw [minFrom, List.getElem?_reverse (by omega), hlength] at h
  rw [runningMin_le_iff h]
  constructor
  · rintro ⟨j, hj, x, hx, hle⟩
    rw [List.getElem?_reverse (by omega)] at hx
    exact ⟨values.length - 1 - j, by omega, x, hx, hle⟩
  · rintro ⟨j, hj, x, hx, hle⟩
    have hlt : j < values.length := (List.getElem?_eq_some_iff.mp hx).1
    refine ⟨values.length - 1 - j, by omega, x, ?_, hle⟩
    rw [List.getElem?_reverse (by omega)]
    have hback : values.length - 1 - (values.length - 1 - j) = j := by omega
    rw [hback]
    exact hx

theorem le_of_sorted {sorted : List α} (hsorted : sorted.Pairwise (· ≤ ·)) {i j : Nat}
    {x y : α} (hij : i ≤ j) (hx : sorted[i]? = some x) (hy : sorted[j]? = some y) : x ≤ y := by
  obtain ⟨hi, rfl⟩ := List.getElem?_eq_some_iff.mp hx
  obtain ⟨hj, rfl⟩ := List.getElem?_eq_some_iff.mp hy
  rcases Nat.lt_or_eq_of_le hij with hlt | rfl
  · exact List.pairwise_iff_getElem.mp hsorted i j hi hj hlt
  · exact le_refl _

end RunningMin

section Rule

variable {K : Type} [Field K] {sorted : List K}

/-- The level at which each rank alone would pass. -/
def rankLevels (sorted : List K) : List K :=
  sorted.mapIdx fun k x => x * sorted.length / (k + 1 : Nat)

theorem getElem?_rankLevels {k : Nat} {level : K} :
    (rankLevels sorted)[k]? = some level ↔
      ∃ x, sorted[k]? = some x ∧ level = x * sorted.length / (k + 1 : Nat) := by
  rw [rankLevels, List.getElem?_mapIdx, Option.map_eq_some_iff]
  exact exists_congr fun x => and_congr_right fun _ => eq_comm

variable [LinearOrder K]

/-- A value is rejected at a level: some rank passes whose value is not below it. -/
def Rejected (sorted : List K) (level value : K) : Prop :=
  ∃ k x, sorted[k]? = some x ∧ x ≤ level * (k + 1 : Nat) / sorted.length ∧ value ≤ x

theorem Rejected.mono {level value smaller : K} (h : Rejected sorted level value)
    (hle : smaller ≤ value) : Rejected sorted level smaller := by
  obtain ⟨k, x, hx, hpass, hvalue⟩ := h
  exact ⟨k, x, hx, hpass, hle.trans hvalue⟩

variable [IsStrictOrderedRing K]

theorem rankLevel_le_iff {n k : Nat} (hn : 0 < n) (x level : K) :
    x * n / (k + 1 : Nat) ≤ level ↔ x ≤ level * (k + 1 : Nat) / n := by
  have hn' : (0 : K) < n := Nat.cast_pos.mpr hn
  have hk : (0 : K) < (k + 1 : Nat) := Nat.cast_pos.mpr (Nat.succ_pos k)
  rw [div_le_iff₀ hk, le_div_iff₀ hn']

/-- The least level over the ranks from a value's own on is where the rule starts to reject it. -/
theorem minFrom_rankLevels_le_iff (hsorted : sorted.Pairwise (· ≤ ·))
    (hnonneg : ∀ x ∈ sorted, 0 ≤ x) {k : Nat} {value least : K} (hvalue : sorted[k]? = some value)
    (hleast : (minFrom (rankLevels sorted))[k]? = some least) (level : K) :
    least ≤ level ↔ Rejected sorted level value := by
  obtain ⟨hk, -⟩ := List.getElem?_eq_some_iff.mp hvalue
  have hpos : 0 < sorted.length := Nat.lt_of_le_of_lt (Nat.zero_le k) hk
  rw [minFrom_le_iff hleast]
  constructor
  · rintro ⟨j, hj, passing, hpassing, hle⟩
    obtain ⟨x, hx, rfl⟩ := getElem?_rankLevels.mp hpassing
    exact ⟨j, x, hx, (rankLevel_le_iff hpos x level).mp hle, le_of_sorted hsorted hj hvalue hx⟩
  · rintro ⟨j, x, hx, hpass, hle⟩
    rcases Nat.lt_or_ge j k with hlt | hge
    · -- the passing rank is in front: its value is the same, and a later rank passes as well
      have hsame : value = x := le_antisymm hle (le_of_sorted hsorted hlt.le hx hvalue)
      have hlength : (0 : K) < sorted.length := Nat.cast_pos.mpr hpos
      have hlevel : 0 ≤ level := by
        have hzero : 0 ≤ level * (j + 1 : Nat) / sorted.length :=
          (hnonneg x (List.mem_of_getElem? hx)).trans hpass
        have hj : (0 : K) < (j + 1 : Nat) := Nat.cast_pos.mpr (Nat.succ_pos j)
        rw [le_div_iff₀ hlength, zero_mul] at hzero
        exact nonneg_of_mul_nonneg_left hzero hj
      have hgrow : level * (j + 1 : Nat) / sorted.length ≤ level * (k + 1 : Nat) / sorted.length := by
        have hcast : ((j + 1 : Nat) : K) ≤ (k + 1 : Nat) := Nat.cast_le.mpr (by omega)
        exact div_le_div_of_nonneg_right (mul_le_mul_of_nonneg_left hcast hlevel) hlength.le
      refine ⟨k, Nat.le_refl k, _, getElem?_rankLevels.mpr ⟨value, hvalue, rfl⟩, ?_⟩
      rw [rankLevel_le_iff hpos, hsame]
      exact hpass.trans hgrow
    · exact ⟨j, hge, _, getElem?_rankLevels.mpr ⟨x, hx, rfl⟩,
        (rankLevel_le_iff hpos x level).mpr hpass⟩

theorem Rejected.le (hnonneg : ∀ x ∈ sorted, 0 ≤ x) {level value : K}
    (h : Rejected sorted level value) : value ≤ level := by
  obtain ⟨k, x, hx, hpass, hvalue⟩ := h
  obtain ⟨hk, -⟩ := List.getElem?_eq_some_iff.mp hx
  have hlength : (0 : K) < sorted.length := Nat.cast_pos.mpr (Nat.lt_of_le_of_lt (Nat.zero_le k) hk)
  have hrank : (0 : K) < (k + 1 : Nat) := Nat.cast_pos.mpr (Nat.succ_pos k)
  have hshare : ((k + 1 : Nat) : K) ≤ sorted.length := Nat.cast_le.mpr hk
  rw [le_div_iff₀ hlength] at hpass
  have hlevel : 0 ≤ level := by
    have hzero : 0 ≤ level * (k + 1 : Nat) :=
      (mul_nonneg (hnonneg x (List.mem_of_getElem? hx)) hlength.le).trans hpass
    exact nonneg_of_mul_nonneg_left hzero hrank
  refine hvalue.trans (le_of_mul_le_mul_right ?_ hlength)
  exact hpass.trans (mul_le_mul_of_nonneg_left hshare hlevel)

theorem rejected_of_one_le (hsorted : sorted.Pairwise (· ≤ ·)) (hone : ∀ x ∈ sorted, x ≤ 1)
    {k : Nat} {value level : K} (hvalue : sorted[k]? = some value) (hlevel : 1 ≤ level) :
    Rejected sorted level value := by
  obtain ⟨hk, -⟩ := List.getElem?_eq_some_iff.mp hvalue
  have hpos : sorted.length - 1 < sorted.length := by omega
  have hlast : sorted[sorted.length - 1]? = some sorted[sorted.length - 1] :=
    List.getElem?_eq_getElem hpos
  refine ⟨sorted.length - 1, _, hlast, ?_, le_of_sorted hsorted (by omega) hvalue hlast⟩
  have hlength : (0 : K) < sorted.length := Nat.cast_pos.mpr (by omega)
  have hcount : sorted.length - 1 + 1 = sorted.length := by omega
  rw [hcount, mul_div_cancel_right₀ level hlength.ne']
  exact (hone _ (List.getElem_mem _)).trans hlevel

end Rule

end JlensEvolve.Library.StepUp
