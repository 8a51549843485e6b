import Mathlib.Algebra.Order.Field.Rat
import Mathlib.Data.List.Dedup
import Mathlib.Data.List.Sort
import JlensEvolve.Library.Effect

/-!
The resampling statistics of `epistasis/analysis.py`. Floats are exact
rationals, and the generator is a parameter: `draw round i` is the number behind
the `i`-th `randrange` of a round, taken modulo its bound.
-/

namespace JlensEvolve.Statistics

open Library

/-- `round(a / d)`: halves go to the even neighbour. -/
def roundHalfEven (a d : Nat) : Nat :=
  if 2 * (a % d) < d then a / d
  else if d < 2 * (a % d) then a / d + 1
  else a / d + a / d % 2

/-- `int(round(q * (count - 1)))`, where `q` is a number of fortieths. -/
def quantilePosition (fortieths count : Nat) : Nat := roundHalfEven (fortieths * (count - 1)) 40

/-- The exceptions that leave the functions below. -/
inductive StatisticsError where
  | index
  | lengths
  | correlation
deriving DecidableEq

/-- `values[position]`. -/
def valueAt (values : List ℚ) (position : Nat) : Except StatisticsError ℚ :=
  match values[position]? with
  | some value => .ok value
  | none => .error .index

structure Interval where
  estimate : ℚ
  lower : ℚ
  upper : ℚ

/-- `[sample[rng.randrange(len(sample))] for _ in sample]`. -/
def resample {α : Type} (draw : Nat → Nat) (sample : List α) : List α :=
  (List.range sample.length).filterMap fun i => sample[draw i % sample.length]?

/-- `bootstrap_ci` at its level of 0.05; `none` where all three numbers are NaN. -/
def bootstrapCi (draw : Nat → Nat → Nat) (stat : List ℚ → ℚ) (nResamples : Nat)
    (values : List ℚ) : Except StatisticsError (Option Interval) :=
  if values = [] then .ok none
  else do
    let estimates := ((List.range nResamples).map fun round =>
      stat (resample (draw round) values)).insertionSort (· ≤ ·)
    let lower ← valueAt estimates (quantilePosition 1 nResamples)
    let upper ← valueAt estimates (quantilePosition 39 nResamples)
    return some ⟨stat values, lower, upper⟩

/-- What a resample of pairs adds to the estimates: nothing when a coordinate is
constant or the correlation raises. -/
def contribution (corr : List ℚ → List ℚ → Option ℚ) (sample : List (ℚ × ℚ)) : Option ℚ :=
  let xs := sample.map Prod.fst
  let ys := sample.map Prod.snd
  if xs.dedup.length < 2 ∨ ys.dedup.length < 2 then none else corr xs ys

/-- `bootstrap_correlation_ci`, with the correlation of the given kind: `none`
where it raises. -/
def bootstrapCorrelationCi (corr : List ℚ → List ℚ → Option ℚ) (draw : Nat → Nat → Nat)
    (nResamples : Nat) (x y : List ℚ) : Except StatisticsError Interval :=
  if x.length ≠ y.length then .error .lengths
  else if (x.zip y).length < 3 then .ok ⟨0, 0, 0⟩
  else do
    let estimates := ((List.range nResamples).filterMap fun round =>
      contribution corr (resample (draw round) (x.zip y))).insertionSort (· ≤ ·)
    let observed : Except StatisticsError ℚ := match corr x y with
      | some r => .ok r
      | none => .error .correlation
    if estimates = [] then
      return ⟨← observed, 0, 0⟩
    else
      let lower ← valueAt estimates (quantilePosition 1 nResamples)
      let upper ← valueAt estimates (quantilePosition 39 nResamples)
      return ⟨← observed, lower, upper⟩

def differences (values : List ℚ) : List ℚ := List.zipWith (fun before after => after - before)
  values values.tail

/-- `np.argmax`: the first place of the largest value. -/
def argmax (values : List ℚ) : Nat := values.idxOf (values.foldl max (values.headD 0))

/-- Where the curve bends upwards most, as a number of tasks. -/
def accelerationPeak (curve : List ℚ) : Nat := argmax (differences (differences curve)) + 2

/-- `changepoint_cumulative`. The interval is of the peaks of the resampled curves. -/
inductive Changepoint where
  | unsupported (reason : String)
  | supported (maxAccelerationIndex : Nat) (acceleration : ℚ) (cumulative : List ℚ)
      (lower upper median : Nat)

/-- The curve at the places drawn, in order. -/
def resampledCurve (draw : Nat → Nat) (curve : List ℚ) : List ℚ :=
  (((List.range curve.length).map fun i => draw i % curve.length).insertionSort (· ≤ ·)).filterMap
    fun i => curve[i]?

def changepointCumulative (draw : Nat → Nat → Nat) (nBootstrap : Nat) (cumulative : List ℚ) :
    Changepoint :=
  if cumulative.length < 3 then .unsupported "insufficient points"
  else
    let peak := accelerationPeak cumulative
    let peaks := ((List.range nBootstrap).map fun round =>
      accelerationPeak (resampledCurve (draw round) cumulative)).insertionSort (· ≤ ·)
    .supported peak ((differences (differences cumulative)).getD (peak - 2) 0) cumulative
      (peaks.getD (quantilePosition 2 peaks.length) 0)
      (peaks.getD (quantilePosition 38 peaks.length) 0) (peaks.getD (peaks.length / 2) 0)

theorem roundHalfEven_le (a d : Nat) : roundHalfEven a d ≤ a / d + 1 := by
  rw [roundHalfEven]
  split
  · omega
  · split
    · exact Nat.le_refl _
    · have := Nat.mod_lt (a / d) (by omega : 0 < 2)
      omega

theorem le_roundHalfEven (a d : Nat) : a / d ≤ roundHalfEven a d := by
  rw [roundHalfEven]
  split
  · exact Nat.le_refl _
  · split <;> omega

theorem roundHalfEven_mono {a b d : Nat} (h : a ≤ b) :
    roundHalfEven a d ≤ roundHalfEven b d := by
  rcases Nat.lt_or_eq_of_le (Nat.div_le_div_right (c := d) h) with hlt | heq
  · exact (roundHalfEven_le a d).trans ((Nat.succ_le_of_lt hlt).trans (le_roundHalfEven b d))
  · -- in one interval between whole numbers the remainders decide
    have hmod : a % d ≤ b % d := by
      have ha := Nat.div_add_mod a d
      have hb := Nat.div_add_mod b d
      rw [heq] at ha
      omega
    rw [roundHalfEven, roundHalfEven, heq]
    split
    · split
      · exact Nat.le_refl _
      · split <;> omega
    · have := Nat.mod_lt (b / d) (by omega : 0 < 2)
      split
      · split
        · omega
        · split <;> omega
      · split
        · omega
        · split <;> omega

theorem quantilePosition_mono {fortieths more : Nat} (h : fortieths ≤ more) (count : Nat) :
    quantilePosition fortieths count ≤ quantilePosition more count :=
  roundHalfEven_mono (Nat.mul_le_mul_right _ h)

theorem quantilePosition_lt {fortieths count : Nat} (h : fortieths ≤ 40) (hcount : 0 < count) :
    quantilePosition fortieths count < count := by
  have hmono := quantilePosition_mono h count
  have hlast : quantilePosition 40 count = count - 1 := by
    rw [quantilePosition, roundHalfEven, Nat.mul_mod_right, Nat.mul_div_cancel_left _ (by omega),
      if_pos (by omega)]
  omega

theorem valueAt_of_lt {values : List ℚ} {position : Nat} (h : position < values.length) :
    valueAt values position = .ok values[position] := by
  rw [valueAt, List.getElem?_eq_getElem h]

theorem valueAt_of_ge {values : List ℚ} {position : Nat} (h : values.length ≤ position) :
    valueAt values position = .error .index := by
  rw [valueAt, List.getElem?_eq_none h]

theorem getElem_le_of_sorted {values : List ℚ} (hsorted : values.Pairwise (· ≤ ·))
    {i j : Nat} (hij : i ≤ j) (hi : i < values.length) (hj : j < values.length) :
    values[i] ≤ values[j] := by
  rcases Nat.lt_or_eq_of_le hij with hlt | rfl
  · exact List.pairwise_iff_getElem.mp hsorted i j hi hj hlt
  · exact le_refl _

/-- The interval of a statistic of single values takes its quantiles of as many estimates as it
computes: it is never out of range. -/
theorem bootstrapCi_ok (draw : Nat → Nat → Nat) (stat : List ℚ → ℚ) {nResamples : Nat}
    (hn : 0 < nResamples) (values : List ℚ) :
    ∃ interval, bootstrapCi draw stat nResamples values = .ok interval ∧
      ∀ found ∈ interval, found.lower ≤ found.upper := by
  by_cases hnil : values = []
  · exact ⟨none, if_pos hnil, fun _ h => by cases h⟩
  · rw [bootstrapCi, if_neg hnil]
    generalize hestimates : ((List.range nResamples).map fun round =>
      stat (resample (draw round) values)).insertionSort (· ≤ ·) = estimates
    have hlength : estimates.length = nResamples := by
      rw [← hestimates, List.length_insertionSort, List.length_map, List.length_range]
    have hsorted : estimates.Pairwise (· ≤ ·) := hestimates ▸ List.pairwise_insertionSort _ _
    have hupper : quantilePosition 39 nResamples < estimates.length := by
      rw [hlength]
      exact quantilePosition_lt (by omega) hn
    have hle := quantilePosition_mono (by omega : 1 ≤ 39) nResamples
    have hlower := Nat.lt_of_le_of_lt hle hupper
    refine ⟨some ⟨stat values, estimates[quantilePosition 1 nResamples],
      estimates[quantilePosition 39 nResamples]⟩, ?_, ?_⟩
    · simp only [valueAt_of_lt hlower, valueAt_of_lt hupper]
      rfl
    · rintro found hfound
      obtain rfl := Option.some.inj hfound
      exact getElem_le_of_sorted hsorted hle _ hupper

variable (corr : List ℚ → List ℚ → Option ℚ) (draw : Nat → Nat → Nat)

/-- A resample that has two values in each coordinate and a correlation. -/
def usable (sample : List (ℚ × ℚ)) : Bool :=
  2 ≤ (sample.map Prod.fst).dedup.length && 2 ≤ (sample.map Prod.snd).dedup.length &&
    (corr (sample.map Prod.fst) (sample.map Prod.snd)).isSome

/-- How many of the resamples drawn are usable. -/
def usableCount (nResamples : Nat) (pairs : List (ℚ × ℚ)) : Nat :=
  (List.range nResamples).countP fun round => usable corr (resample (draw round) pairs)

theorem isSome_contribution (sample : List (ℚ × ℚ)) :
    (contribution corr sample).isSome = usable corr sample := by
  rw [contribution, usable]
  split
  · rename_i hconstant
    rcases hconstant with hfew | hfew
    · rw [decide_eq_false (by omega)]
      rfl
    · rw [decide_eq_false (p := 2 ≤ (sample.map Prod.snd).dedup.length) (by omega), Bool.and_false]
      rfl
  · rename_i hvaried
    rw [decide_eq_true (by omega), decide_eq_true (by omega)]
    rfl

theorem length_filterMap {α β : Type} (f : α → Option β) (items : List α) :
    (items.filterMap f).length = items.countP fun item => (f item).isSome := by
  induction items with
  | nil => rfl
  | cons item rest ih =>
    cases hitem : f item with
    | none => rw [List.filterMap_cons_none hitem, ih, List.countP_cons_of_neg (by rw [hitem]; simp)]
    | some value =>
      rw [List.filterMap_cons_some hitem, List.length_cons, ih,
        List.countP_cons_of_pos (by rw [hitem]; rfl)]

/-- The interval of a correlation is total and in order exactly when there are fewer than three
pairs, no resample is usable, or more resamples are usable than the upper quantile of all
resamples drawn needs. -/
theorem bootstrap_correlation_total_iff (nResamples : Nat) {x y : List ℚ}
    (h : x.length = y.length) :
    (bootstrapCorrelationCi corr draw nResamples x y ≠ .error .index ∧
        ∀ interval, bootstrapCorrelationCi corr draw nResamples x y = .ok interval →
          interval.lower ≤ interval.upper) ↔
      x.length < 3 ∨ usableCount corr draw nResamples (x.zip y) = 0 ∨
        quantilePosition 39 nResamples < usableCount corr draw nResamples (x.zip y) := by
  have hzip : (x.zip y).length = x.length := by
    rw [List.length_zip, ← h, Nat.min_self]
  rw [bootstrapCorrelationCi, if_neg (not_not.mpr h), hzip]
  by_cases hfew : x.length < 3
  · rw [if_pos hfew]
    refine iff_of_true ⟨by simp, fun interval hinterval => ?_⟩ (Or.inl hfew)
    obtain rfl := Except.ok.inj hinterval
    exact le_refl _
  · rw [if_neg hfew]
    generalize hestimates : ((List.range nResamples).filterMap fun round =>
      contribution corr (resample (draw round) (x.zip y))).insertionSort (· ≤ ·) = estimates
    have hlength : estimates.length = usableCount corr draw nResamples (x.zip y) := by
      rw [← hestimates, List.length_insertionSort, length_filterMap, usableCount]
      exact List.countP_congr fun round _ => by rw [isSome_contribution]
    have hsorted : estimates.Pairwise (· ≤ ·) := hestimates ▸ List.pairwise_insertionSort _ _
    rw [← hlength]
    have hle := quantilePosition_mono (by omega : 1 ≤ 39) nResamples
    by_cases hnone : estimates = []
    · simp only [if_pos hnone]
      refine iff_of_true ⟨?_, ?_⟩ (Or.inr (Or.inl (by rw [hnone]; rfl)))
      · intro hindex
        cases hcorr : corr x y with
        | none =>
            rw [hcorr] at hindex
            exact absurd (Except.error.inj hindex) (by decide)
        | some r => rw [hcorr] at hindex; cases hindex
      · intro interval hinterval
        cases hcorr : corr x y with
        | none => rw [hcorr] at hinterval; cases hinterval
        | some r =>
            rw [hcorr] at hinterval
            obtain rfl := Except.ok.inj hinterval
            exact le_refl _
    · simp only [if_neg hnone]
      have hpos : estimates.length ≠ 0 := fun hzero => hnone (List.length_eq_zero_iff.mp hzero)
      by_cases hupper : quantilePosition 39 nResamples < estimates.length
      · refine iff_of_true ?_ (Or.inr (Or.inr hupper))
        rw [valueAt_of_lt (Nat.lt_of_le_of_lt hle hupper), valueAt_of_lt hupper]
        constructor
        · intro hindex
          cases hcorr : corr x y with
          | none =>
              rw [hcorr] at hindex
              exact absurd (Except.error.inj hindex) (by decide)
          | some r => rw [hcorr] at hindex; cases hindex
        · intro interval hinterval
          cases hcorr : corr x y with
          | none => rw [hcorr] at hinterval; cases hinterval
          | some r =>
              rw [hcorr] at hinterval
              obtain rfl := Except.ok.inj hinterval
              exact getElem_le_of_sorted hsorted hle _ hupper
      · refine iff_of_false ?_ (by omega)
        rintro ⟨hindex, -⟩
        refine hindex ?_
        rw [valueAt_of_ge (by omega : estimates.length ≤ quantilePosition 39 nResamples)]
        by_cases hlower : quantilePosition 1 nResamples < estimates.length
        · rw [valueAt_of_lt hlower]
          rfl
        · rw [valueAt_of_ge (by omega)]
          rfl

/-- A list correlates perfectly with itself. -/
def selfCorrelation (xs ys : List ℚ) : Option ℚ := if xs = ys then some 1 else none

/-- What `random.Random(20260802)` draws for two resamples of three pairs. -/
def seededDraws (round i : Nat) : Nat := ([[0, 2, 0], [0, 0, 1]].getD round []).getD i 0

def repeatedValues : List ℚ := [0, 0, 1]

/-- The second resample is constant, so there is no second estimate for the upper bound. -/
theorem constant_resample_out_of_range :
    ¬∀ (corr : List ℚ → List ℚ → Option ℚ) (draw : Nat → Nat → Nat) (nResamples : Nat)
      (x y : List ℚ), x.length = y.length →
      bootstrapCorrelationCi corr draw nResamples x y ≠ .error .index ∧
        ∀ interval, bootstrapCorrelationCi corr draw nResamples x y = .ok interval →
          interval.lower ≤ interval.upper := by
  intro hall
  exact (hall selfCorrelation seededDraws 2 repeatedValues repeatedValues rfl).1 (by rfl)

theorem bootstrap_correlation_total_iff_repeated :
    (bootstrapCorrelationCi selfCorrelation seededDraws 2 repeatedValues repeatedValues ≠
          .error .index ∧
        ∀ interval, bootstrapCorrelationCi selfCorrelation seededDraws 2 repeatedValues
            repeatedValues = .ok interval → interval.lower ≤ interval.upper) ↔
      repeatedValues.length < 3 ∨
        usableCount selfCorrelation seededDraws 2 (repeatedValues.zip repeatedValues) = 0 ∨
        quantilePosition 39 2 <
          usableCount selfCorrelation seededDraws 2 (repeatedValues.zip repeatedValues) :=
  bootstrap_correlation_total_iff selfCorrelation seededDraws 2 rfl

end JlensEvolve.Statistics
