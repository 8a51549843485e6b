import Mathlib.Algebra.BigOperators.Intervals
import Mathlib.Algebra.Order.BigOperators.Group.Finset
import Mathlib.Algebra.Order.Field.Rat
import Mathlib.Data.Nat.Choose.Basic
import Mathlib.Tactic.Ring
import Mathlib.Data.Nat.Choose.Sum
import Mathlib.Order.Monotone.Basic
import Mathlib.Tactic.NormNum
import Mathlib.Tactic.Positivity

/-!
The upper tail of the symmetric binomial distribution, which is what a one-sided
sign test computes of its wins and losses. One more win lowers it, one loss less
lowers it.
-/

namespace JlensEvolve.Library.SignTest

/-- The number of outcomes of `trials` coins with at least `wins` heads. -/
def upperTail (trials wins : Nat) : Nat :=
  ((List.range' wins (trials + 1 - wins)).map fun successes => trials.choose successes).sum

theorem upperTail_eq_sum (trials wins : Nat) :
    upperTail trials wins = ∑ successes ∈ Finset.Icc wins trials, trials.choose successes := by
  rw [upperTail, Nat.Icc_eq_range']
  rfl

theorem upperTail_succ_succ (trials wins : Nat) :
    upperTail (trials + 1) (wins + 1) = upperTail trials wins + upperTail trials (wins + 1) := by
  have hshift : ∀ count : Nat → Nat, ∑ k ∈ Finset.Icc (wins + 1) (trials + 1), count k =
      ∑ k ∈ Finset.Icc wins trials, count (k + 1) := by
    intro count
    rw [← Finset.map_add_right_Icc, Finset.sum_map]
    rfl
  have htop : ∑ k ∈ Finset.Icc (wins + 1) (trials + 1), trials.choose k =
      ∑ k ∈ Finset.Icc (wins + 1) trials, trials.choose k := by
    obtain hlt | hle := Nat.lt_or_ge (trials + 1) (wins + 1)
    · rw [Finset.Icc_eq_empty (by omega), Finset.Icc_eq_empty (by omega)]
    · rw [Finset.sum_Icc_succ_top hle, Nat.choose_succ_self, Nat.add_zero]
  rw [upperTail_eq_sum, upperTail_eq_sum, upperTail_eq_sum, hshift, ← htop, hshift,
    ← Finset.sum_add_distrib]
  exact Finset.sum_congr rfl fun k _ => Nat.choose_succ_succ trials k

theorem upperTail_mono_wins (trials wins : Nat) :
    upperTail trials (wins + 1) ≤ upperTail trials wins := by
  rw [upperTail_eq_sum, upperTail_eq_sum]
  exact Finset.sum_le_sum_of_subset (Finset.Icc_subset_Icc_left (Nat.le_succ wins))

theorem upperTail_zero (trials : Nat) : upperTail trials 0 = 2 ^ trials := by
  rw [upperTail_eq_sum, ← Nat.range_succ_eq_Icc_zero]
  exact Nat.sum_range_choose trials

theorem upperTail_win (trials wins : Nat) :
    upperTail (trials + 1) (wins + 1) ≤ 2 * upperTail trials wins := by
  have hmono := upperTail_mono_wins trials wins
  rw [upperTail_succ_succ]
  omega

theorem upperTail_loss (trials wins : Nat) :
    2 * upperTail trials wins ≤ upperTail (trials + 1) wins := by
  cases wins with
  | zero =>
    rw [upperTail_zero, upperTail_zero, pow_succ, Nat.mul_comm]
  | succ wins =>
    have hmono := upperTail_mono_wins trials wins
    rw [upperTail_succ_succ]
    omega

/-- The share of the outcomes with at least `wins` heads among as many trials as there are
wins and losses. -/
def pValue (wins losses : Nat) : ℚ := upperTail (wins + losses) wins / 2 ^ (wins + losses)

theorem div_two_pow_le {first second trials : Nat} (h : first ≤ 2 * second) :
    (first : ℚ) / 2 ^ (trials + 1) ≤ second / 2 ^ trials := by
  have hpos : (0 : ℚ) < 2 ^ trials := by positivity
  have hcast : (first : ℚ) ≤ 2 * second := by exact_mod_cast h
  rw [div_le_div_iff₀ (by positivity) hpos, pow_succ]
  calc (first : ℚ) * 2 ^ trials ≤ 2 * second * 2 ^ trials :=
        mul_le_mul_of_nonneg_right hcast hpos.le
    _ = second * (2 ^ trials * 2) := by ring

theorem le_div_two_pow {first second trials : Nat} (h : 2 * first ≤ second) :
    (first : ℚ) / 2 ^ trials ≤ second / 2 ^ (trials + 1) := by
  have hpos : (0 : ℚ) < 2 ^ trials := by positivity
  have hcast : 2 * (first : ℚ) ≤ second := by exact_mod_cast h
  rw [div_le_div_iff₀ hpos (by positivity), pow_succ]
  calc (first : ℚ) * (2 ^ trials * 2) = 2 * first * 2 ^ trials := by ring
    _ ≤ second * 2 ^ trials := mul_le_mul_of_nonneg_right hcast hpos.le

theorem pValue_win (wins losses : Nat) : pValue (wins + 1) losses ≤ pValue wins losses := by
  rw [pValue, pValue, Nat.add_right_comm]
  exact div_two_pow_le (upperTail_win _ _)

theorem pValue_loss (wins losses : Nat) : pValue wins losses ≤ pValue wins (losses + 1) := by
  rw [pValue, pValue, ← Nat.add_assoc]
  exact le_div_two_pow (upperTail_loss _ _)

theorem pValue_mono {wins losses wins' losses' : Nat} (hwins : wins ≤ wins')
    (hlosses : losses' ≤ losses) : pValue wins' losses' ≤ pValue wins losses := by
  have hmoreWins : pValue wins' losses' ≤ pValue wins losses' :=
    antitone_nat_of_succ_le (f := fun count => pValue count losses')
      (fun count => pValue_win count losses') hwins
  have hfewerLosses : pValue wins losses' ≤ pValue wins losses :=
    monotone_nat_of_le_succ (f := fun count => pValue wins count)
      (fun count => pValue_loss wins count) hlosses
  exact hmoreWins.trans hfewerLosses

theorem pValue_no_trials : pValue 0 0 = 1 := by
  rw [pValue, upperTail_zero]
  norm_num

end JlensEvolve.Library.SignTest
