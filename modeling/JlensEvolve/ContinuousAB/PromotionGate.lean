import Mathlib.Data.String.Basic
import JlensEvolve.ContinuousAB.ChangeSetRegistry
import JlensEvolve.Library.SignTest

/-!
`PromotionGate.evaluate` of `continuous_ab.py`. Each check is monotone in what
the evolved arm resolves, so a task that the evolved arm resolves after all
takes no check away.
-/

namespace JlensEvolve.ContinuousAB

open Library

inductive Arm where
  | baseline
  | evolved
deriving DecidableEq, Repr

structure ArmResult where
  arm : Arm
  resolved : Bool
  regressionFailures : Nat
  safe : Bool
  inputTokens : Nat
  outputTokens : Nat
  benchmarkFamily : String
  evaluatorEpoch : String
  texts : benchmarkFamily ≠ "" ∧ evaluatorEpoch ≠ ""

def ArmResult.totalTokens (result : ArmResult) : Nat := result.inputTokens + result.outputTokens

/-- The float that Python's division of integers, or a literal, is rounded to. Rounding to
the nearest keeps the order; no more is used of it. -/
structure Rounding where
  toFloat : ℚ → ℚ
  monotone : Monotone toFloat

namespace PromotionGate

abbrev Pairs := List (ArmResult × ArmResult)

def checkPair (pair : ArmResult × ArmResult) : Except String Unit := do
  require (pair.1.arm = .baseline ∧ pair.2.arm = .evolved)
    "promotion pairs must be baseline/evolved"
  require (pair.1.evaluatorEpoch = pair.2.evaluatorEpoch) "promotion pair evaluator mismatch"
  require (pair.1.benchmarkFamily = pair.2.benchmarkFamily) "promotion pair benchmark mismatch"

def isWin (pair : ArmResult × ArmResult) : Bool := !pair.1.resolved && pair.2.resolved

def isLoss (pair : ArmResult × ArmResult) : Bool := pair.1.resolved && !pair.2.resolved

/-- `sign_p`, which is one where no pair is directional. -/
def signP (rounding : Rounding) (wins losses : Nat) : ℚ :=
  if wins + losses = 0 then rounding.toFloat 1
  else rounding.toFloat
    ((SignTest.upperTail (wins + losses) wins : ℚ) / 2 ^ (wins + losses))

def baselineResolved (pairs : Pairs) : Nat := pairs.countP fun pair => pair.1.resolved

def evolvedResolved (pairs : Pairs) : Nat := pairs.countP fun pair => pair.2.resolved

def uplift (rounding : Rounding) (pairs : Pairs) : ℚ :=
  rounding.toFloat (((evolvedResolved pairs : ℚ) - baselineResolved pairs) / pairs.length)

/-- `cost_ratio`; `none` is infinity. -/
def costRatio (rounding : Rounding) (pairs : Pairs) : Option ℚ :=
  let baselineTokens : Nat := (pairs.map fun pair => pair.1.totalTokens).sum
  let evolvedTokens : Nat := (pairs.map fun pair => pair.2.totalTokens).sum
  if baselineTokens = 0 then none
  else some (rounding.toFloat ((evolvedTokens : ℚ) / baselineTokens))

def families (pairs : Pairs) : List String :=
  (pairs.map fun pair => pair.1.benchmarkFamily).dedup.insertionSort (· ≤ ·)

/-- The pairs of one benchmark family. -/
def ofFamily (pairs : Pairs) (family : String) : Pairs :=
  pairs.filter fun pair => pair.1.benchmarkFamily = family

def familyNonregression (pairs : Pairs) : Bool :=
  (families pairs).all fun family =>
    baselineResolved (ofFamily pairs family) ≤ evolvedResolved (ofFamily pairs family)

/-- `cost_ratio <= 1.10 or uplift >= 0.10`. -/
def costGate (rounding : Rounding) (pairs : Pairs) : Bool :=
  (match costRatio rounding pairs with
    | some ratio => ratio ≤ rounding.toFloat (11 / 10)
    | none => false) ||
  rounding.toFloat (1 / 10) ≤ uplift rounding pairs

def checks (rounding : Rounding) (pairs : Pairs) : List (String × Bool) :=
  let wins := pairs.countP isWin
  let losses := pairs.countP isLoss
  [("complete_promotion_block", 10 ≤ pairs.length),
    ("wins_exceed_losses_by_three", (3 : Int) ≤ wins - losses),
    ("one_sided_exact_sign_p_lte_0_05", signP rounding wins losses ≤ rounding.toFloat (5 / 100)),
    ("benchmark_family_nonregression", familyNonregression pairs),
    ("regression_failures_nonincrease",
      (pairs.map fun pair => pair.2.regressionFailures).sum ≤
        (pairs.map fun pair => pair.1.regressionFailures).sum),
    ("candidate_safety_100_percent", pairs.all fun pair => pair.2.safe),
    ("cost_gate", costGate rounding pairs)]

def decision (rounding : Rounding) (pairs : Pairs) : PromotionDecision where
  approved := (checks rounding pairs).all fun check => check.2
  wins := pairs.countP isWin
  losses := pairs.countP isLoss
  ties := pairs.length - pairs.countP isWin - pairs.countP isLoss
  oneSidedSignP := signP rounding (pairs.countP isWin) (pairs.countP isLoss)
  qualityUplift := uplift rounding pairs
  costRatio := costRatio rounding pairs
  checks := checks rounding pairs

def evaluate (rounding : Rounding) (pairs : Pairs) : Except String PromotionDecision := do
  require (pairs ≠ []) "promotion requires paired results"
  pairs.forM checkPair
  return decision rounding pairs

/-- The same pair, with the evolved result resolved if it was not. -/
def Improves (pair better : ArmResult × ArmResult) : Prop :=
  better.1 = pair.1 ∧ (better.2 = pair.2 ∨ better.2 = { pair.2 with resolved := true })

/-- The same pairs, with some evolved results resolved that were not. -/
def Improved (pairs better : Pairs) : Prop := List.Forall₂ Improves pairs better

section Improving

variable {pair improved : ArmResult × ArmResult} {pairs better : Pairs}

theorem Improves.kept (h : Improves pair improved) :
    improved.1 = pair.1 ∧ improved.2.arm = pair.2.arm ∧
      improved.2.regressionFailures = pair.2.regressionFailures ∧
      improved.2.safe = pair.2.safe ∧ improved.2.totalTokens = pair.2.totalTokens ∧
      improved.2.benchmarkFamily = pair.2.benchmarkFamily ∧
      improved.2.evaluatorEpoch = pair.2.evaluatorEpoch := by
  obtain ⟨hbaseline, hsame | hresolved⟩ := h
  · rw [hsame]
    exact ⟨hbaseline, rfl, rfl, rfl, rfl, rfl, rfl⟩
  · rw [hresolved]
    exact ⟨hbaseline, rfl, rfl, rfl, rfl, rfl, rfl⟩

theorem Improves.resolved (h : Improves pair improved) (hresolved : pair.2.resolved = true) :
    improved.2.resolved = true := by
  obtain ⟨-, hsame | hbetter⟩ := h
  · rw [hsame, hresolved]
  · rw [hbetter]

theorem Improves.isWin (h : Improves pair improved) (hwin : isWin pair = true) :
    PromotionGate.isWin improved = true := by
  rw [PromotionGate.isWin, Bool.and_eq_true] at hwin ⊢
  rw [h.1]
  exact ⟨hwin.1, h.resolved hwin.2⟩

theorem Improves.isLoss (h : Improves pair improved) (hloss : isLoss improved = true) :
    PromotionGate.isLoss pair = true := by
  rw [PromotionGate.isLoss, Bool.and_eq_true, h.1] at hloss
  rw [PromotionGate.isLoss, Bool.and_eq_true]
  refine ⟨hloss.1, ?_⟩
  cases hpair : pair.2.resolved with
  | false => rfl
  | true =>
    rw [h.resolved hpair] at hloss
    exact absurd hloss.2 Bool.false_ne_true

theorem countP_le_of_forall₂ {α : Type} {related : α → α → Prop} {kind : α → Bool}
    {items others : List α} (h : List.Forall₂ related items others)
    (hkept : ∀ {item other}, related item other → kind item = true → kind other = true) :
    items.countP kind ≤ others.countP kind := by
  induction h with
  | nil => exact Nat.le_refl _
  | cons hfirst _ ih =>
    rw [List.countP_cons, List.countP_cons]
    split
    · rename_i hkind
      rw [if_pos (hkept hfirst hkind)]
      omega
    · omega

theorem map_eq_of_forall₂ {α β : Type} {related : α → α → Prop} {value : α → β}
    {items others : List α} (h : List.Forall₂ related items others)
    (hkept : ∀ {item other}, related item other → value other = value item) :
    others.map value = items.map value := by
  induction h with
  | nil => rfl
  | cons hfirst _ ih => rw [List.map_cons, List.map_cons, hkept hfirst, ih]

theorem exists_of_mem_right {α β : Type} {related : α → β → Prop} {items : List α}
    {others : List β} (h : List.Forall₂ related items others) {other : β}
    (hmem : other ∈ others) : ∃ item ∈ items, related item other := by
  induction h with
  | nil => exact absurd hmem List.not_mem_nil
  | cons hfirst _ ih =>
    obtain rfl | hrest := List.mem_cons.mp hmem
    · exact ⟨_, List.mem_cons_self, hfirst⟩
    · obtain ⟨item, hitem, hrelated⟩ := ih hrest
      exact ⟨item, List.mem_cons_of_mem _ hitem, hrelated⟩

theorem exists_of_mem_left {α β : Type} {related : α → β → Prop} {items : List α}
    {others : List β} (h : List.Forall₂ related items others) {item : α} (hmem : item ∈ items) :
    ∃ other ∈ others, related item other := by
  have hflip : List.Forall₂ (fun other item => related item other) others items :=
    List.Forall₂.flip h
  exact exists_of_mem_right hflip hmem

theorem Improved.wins (h : Improved pairs better) :
    pairs.countP isWin ≤ better.countP isWin :=
  countP_le_of_forall₂ h fun hpair hwin => hpair.isWin hwin

theorem Improved.losses (h : Improved pairs better) :
    better.countP isLoss ≤ pairs.countP isLoss := by
  have hflip : List.Forall₂ (fun better pair => Improves pair better) better pairs :=
    List.Forall₂.flip h
  exact countP_le_of_forall₂ hflip fun hpair hloss => hpair.isLoss hloss

theorem Improved.evolvedResolved (h : Improved pairs better) :
    evolvedResolved pairs ≤ PromotionGate.evolvedResolved better :=
  countP_le_of_forall₂ h fun hpair hresolved => hpair.resolved hresolved

theorem Improved.baselines (h : Improved pairs better) :
    better.map Prod.fst = pairs.map Prod.fst :=
  map_eq_of_forall₂ h fun hpair => hpair.1

theorem Improved.baselineResolved (h : Improved pairs better) :
    baselineResolved better = PromotionGate.baselineResolved pairs := by
  have hcount : ∀ items : Pairs, PromotionGate.baselineResolved items =
      (items.map Prod.fst).countP fun baseline => baseline.resolved := by
    intro items
    rw [List.countP_map]
    rfl
  rw [hcount, hcount, h.baselines]

theorem Improved.families (h : Improved pairs better) :
    families better = PromotionGate.families pairs := by
  have hfamily : ∀ items : Pairs, items.map (fun pair => pair.1.benchmarkFamily) =
      (items.map Prod.fst).map fun baseline => baseline.benchmarkFamily := by
    intro items
    rw [List.map_map]
    rfl
  rw [PromotionGate.families, hfamily, h.baselines, ← hfamily, PromotionGate.families]

theorem Improved.ofFamily (h : Improved pairs better) (family : String) :
    Improved (ofFamily pairs family) (PromotionGate.ofFamily better family) := by
  unfold PromotionGate.ofFamily
  induction h with
  | nil => exact List.Forall₂.nil
  | cons hfirst _ ih =>
    rw [List.filter_cons, List.filter_cons, hfirst.1]
    split
    · exact List.Forall₂.cons hfirst ih
    · exact ih

variable (rounding : Rounding)

theorem signP_eq (wins losses : Nat) :
    signP rounding wins losses = rounding.toFloat (SignTest.pValue wins losses) := by
  unfold signP
  split
  · rename_i hnone
    obtain ⟨rfl, rfl⟩ : wins = 0 ∧ losses = 0 := by omega
    rw [SignTest.pValue_no_trials]
  · rfl

theorem Improved.signP (h : Improved pairs better) :
    signP rounding (better.countP isWin) (better.countP isLoss) ≤
      PromotionGate.signP rounding (pairs.countP isWin) (pairs.countP isLoss) := by
  rw [signP_eq, signP_eq]
  exact rounding.monotone (SignTest.pValue_mono h.wins h.losses)

theorem Improved.uplift (h : Improved pairs better) :
    uplift rounding pairs ≤ PromotionGate.uplift rounding better := by
  have hcount : (PromotionGate.evolvedResolved pairs : ℚ) ≤
      PromotionGate.evolvedResolved better := by
    exact_mod_cast h.evolvedResolved
  rw [PromotionGate.uplift, PromotionGate.uplift, h.baselineResolved, ← h.length_eq]
  refine rounding.monotone (div_le_div_of_nonneg_right (sub_le_sub_right hcount _) ?_)
  exact Nat.cast_nonneg _

theorem Improved.costRatio (h : Improved pairs better) :
    costRatio rounding better = PromotionGate.costRatio rounding pairs := by
  have hbaseline : better.map (fun pair => pair.1.totalTokens) =
      pairs.map fun pair => pair.1.totalTokens :=
    map_eq_of_forall₂ h fun hpair => by rw [hpair.1]
  have hevolved : better.map (fun pair => pair.2.totalTokens) =
      pairs.map fun pair => pair.2.totalTokens :=
    map_eq_of_forall₂ h fun hpair => hpair.kept.2.2.2.2.1
  rw [PromotionGate.costRatio, hbaseline, hevolved, PromotionGate.costRatio]

theorem Improved.familyNonregression (h : Improved pairs better)
    (hkept : familyNonregression pairs = true) :
    PromotionGate.familyNonregression better = true := by
  unfold PromotionGate.familyNonregression at hkept ⊢
  rw [List.all_eq_true] at hkept ⊢
  intro family hfamily
  rw [h.families] at hfamily
  have hfamilyKept := of_decide_eq_true (hkept family hfamily)
  have hmore := (h.ofFamily family).evolvedResolved
  rw [(h.ofFamily family).baselineResolved, decide_eq_true_eq]
  omega

theorem Improved.costGate (h : Improved pairs better) (hgate : costGate rounding pairs = true) :
    PromotionGate.costGate rounding better = true := by
  have huplift := h.uplift rounding
  unfold PromotionGate.costGate at hgate ⊢
  rw [h.costRatio]
  rw [Bool.or_eq_true] at hgate ⊢
  refine hgate.imp_right fun hquality => ?_
  rw [decide_eq_true_eq] at hquality ⊢
  exact hquality.trans huplift

theorem Improved.checks (h : Improved pairs better) :
    List.Forall₂ (fun check kept => kept.1 = check.1 ∧ (check.2 = true → kept.2 = true))
      (checks rounding pairs) (PromotionGate.checks rounding better) := by
  have hlength := h.length_eq
  have hwins := h.wins
  have hlosses := h.losses
  have hsign := h.signP rounding
  have hfailures : better.map (fun pair => pair.2.regressionFailures) =
      pairs.map fun pair => pair.2.regressionFailures :=
    map_eq_of_forall₂ h fun hpair => hpair.kept.2.2.1
  have hbaselines : better.map (fun pair => pair.1.regressionFailures) =
      pairs.map fun pair => pair.1.regressionFailures :=
    map_eq_of_forall₂ h fun hpair => by rw [hpair.1]
  have hsafe : better.all (fun pair => pair.2.safe) = pairs.all fun pair => pair.2.safe := by
    have hmap : better.map (fun pair => pair.2.safe) = pairs.map fun pair => pair.2.safe :=
      map_eq_of_forall₂ h fun hpair => hpair.kept.2.2.2.1
    have hall : ∀ items : Pairs, (items.all fun pair => pair.2.safe) =
        (items.map fun pair => pair.2.safe).all id := by
      intro items
      rw [List.all_map]
      rfl
    rw [hall, hall, hmap]
  unfold PromotionGate.checks
  refine .cons ⟨rfl, ?_⟩ (.cons ⟨rfl, ?_⟩ (.cons ⟨rfl, ?_⟩ (.cons ⟨rfl, ?_⟩ (.cons ⟨rfl, ?_⟩
    (.cons ⟨rfl, ?_⟩ (.cons ⟨rfl, ?_⟩ .nil))))))
  · simp only [decide_eq_true_eq]
    omega
  · simp only [decide_eq_true_eq]
    omega
  · simp only [decide_eq_true_eq]
    exact hsign.trans
  · exact h.familyNonregression
  · rw [hfailures, hbaselines]
    exact id
  · rw [hsafe]
    exact id
  · exact h.costGate rounding

theorem Improves.checkPair (h : Improves pair improved) :
    checkPair improved = PromotionGate.checkPair pair := by
  obtain ⟨hbaseline, harm, -, -, -, hfamily, hepoch⟩ := h.kept
  simp only [PromotionGate.checkPair, require, hbaseline, harm, hfamily, hepoch]

end Improving

/-- Where some evolved results are resolved after all, the gate still returns, its p-value is
no higher, no check is lost, and what it approved it still approves. -/
theorem evaluate_monotone (rounding : Rounding) (pairs better : Pairs)
    (decision : PromotionDecision) (hevaluated : evaluate rounding pairs = .ok decision)
    (himproved : Improved pairs better) :
    ∃ improved, evaluate rounding better = .ok improved ∧
      improved.oneSidedSignP ≤ decision.oneSidedSignP ∧
      (∀ name, (name, true) ∈ decision.checks → (name, true) ∈ improved.checks) ∧
      (decision.approved = true → improved.approved = true) := by
  simp only [evaluate, except_bind_ok_iff, require_ok_iff, forM_ok_iff] at hevaluated
  obtain ⟨_, hne, _, hpairs, hdecision⟩ := hevaluated
  cases hdecision
  have hchecks := himproved.checks rounding
  refine ⟨PromotionGate.decision rounding better, ?_, himproved.signP rounding, ?_, ?_⟩
  · simp only [evaluate, except_bind_ok_iff, require_ok_iff, forM_ok_iff]
    refine ⟨(), ?_, (), ?_, rfl⟩
    · rintro rfl
      exact hne (List.forall₂_nil_right_iff.mp himproved)
    · intro pair hmem
      obtain ⟨original, horiginal, himproves⟩ := exists_of_mem_right himproved hmem
      rw [himproves.checkPair]
      exact hpairs original horiginal
  · intro name hname
    obtain ⟨kept, hkept, hsame, hholds⟩ := exists_of_mem_left hchecks hname
    have hkeptEq : kept = (name, true) := Prod.ext hsame (hholds rfl)
    exact hkeptEq ▸ hkept
  · intro happroved
    have hall := List.all_eq_true.mp happroved
    refine List.all_eq_true.mpr fun kept hkept => ?_
    obtain ⟨check, hcheck, -, hholds⟩ := exists_of_mem_right hchecks hkept
    exact hholds (hall check hcheck)

theorem sample_texts : "swe" ≠ "" ∧ "epoch-1" ≠ "" := by decide

/-- A result of the family that costs one token. -/
def sampleResult (arm : Arm) (resolved : Bool) : ArmResult where
  arm := arm
  resolved := resolved
  regressionFailures := 0
  safe := true
  inputTokens := 1
  outputTokens := 0
  benchmarkFamily := "swe"
  evaluatorEpoch := "epoch-1"
  texts := sample_texts

/-- Nine tasks that only the evolved arm resolves, and one more of which it may. -/
def samplePairs (last : Bool) : Pairs :=
  (sampleResult .baseline false, sampleResult .evolved last) ::
    List.replicate 9 (sampleResult .baseline false, sampleResult .evolved true)

/-- Floats that are never rounded. -/
def exact : Rounding := ⟨id, monotone_id⟩

theorem samplePairs_improved : Improved (samplePairs false) (samplePairs true) := by
  refine List.Forall₂.cons ⟨rfl, Or.inr rfl⟩ (List.forall₂_same.mpr ?_)
  exact fun pair _ => ⟨rfl, Or.inl rfl⟩

theorem evaluate_samplePairs :
    evaluate exact (samplePairs false) = .ok (decision exact (samplePairs false)) := by
  simp only [evaluate, except_bind_ok_iff, require_ok_iff, forM_ok_iff]
  refine ⟨(), List.cons_ne_nil _ _, (), fun pair hmem => ?_, rfl⟩
  obtain rfl | hrest := List.mem_cons.mp hmem
  · rfl
  · rw [List.eq_of_mem_replicate hrest]
    rfl

theorem one_more_resolved :
    (decision exact (samplePairs false)).approved = true ∧
      ∃ improved, evaluate exact (samplePairs true) = .ok improved ∧
        improved.oneSidedSignP ≤ (decision exact (samplePairs false)).oneSidedSignP ∧
        improved.approved = true := by
  have happroved : (decision exact (samplePairs false)).approved = true := by decide +kernel
  obtain ⟨improved, hevaluated, hsign, -, hkept⟩ :=
    evaluate_monotone exact (samplePairs false) (samplePairs true) _ evaluate_samplePairs
      samplePairs_improved
  exact ⟨happroved, improved, hevaluated, hsign, hkept happroved⟩

end PromotionGate

end JlensEvolve.ContinuousAB
