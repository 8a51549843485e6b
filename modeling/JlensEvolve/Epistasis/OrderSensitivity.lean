import JlensEvolve.Epistasis.Experiments

/-!
What the analysis says about the order of two operators. The plan runs both
orders as cells of their own, but the analysis sorts the pair before it looks
either of them up, so it compares one cell with itself.
-/

namespace JlensEvolve.Epistasis

open Library

variable {Records Output : Type} [BEq Output] (sandbox : Sandbox Records Output)

theorem sortedIds_swap (first second : String) :
    sortedIds [first, second] = sortedIds [second, first] := by
  rcases le_total first second with hle | hle
  · rcases hle.eq_or_lt with rfl | hlt
    · rfl
    · simp [sortedIds, List.insertionSort, hle, not_le.mpr hlt]
  · rcases hle.eq_or_lt with rfl | hlt
    · rfl
    · simp [sortedIds, List.insertionSort, hle, not_le.mpr hlt]

theorem orderSensitive_pairRow (results : Dict String CellResult) (budget : Int) (mode : String)
    (task : TaskSpec Records Output) (seed : Int) (pair : String × String) :
    (pairRow sandbox results budget mode task seed pair).orderSensitive = false := by
  simp only [pairRow, sortedIds_swap pair.1 pair.2, ne_eq, not_true_eq_false, decide_false]

omit [BEq Output] in
/-- The row says of its pair whether the cell that applies the first operator
before the second and the cell with the other order came out different. -/
def PairRow.MeasuresOrder (row : PairRow) (results : Dict String CellResult) (budget : Int)
    (mode : String) : Prop :=
  row.orderSensitive = true ↔
    bestPassed results row.taskId row.seed [row.pair.1, row.pair.2] budget mode ≠
      bestPassed results row.taskId row.seed [row.pair.2, row.pair.1] budget mode

theorem measuresOrder_pairRow_iff (results : Dict String CellResult) (budget : Int) (mode : String)
    (task : TaskSpec Records Output) (seed : Int) (pair : String × String) :
    (pairRow sandbox results budget mode task seed pair).MeasuresOrder results budget mode ↔
      bestPassed results task.taskId seed [pair.1, pair.2] budget mode =
        bestPassed results task.taskId seed [pair.2, pair.1] budget mode := by
  rw [PairRow.MeasuresOrder, orderSensitive_pairRow]
  simp only [Bool.false_eq_true, false_iff, ne_eq, not_not]
  exact Iff.rfl

/-- The analysis measures order sensitivity exactly when there is none: every
two cells that differ only in the order of a pair have the same best count. -/
theorem order_measured_iff (tasks : List (TaskSpec Records Output))
    (results : Dict String CellResult) (seeds : List Int) (budget : Int) (mode : String) :
    (∀ row ∈ (analyzeA sandbox tasks results seeds budget mode).rows,
      row.MeasuresOrder results budget mode) ↔
      ∀ task ∈ tasks, ∀ pair ∈ pairs (mechanismsToOperators task.mechanisms), ∀ seed ∈ seeds,
        bestPassed results task.taskId seed [pair.1, pair.2] budget mode =
          bestPassed results task.taskId seed [pair.2, pair.1] budget mode := by
  simp only [analyzeA, List.mem_flatMap, List.mem_map]
  constructor
  · intro hrows task htask pair hpair seed hseed
    exact (measuresOrder_pairRow_iff sandbox results budget mode task seed pair).mp
      (hrows _ ⟨task, htask, pair, hpair, seed, hseed, rfl⟩)
  · intro hsame row hrow
    obtain ⟨task, htask, pair, hpair, seed, hseed, rfl⟩ := hrow
    exact (measuresOrder_pairRow_iff sandbox results budget mode task seed pair).mpr
      (hsame task htask pair hpair seed hseed)

/-- A cell of the task `paid` that got some way in one of the two orders. -/
def paidCell (ids : List String) (best : Nat) : CellResult :=
  { taskId := "paid"
    seed := 0
    operatorIds := ids
    mode := "deterministic"
    budget := 8
    initialPassed := 2
    bestSource := ""
    bestPassed := best
    bestHoldout := 0
    acceptedCount := 1
    improvedCount := 1
    noOpCount := 7
    invalidCount := 0
    events := [] }

def statusFirst : List String := ["canonicalize_status", "reject_invalid_amounts"]

def amountFirst : List String := ["reject_invalid_amounts", "canonicalize_status"]

def paidKey (ids : List String) : String := cellKey "paid" 0 ids "deterministic" 8

theorem paidKey_ne : paidKey amountFirst ≠ paidKey statusFirst := by
  rw [paidKey, paidKey, cellKey, cellKey, Json.asciiSha256_eq, Json.asciiSha256_eq]
  decide +kernel

/-- The status first passes five cases, the amount first three. -/
def twoOrders : Dict String CellResult :=
  (Dict.empty.set (paidKey statusFirst) (paidCell statusFirst 5)).set (paidKey amountFirst)
    (paidCell amountFirst 3)

def paidTask : TaskSpec Unit Unit where
  taskId := "paid"
  taskFamily := "paid"
  schema := ⟨"user", "amount", "status", "paid", none, none, 2⟩
  initialSource := ""
  publicCases := []
  holdoutCases := []
  mechanisms := ["status", "amount"]
  distinct_ids := List.nodup_nil

/-- A runtime in which no program loads. -/
def refusingSandbox : Sandbox Unit Unit where
  load _ := none
  dump _ := none
  transform operatorId source _ := ⟨operatorId, source, false, false, none⟩

theorem order_unmeasured :
    ¬ ∀ row ∈ (analyzeA refusingSandbox [paidTask] twoOrders [0] 8 "deterministic").rows,
      row.MeasuresOrder twoOrders 8 "deterministic" := by
  intro hrows
  have hrow := hrows (pairRow refusingSandbox twoOrders 8 "deterministic" paidTask 0
    ("canonicalize_status", "reject_invalid_amounts")) (List.mem_singleton.mpr rfl)
  have hsame := (measuresOrder_pairRow_iff refusingSandbox twoOrders 8 "deterministic" paidTask 0
    ("canonicalize_status", "reject_invalid_amounts")).mp hrow
  have hstatus : twoOrders.get? (paidKey statusFirst) = some (paidCell statusFirst 5) := by
    rw [twoOrders, Dict.get?_set_of_ne _ _ paidKey_ne.symm, Dict.get?_set_self]
  have hamount : twoOrders.get? (paidKey amountFirst) = some (paidCell amountFirst 3) :=
    Dict.get?_set_self _ _ _
  have hfive : bestPassed twoOrders "paid" 0 statusFirst 8 "deterministic" = 5 := by
    rw [bestPassed, ← paidKey, hstatus]
    rfl
  have hthree : bestPassed twoOrders "paid" 0 amountFirst 8 "deterministic" = 3 := by
    rw [bestPassed, ← paidKey, hamount]
    rfl
  have hequal := hfive.symm.trans (hsame.trans hthree)
  omega

end JlensEvolve.Epistasis
