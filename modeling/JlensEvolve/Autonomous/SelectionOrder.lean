import JlensEvolve.Autonomous.SelectionRounds
import JlensEvolve.Library.KeyedSort

/-!
What a selection is, whatever order the pool and the history are listed in. The
sort key ends in the task id, so the ranking is a matter of the set of tasks;
and it reads nothing of the history but the latest classification of each task.
The order of the pool and of the claims shows in the identity of a selection and
in the list of the tasks left out, not in the tasks that are chosen.
-/

namespace JlensEvolve.Autonomous

open Library

/-- `priorities.get(task_id)`. -/
def latestClassification (claims : List HistoricalClaim) (taskId : String) : Option String :=
  (claims.reverse.find? (·.taskId = taskId)).map (·.classification)

namespace SelectionPast

variable (past : SelectionPast)

/-- The same past with other claims. -/
def withClaims (claims : List HistoricalClaim) : SelectionPast :=
  match past with
  | .claims _ => .claims claims
  | .stateful context => .stateful { context with historicalClaims := claims }

/-- The claims leave the same latest classification for every task. -/
def SameLatest (claims : List HistoricalClaim) : Prop :=
  ∀ taskId, latestClassification claims taskId = latestClassification past.historical taskId

/-- How far the ranking is turned before the first task is taken: by the round
number without a context, not at all with one. -/
def offset (roundIndex : Int) (count eligible : Nat) : Nat :=
  match past with
  | .claims _ => (roundIndex * count % eligible).toNat
  | .stateful _ => 0

theorem troubled_eq (taskId : String) :
    past.troubled taskId =
      (latestClassification past.historical taskId).any (· ∈ ["regression", "neutral"]) := by
  rw [troubled, latestClassification]
  cases past.historical.reverse.find? (·.taskId = taskId) with
  | none => rfl
  | some claim => rfl

variable {past} {claims : List HistoricalClaim}

theorem troubled_withClaims (h : past.SameLatest claims) (taskId : String) :
    (past.withClaims claims).troubled taskId = past.troubled taskId := by
  have hclaims : (past.withClaims claims).historical = claims := by
    cases past <;> rfl
  rw [troubled_eq, troubled_eq, hclaims, h taskId]

theorem rankKey_withClaims (h : past.SameLatest claims) :
    (past.withClaims claims).rankKey = past.rankKey := by
  funext task
  have htroubled := troubled_withClaims h task.instanceId
  cases past with
  | claims prior =>
    change (SelectionPast.claims claims).troubled task.instanceId = _ at htroubled
    simp only [withClaims, rankKey, htroubled]
  | stateful context =>
    change (SelectionPast.stateful { context with historicalClaims := claims }).troubled
      task.instanceId = _ at htroubled
    simp only [withClaims, rankKey, htroubled]

theorem selectable_withClaims : (past.withClaims claims).selectable = past.selectable := by
  cases past <;> rfl

theorem reasons_withClaims : (past.withClaims claims).reasons = past.reasons := by
  cases past <;> rfl

theorem instanceId_eq_of_rankKey_eq {first second : FeedbackTask}
    (h : past.rankKey first = past.rankKey second) : first.instanceId = second.instanceId := by
  cases past with
  | claims prior =>
    simp only [rankKey, EmbeddingLike.apply_eq_iff_eq, Prod.mk.injEq] at h
    exact h.2.2.2.2.2
  | stateful context =>
    simp only [rankKey, EmbeddingLike.apply_eq_iff_eq, Prod.mk.injEq] at h
    exact h.2.2.2.2.2

theorem ranked_eq (tasks : List FeedbackTask) (roundIndex : Int) (count : Nat) :
    past.ranked tasks roundIndex count =
      (KeyedSort.sortBy past.rankKey (tasks.filter past.selectable)).rotate
        (past.offset roundIndex count (tasks.filter past.selectable).length) := by
  cases past with
  | claims prior =>
    rw [ranked, offset, KeyedSort.sortBy, List.length_insertionSort]
  | stateful context =>
    rw [ranked, offset, KeyedSort.sortBy, List.rotate_zero]

end SelectionPast

theorem head?_chosen {count : Nat} (hcount : 0 < count) (ranked : List FeedbackTask) :
    (chosen count ranked).head? = ranked.head? := by
  cases ranked with
  | nil => rfl
  | cons first rest =>
    have hstart : [first] <+: chosen count (first :: rest) := by
      rw [chosen, diverse]
      split
      · refine List.IsPrefix.trans ?_ (extends_fill count _ _)
        exact ⟨_, rfl⟩
      · rw [fill, if_neg (by rw [List.length_nil]; omega), if_neg List.not_mem_nil]
        exact extends_fill count rest ([] ++ [first])
    obtain ⟨others, hothers⟩ := hstart
    rw [← hothers]
    rfl

namespace FeedbackTaskSelector

variable (selector : FeedbackTaskSelector) (past : SelectionPast)

theorem keysApart_selectable :
    KeyedSort.KeysApart past.rankKey (selector.tasks.filter past.selectable) := by
  intro first hfirst second hsecond hkey
  exact List.inj_on_of_nodup_map selector.distinct_ids (List.mem_of_mem_filter hfirst)
    (List.mem_of_mem_filter hsecond) (SelectionPast.instanceId_eq_of_rankKey_eq hkey)

theorem ranked_eq_of_perm {other : FeedbackTaskSelector} {claims : List HistoricalClaim}
    (hpool : selector.tasks.Perm other.tasks) (hlatest : past.SameLatest claims)
    (roundIndex : Int) (count : Nat) :
    (past.withClaims claims).ranked other.tasks roundIndex count =
      past.ranked selector.tasks roundIndex count := by
  have hperm := hpool.filter past.selectable
  have hoffset : ∀ eligible, (past.withClaims claims).offset roundIndex count eligible =
      past.offset roundIndex count eligible := by
    intro eligible
    cases past <;> rfl
  rw [SelectionPast.ranked_eq, SelectionPast.ranked_eq, hoffset,
    SelectionPast.rankKey_withClaims hlatest, SelectionPast.selectable_withClaims,
    KeyedSort.sortBy_eq_of_perm (selector.keysApart_selectable past) hperm, hperm.length_eq]

theorem tasks_of_select {roundIndex : Int} {count : Nat} {selection : TaskSelection}
    (h : selector.select roundIndex count past = .ok selection) :
    0 < count ∧ count ≤ (past.ranked selector.tasks roundIndex count).length ∧
      selection = selector.selection roundIndex past
        (past.ranked selector.tasks roundIndex count)
        (chosen count (past.ranked selector.tasks roundIndex count)) ∧
      selection.tasks.length = count ∧ (1 < count → 2 ≤ (projectsOf selection.tasks).length) := by
  simp only [select, except_bind_ok_iff, require_ok_iff, exists_const] at h
  obtain ⟨⟨-, hcount, -⟩, henough, ⟨hlength, htwo⟩, hselection⟩ := h
  cases hselection
  exact ⟨hcount, henough, rfl, hlength, htwo⟩

theorem place_of_first {roundIndex : Int} {count : Nat} {selection : TaskSelection}
    (h : selector.select roundIndex count past = .ok selection) :
    ∃ first, selection.tasks.head? = some first ∧
      ((selector.tasks.filter past.selectable).filter fun task =>
          past.rankKey task < past.rankKey first).length =
        past.offset roundIndex count (selector.tasks.filter past.selectable).length := by
  obtain ⟨hcount, henough, hselection, -, -⟩ := selector.tasks_of_select past h
  have heligible : 0 < (selector.tasks.filter past.selectable).length := by
    rw [(perm_ranked past selector.tasks roundIndex count).length_eq] at henough
    omega
  have hoffset : past.offset roundIndex count (selector.tasks.filter past.selectable).length <
      (selector.tasks.filter past.selectable).length := by
    cases past with
    | stateful context => exact heligible
    | claims prior =>
      have hbelow := Int.emod_lt_of_pos (roundIndex * count) (Int.natCast_pos.mpr heligible)
      rw [SelectionPast.offset]
      omega
  have hsorted := (KeyedSort.perm_sortBy past.rankKey
    (selector.tasks.filter past.selectable)).length_eq
  have hhead : selection.tasks.head? =
      (KeyedSort.sortBy past.rankKey (selector.tasks.filter past.selectable))[past.offset
        roundIndex count (selector.tasks.filter past.selectable).length]? := by
    rw [hselection]
    change (chosen count _).head? = _
    rw [head?_chosen hcount, SelectionPast.ranked_eq, List.head?_rotate (hsorted ▸ hoffset)]
  rw [List.getElem?_eq_getElem (hsorted ▸ hoffset)] at hhead
  refine ⟨_, hhead, ?_⟩
  refine KeyedSort.length_filter_lt_of_sortBy (selector.keysApart_selectable past)
    (selector.nodup_tasks.filter _) ?_
  exact List.getElem?_eq_getElem (hsorted ▸ hoffset)

/-- A selection made from the same pool and the same latest claims in another
order chooses the same tasks. -/
theorem select_of_perm {roundIndex : Int} {count : Nat} {selection : TaskSelection}
    (h : selector.select roundIndex count past = .ok selection) {other : FeedbackTaskSelector}
    {claims : List HistoricalClaim} (hpool : selector.tasks.Perm other.tasks)
    (hlatest : past.SameLatest claims) :
    ∃ again, other.select roundIndex count (past.withClaims claims) = .ok again ∧
      again.tasks = selection.tasks ∧ again.selectedTaskIds = selection.selectedTaskIds ∧
      again.selectedProjects = selection.selectedProjects ∧
      again.selectionReason = selection.selectionReason := by
  have hranked := selector.ranked_eq_of_perm past hpool hlatest roundIndex count
  simp only [select, except_bind_ok_iff, require_ok_iff, exists_const] at h
  obtain ⟨⟨hround, hcount, hbound⟩, henough, hcovers, hselection⟩ := h
  cases hselection
  refine ⟨other.selection roundIndex (past.withClaims claims)
    ((past.withClaims claims).ranked other.tasks roundIndex count)
    (chosen count ((past.withClaims claims).ranked other.tasks roundIndex count)), ?_, ?_⟩
  · simp only [select, except_bind_ok_iff, require_ok_iff, exists_const]
    rw [hranked, ← hpool.length_eq]
    exact ⟨⟨hround, hcount, hbound⟩, henough, hcovers, rfl⟩
  · rw [hranked]
    exact ⟨rfl, rfl, rfl, SelectionPast.reasons_withClaims⟩

/-- The tasks of a selection: as many as asked for, each once, none excluded or
at the cap, over two projects, beginning at the round's place in the ranking,
which with a context is its top; and the same for every order of the pool and of
the claims. -/
theorem selection_chosen {roundIndex : Int} {count : Nat} {selection : TaskSelection}
    (h : selector.select roundIndex count past = .ok selection) :
    selection.selectedTaskIds = selection.tasks.map (·.instanceId) ∧
      selection.selectedTaskIds.length = count ∧ selection.selectedTaskIds.Nodup ∧
      (∀ task ∈ selection.tasks, task ∈ selector.tasks ∧ task.instanceId ∉ past.excludedIds ∧
        ∀ context, past = .stateful context →
          countOf context.taskSelectionCounts task.instanceId < context.repeatHardCap) ∧
      (1 < count → 2 ≤ selection.selectedProjects.length) ∧
      (∃ first, selection.tasks.head? = some first ∧
        ((selector.tasks.filter past.selectable).filter fun task =>
            past.rankKey task < past.rankKey first).length =
          past.offset roundIndex count (selector.tasks.filter past.selectable).length ∧
        ∀ context, past = .stateful context →
          ∀ task ∈ selector.tasks, past.selectable task = true →
            past.rankKey first ≤ past.rankKey task) ∧
      ∀ (other : FeedbackTaskSelector) (claims : List HistoricalClaim),
        selector.tasks.Perm other.tasks → past.historical.Perm claims → past.SameLatest claims →
        ∃ again, other.select roundIndex count (past.withClaims claims) = .ok again ∧
          again.tasks = selection.tasks ∧ again.selectedTaskIds = selection.selectedTaskIds ∧
          again.selectedProjects = selection.selectedProjects ∧
          again.selectionReason = selection.selectionReason := by
  obtain ⟨hids, -, hpool⟩ := selector.mem_tasks_of_select h
  obtain ⟨-, -, hselection, hlength, htwo⟩ := selector.tasks_of_select past h
  obtain ⟨first, hfirst, hplace⟩ := selector.place_of_first past h
  have hprojects : selection.selectedProjects.length = (projectsOf selection.tasks).length := by
    rw [hselection]
    exact List.length_insertionSort _ _
  refine ⟨hids, ?_, selector.nodup_selectedTaskIds h, ?_, ?_, ⟨first, hfirst, hplace, ?_⟩, ?_⟩
  · rw [hids, List.length_map, hlength]
  · intro task htask
    obtain ⟨hmem, hselectable⟩ := hpool task htask
    unfold SelectionPast.selectable at hselectable
    rw [Bool.and_eq_true, decide_eq_true_eq] at hselectable
    refine ⟨hmem, hselectable.1, ?_⟩
    intro context hcontext
    subst hcontext
    exact of_decide_eq_true hselectable.2
  · intro hmany
    rw [hprojects]
    exact htwo hmany
  · intro context hcontext task hmem hselectable
    subst hcontext
    have hnone := List.length_eq_zero_iff.mp hplace
    have hnot := List.filter_eq_nil_iff.mp hnone task (List.mem_filter.mpr ⟨hmem, hselectable⟩)
    simpa using hnot
  · intro other claims hperm _ hlatest
    exact selector.select_of_perm past h hperm hlatest

end FeedbackTaskSelector

namespace SelectionRounds

theorem relistedTasks_nonempty : unevenTasks.reverse ≠ [] := by decide

theorem relistedTasks_distinct : (unevenTasks.reverse.map (·.instanceId)).Nodup := by decide

/-- The uneven pool, listed from its end. -/
def relistedPool : FeedbackTaskSelector :=
  ⟨unevenTasks.reverse, relistedTasks_nonempty, relistedTasks_distinct⟩

def firstPast : SelectionPast := .stateful (start.context unevenPool 2 noFacts)

theorem selectable_firstPast : unevenPool.tasks.filter firstPast.selectable = unevenTasks := by
  decide

theorem selectable_relisted :
    relistedPool.tasks.filter firstPast.selectable = unevenTasks.reverse := by
  decide

/-- Three tasks over two projects, from the top of the ranking. -/
theorem uneven_chosen : ∃ selection, unevenPool.select 0 3 firstPast = .ok selection ∧
    selection.selectedTaskIds.length = 3 ∧ selection.selectedTaskIds.Nodup ∧
    2 ≤ selection.selectedProjects.length := by
  obtain ⟨selection, hselect⟩ : ∃ selection, unevenPool.select 0 3 firstPast = .ok selection := by
    rw [unevenPool.select_ok_iff, selectable_firstPast]
    refine ⟨le_rfl, Nat.succ_pos 2, by decide, fun _ => ?_⟩
    exact ⟨poolTask "alpha-1" "alpha", by simp [unevenTasks], poolTask "beta-1" "beta",
      by simp [unevenTasks], by decide⟩
  obtain ⟨-, hcount, hdistinct, -, hprojects, -⟩ := unevenPool.selection_chosen firstPast hselect
  exact ⟨selection, hselect, hcount, hdistinct, hprojects (by omega)⟩

/-- Without a context the second round begins below the top of the ranking; and
the tasks left out are listed in the order of the pool. -/
theorem round_turns_ranking :
    (∃ selection first task, unevenPool.select 1 1 (.claims []) = .ok selection ∧
      selection.tasks.head? = some first ∧ task ∈ unevenPool.tasks ∧
      (SelectionPast.claims []).selectable task = true ∧
      ¬ (SelectionPast.claims []).rankKey first ≤ (SelectionPast.claims []).rankKey task) ∧
    unevenPool.tasks.Perm relistedPool.tasks ∧
    ∃ selection again, unevenPool.select 0 1 firstPast = .ok selection ∧
      relistedPool.select 0 1 firstPast = .ok again ∧ again ≠ selection := by
  refine ⟨?_, (List.reverse_perm unevenTasks).symm, ?_⟩
  · obtain ⟨selection, hselect⟩ :
        ∃ selection, unevenPool.select 1 1 (.claims []) = .ok selection := by
      rw [unevenPool.select_ok_iff]
      exact ⟨Int.one_nonneg, Nat.one_pos, by decide, fun hmany => absurd hmany (by omega)⟩
    obtain ⟨-, -, hmade, -, -⟩ := unevenPool.tasks_of_select _ hselect
    refine ⟨selection, poolTask "beta-1" "beta", poolTask "alpha-1" "alpha", hselect, ?_,
      by simp [unevenPool, unevenTasks], rfl, by decide⟩
    rw [hmade]
    decide
  · obtain ⟨selection, hselect⟩ : ∃ selection, unevenPool.select 0 1 firstPast = .ok selection := by
      rw [unevenPool.select_ok_iff, selectable_firstPast]
      exact ⟨le_rfl, Nat.one_pos, by decide, fun hmany => absurd hmany (by omega)⟩
    obtain ⟨again, hagain⟩ : ∃ again, relistedPool.select 0 1 firstPast = .ok again := by
      rw [relistedPool.select_ok_iff, selectable_relisted]
      exact ⟨le_rfl, Nat.one_pos, by decide, fun hmany => absurd hmany (by omega)⟩
    refine ⟨selection, again, hselect, hagain, ?_⟩
    obtain ⟨-, -, hmade, -, -⟩ := unevenPool.tasks_of_select _ hselect
    obtain ⟨-, -, hremade, -, -⟩ := relistedPool.tasks_of_select _ hagain
    intro hsame
    have hexcluded : again.excluded = selection.excluded := by rw [hsame]
    rw [hmade, hremade] at hexcluded
    revert hexcluded
    decide

end SelectionRounds

end JlensEvolve.Autonomous
