import Mathlib.Data.List.Dedup
import Mathlib.Logic.Relation

/-!
Append-only lists whose items may replace an earlier one. An item names the
item it replaces, which has to be in the list already and has to be allowed;
the last items are the ones nothing replaces. Every item leads to a last one
along replacements, so what each replacement keeps is kept by the last items.
-/

namespace JlensEvolve.Library.Replacement

variable {α ι : Type} (idOf : α → ι) (target : α → Option ι) (allowed : α → α → Prop)

/-- The lists that appends of such items can build. -/
inductive Appended : List α → Prop where
  | nil : Appended []
  | snoc {items : List α} {item : α} : Appended items → idOf item ∉ items.map idOf →
      (∀ id, target item = some id → ∃ prior ∈ items, idOf prior = id ∧ allowed prior item) →
      Appended (items ++ [item])

/-- `new` replaces `old` in the list. -/
def Replaces (items : List α) (old new : α) : Prop :=
  old ∈ items ∧ new ∈ items ∧ target new = some (idOf old)

def latest [DecidableEq ι] (items : List α) : List α :=
  items.filter (fun item => some (idOf item) ∉ items.map target)

variable {idOf target allowed} {items : List α}

theorem Appended.nodup (h : Appended idOf target allowed items) : (items.map idOf).Nodup := by
  induction h with
  | nil => simp
  | @snoc items item _ hnew _ ih =>
    rw [List.map_append, List.nodup_append]
    refine ⟨ih, by simp, ?_⟩
    rintro a ha b hb rfl
    rw [List.map_singleton, List.mem_singleton] at hb
    exact hnew (hb ▸ ha)

theorem Appended.target_mem (h : Appended idOf target allowed items) {item : α}
    (hitem : item ∈ items) {id : ι} (hid : target item = some id) :
    ∃ prior ∈ items, idOf prior = id ∧ allowed prior item := by
  induction h with
  | nil => cases hitem
  | snoc _ _ htarget ih =>
    rcases List.mem_append.mp hitem with hold | hlast
    · obtain ⟨prior, hprior, hallowed⟩ := ih hold
      exact ⟨prior, List.mem_append_left _ hprior, hallowed⟩
    · rw [List.mem_singleton.mp hlast] at hid ⊢
      obtain ⟨prior, hprior, hallowed⟩ := htarget id hid
      exact ⟨prior, List.mem_append_left _ hprior, hallowed⟩

theorem Appended.replaces_allowed (h : Appended idOf target allowed items) {old new : α}
    (hreplaces : Replaces idOf target items old new) : allowed old new := by
  obtain ⟨hold, hnew, hid⟩ := hreplaces
  obtain ⟨prior, hprior, hsame, hallowed⟩ := h.target_mem hnew hid
  rw [← List.inj_on_of_nodup_map h.nodup hprior hold hsame]
  exact hallowed

theorem Replaces.append {old new : α} (more : List α) (h : Replaces idOf target items old new) :
    Replaces idOf target (items ++ more) old new :=
  ⟨List.mem_append_left _ h.1, List.mem_append_left _ h.2.1, h.2.2⟩

theorem kept_along {P : α → Prop} {item last : α}
    (hkeeps : ∀ old new, Replaces idOf target items old new → P old → P new)
    (hchain : Relation.ReflTransGen (Replaces idOf target items) item last) (hitem : P item) :
    P last := by
  induction hchain with
  | refl => exact hitem
  | tail _ hreplaces ih => exact hkeeps _ _ hreplaces ih

variable [DecidableEq ι]

theorem mem_latest {item : α} :
    item ∈ latest idOf target items ↔
      item ∈ items ∧ ∀ other ∈ items, target other ≠ some (idOf item) := by
  simp [latest]

theorem Appended.exists_latest (h : Appended idOf target allowed items) {item : α}
    (hitem : item ∈ items) :
    ∃ last ∈ latest idOf target items,
      Relation.ReflTransGen (Replaces idOf target items) item last := by
  induction h generalizing item with
  | nil => cases hitem
  | @snoc items added happended hnew htarget ih =>
    -- nothing replaces the item that was added last
    have hadded : added ∈ latest idOf target (items ++ [added]) := by
      rw [mem_latest]
      refine ⟨by simp, ?_⟩
      intro other hother hreplaced
      rcases List.mem_append.mp hother with hold | hlast
      · obtain ⟨prior, hprior, hsame, -⟩ := happended.target_mem hold hreplaced
        exact hnew (List.mem_map.mpr ⟨prior, hprior, hsame⟩)
      · rw [List.mem_singleton.mp hlast] at hreplaced
        obtain ⟨prior, hprior, hsame, -⟩ := htarget _ hreplaced
        exact hnew (List.mem_map.mpr ⟨prior, hprior, hsame⟩)
    rcases List.mem_append.mp hitem with hold | hlast
    · obtain ⟨last, hlatest, hchain⟩ := ih hold
      have hlonger : Relation.ReflTransGen (Replaces idOf target (items ++ [added])) item last :=
        Relation.ReflTransGen.mono (fun _ _ h => Replaces.append [added] h) _ _ hchain
      obtain ⟨hmem, hnone⟩ := mem_latest.mp hlatest
      by_cases hreplaced : target added = some (idOf last)
      · exact ⟨added, hadded,
          hlonger.tail ⟨List.mem_append_left _ hmem, by simp, hreplaced⟩⟩
      · refine ⟨last, mem_latest.mpr ⟨List.mem_append_left _ hmem, ?_⟩, hlonger⟩
        intro other hother
        rcases List.mem_append.mp hother with hold | hlast
        · exact hnone other hold
        · rw [List.mem_singleton.mp hlast]
          exact hreplaced
    · rw [List.mem_singleton.mp hlast]
      exact ⟨added, hadded, .refl⟩

end JlensEvolve.Library.Replacement
