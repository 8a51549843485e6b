import Mathlib.Data.List.Basic
import Mathlib.Tactic.Common

/-!
Histories in which something happens at most once between two gaps.
-/

namespace JlensEvolve.Library

variable {α : Type} (mark gap : α → Prop)

/-- Between any two marks there is a gap. -/
def Separated (items : List α) : Prop :=
  ∀ before first between second after,
    items = before ++ first :: (between ++ second :: after) →
      mark first → mark second → ∃ item ∈ between, gap item

/-- There was a gap since every mark, so that another may follow. -/
def Open (items : List α) : Prop :=
  ∀ before first after, items = before ++ first :: after → mark first → ∃ item ∈ after, gap item

variable {mark gap} {items : List α} {item : α}

theorem separated_nil : Separated mark gap [] := by
  intro before first between second after h
  simp at h

theorem open_nil : Open mark gap [] := by
  intro before first after h
  simp at h

theorem concat_split {before after : List α} {other : α}
    (h : items ++ [item] = before ++ other :: after) :
    (items = before ∧ item = other ∧ after = []) ∨
      ∃ middle, after = middle ++ [item] ∧ items = before ++ other :: middle := by
  rcases List.eq_nil_or_concat after with rfl | ⟨middle, last, rfl⟩
  · obtain ⟨hbefore, hlast⟩ := List.append_inj' h rfl
    exact Or.inl ⟨hbefore, by simpa using hlast, rfl⟩
  · rw [List.concat_eq_append, ← List.cons_append, ← List.append_assoc] at h
    obtain ⟨hbefore, hlast⟩ := List.append_inj' h rfl
    obtain rfl : item = last := by simpa using hlast
    exact Or.inr ⟨middle, List.concat_eq_append, hbefore⟩

theorem open_concat_gap (hunmarked : ¬mark item) (hgap : gap item) :
    Open mark gap (items ++ [item]) := by
  intro before first after hitems hmark
  rcases concat_split hitems with ⟨-, rfl, -⟩ | ⟨middle, rfl, -⟩
  · exact absurd hmark hunmarked
  · exact ⟨item, by simp, hgap⟩

theorem Open.concat (h : Open mark gap items) (hunmarked : ¬mark item) :
    Open mark gap (items ++ [item]) := by
  intro before first after hitems hmark
  rcases concat_split hitems with ⟨-, rfl, -⟩ | ⟨middle, rfl, hbefore⟩
  · exact absurd hmark hunmarked
  · obtain ⟨found, hfound, hgap⟩ := h before first middle hbefore hmark
    exact ⟨found, List.mem_append_left _ hfound, hgap⟩

/-- One more item keeps a history separated exactly when it is no mark or there
was a gap since the last one. -/
theorem separated_concat_iff :
    Separated mark gap (items ++ [item]) ↔
      Separated mark gap items ∧ (mark item → Open mark gap items) := by
  constructor
  · intro h
    constructor
    · intro before first between second after hitems
      exact h before first between second (after ++ [item]) (by simp [hitems])
    · intro hmark before first after hitems hfirst
      exact h before first after item [] (by simp [hitems]) hfirst hmark
  · intro h before first between second after hitems hfirst hsecond
    obtain ⟨hseparated, hopen⟩ := h
    have hsplit : items ++ [item] = (before ++ first :: between) ++ second :: after := by
      simp [hitems]
    rcases concat_split hsplit with ⟨hbefore, rfl, -⟩ | ⟨middle, -, hbefore⟩
    · exact hopen hsecond before first between hbefore hfirst
    · exact hseparated before first between second middle (by simp [hbefore]) hfirst hsecond

end JlensEvolve.Library
