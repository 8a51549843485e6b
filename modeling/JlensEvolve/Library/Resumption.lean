import Mathlib.Data.List.Basic
import Mathlib.Logic.Relation
import Mathlib.Tactic.Common

/-!
Work in stages, each of which first looks whether its part is done. When a
stage settles its own part and later stages leave it settled, a run may stop
after any stage and start again from the first: it comes to the same end.

Work as one deterministic history. Wherever it is cut, what goes on from there
walks the same way, and two walks that can change no more have come to the same.
-/

namespace JlensEvolve.Library

variable {σ : Type}

/-- The stages one after the other; `none` when one refuses. -/
def runStages (stages : List (σ → Option σ)) (s : σ) : Option σ :=
  match stages with
  | [] => some s
  | stage :: rest => (stage s).bind (runStages rest)

/-- Every one of the stages finds its part done. -/
def Settled (stages : List (σ → Option σ)) (s : σ) : Prop := ∀ stage ∈ stages, stage s = some s

structure Resumable (stages : List (σ → Option σ)) : Prop where
  settles : ∀ stage ∈ stages, ∀ s t, stage s = some t → stage t = some t
  keeps : stages.Pairwise fun earlier later =>
    ∀ s t, earlier s = some s → later s = some t → earlier t = some t

theorem settled_nil (s : σ) : Settled [] s := nofun

theorem Settled.snoc {done : List (σ → Option σ)} {stage : σ → Option σ} {s : σ}
    (h : Settled done s) (hstage : stage s = some s) : Settled (done ++ [stage]) s := by
  intro other hmem
  rcases List.mem_append.mp hmem with hmem | hmem
  · exact h other hmem
  · rw [List.mem_singleton.mp hmem]
    exact hstage

section Resume

variable {done rest : List (σ → Option σ)} {stage : σ → Option σ} {s t : σ}

theorem runStages_of_settled (h : Settled done s) :
    runStages (done ++ rest) s = runStages rest s := by
  induction done with
  | nil => rfl
  | cons first done ih =>
    rw [List.cons_append, runStages, h first List.mem_cons_self]
    exact ih fun other hmem => h other (List.mem_cons_of_mem _ hmem)

theorem Resumable.settled (h : Resumable (done ++ stage :: rest)) (hs : Settled done s)
    (hstage : stage s = some t) : Settled (done ++ [stage]) t := by
  have hkeeps := (List.pairwise_append.mp h.keeps).2.2
  refine Settled.snoc ?_ (h.settles stage (by simp) s t hstage)
  intro other hmem
  exact hkeeps other hmem stage List.mem_cons_self s t (hs other hmem) hstage

theorem Resumable.resume (h : Resumable (done ++ stage :: rest)) (hs : Settled done s)
    (hstage : stage s = some t) :
    runStages (done ++ stage :: rest) t = runStages (done ++ stage :: rest) s := by
  have ht := h.settled hs hstage
  rw [runStages_of_settled hs, runStages, hstage, Option.bind_some, List.append_cons,
    runStages_of_settled ht]

theorem runStages_of_refused (hs : Settled done s) (hstage : stage s = none) :
    runStages (done ++ stage :: rest) s = none := by
  rw [runStages_of_settled hs, runStages, hstage, Option.bind_none]

end Resume

section Histories

open Relation

variable {ο : Type} {next : σ → σ → Prop} {seen : σ → ο} {a b : σ}

/-- Nothing that is seen changes any more. -/
def SettledIn (next : σ → σ → Prop) (seen : σ → ο) (s : σ) : Prop :=
  ∀ t, ReflTransGen next s t → seen t = seen s

theorem settledIn_of_stuck (h : ∀ t, ¬ next a t) : SettledIn next seen a := by
  intro t ht
  rcases ht.cases_head with hsame | ⟨first, hfirst, -⟩
  · rw [hsame]
  · exact absurd hfirst (h first)

theorem settledIn_of_fixed (h : ∀ t, next a t → t = a) : SettledIn next seen a := by
  intro t ht
  have hsame : t = a := by
    induction ht with
    | refl => rfl
    | tail _ hlast ih =>
      subst ih
      exact h _ hlast
  rw [hsame]

theorem seen_eq_of_settled (hunique : Relator.RightUnique next) {s : σ}
    (ha : ReflTransGen next s a) (hb : ReflTransGen next s b) (hsettled : SettledIn next seen a)
    (hother : SettledIn next seen b) : seen a = seen b := by
  rcases ReflTransGen.total_of_right_unique hunique ha hb with hab | hba
  · exact (hsettled b hab).symm
  · exact hother a hba

end Histories

end JlensEvolve.Library
