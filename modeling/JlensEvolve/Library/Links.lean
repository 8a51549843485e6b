import Mathlib.Data.List.Basic
import Mathlib.Tactic.Common
import Mathlib.Logic.Relation

/-!
Lists of links, each of which leads from a source to a target. A list leads
from one point to another when every link starts where the one before it ends.
-/

namespace JlensEvolve.Library

variable {α ν : Type} (source target : α → ν)

/-- The links lead from `a` to `b`. -/
def Leads : ν → List α → ν → Prop
  | a, [], b => a = b
  | a, link :: links, b => source link = a ∧ Leads (target link) links b

variable {source target} {a b c : ν} {links more : List α} {link : α}

@[simp] theorem leads_nil : Leads source target a [] b ↔ a = b := Iff.rfl

@[simp] theorem leads_cons :
    Leads source target a (link :: links) b ↔
      source link = a ∧ Leads source target (target link) links b := Iff.rfl

theorem leads_append :
    Leads source target a (links ++ more) b ↔
      ∃ c, Leads source target a links c ∧ Leads source target c more b := by
  induction links generalizing a with
  | nil => simp
  | cons link links ih => simp only [List.cons_append, leads_cons, ih, exists_and_left, and_assoc]

theorem leads_concat :
    Leads source target a (links ++ [link]) b ↔
      Leads source target a links (source link) ∧ target link = b := by
  rw [leads_append]
  constructor
  · intro ⟨c, hlinks, hsource, htarget⟩
    rw [hsource]
    exact ⟨hlinks, htarget⟩
  · intro ⟨hlinks, htarget⟩
    exact ⟨source link, hlinks, rfl, htarget⟩

theorem Leads.unique (hb : Leads source target a links b) (hc : Leads source target a links c) :
    b = c := by
  induction links generalizing a with
  | nil => exact hb.symm.trans hc
  | cons link links ih => exact ih hb.2 hc.2

/-- Taking out a link that leads to the end of the list leaves a list that
leads to where the link started exactly when the link was the last one or led
nowhere. -/
theorem leads_erase_iff (h : Leads source target a (links ++ link :: more) b)
    (hlink : target link = b) :
    Leads source target a (links ++ more) (source link) ↔
      more = [] ∨ source link = target link := by
  obtain ⟨c, hlinks, hsource, hmore⟩ := leads_append.mp h
  rw [hlink] at hmore ⊢
  constructor
  · intro herased
    obtain ⟨d, hd, hrest⟩ := leads_append.mp herased
    have hdc : d = c := hd.unique hlinks
    cases more with
    | nil => exact Or.inl rfl
    | cons next more =>
      right
      have hstart : source next = b := hmore.1
      have hstart' : source next = d := hrest.1
      rw [hsource, ← hdc, ← hstart', hstart]
  · intro hcases
    rcases hcases with hlast | hsame
    · subst hlast
      rw [List.append_nil, hsource]
      exact hlinks
    · rw [leads_append, hsame]
      exact ⟨b, by rw [← hsame, hsource]; exact hlinks, hmore⟩

end JlensEvolve.Library

/-!
Relations that grow by one edge at a time, as a parent relation does when a
node is added under an existing one. A new edge closes a cycle exactly when its
target already led to its source.
-/

namespace JlensEvolve.Library

open Relation

variable {α : Type} {R : α → α → Prop} {a b child parent : α}

def Acyclic (R : α → α → Prop) : Prop := ∀ a, ¬TransGen R a a

def WithEdge (R : α → α → Prop) (child parent : α) (a b : α) : Prop :=
  R a b ∨ a = child ∧ b = parent

/-- From `a` the relation leads to a node of `P` that it does not lead out of. -/
def EndsIn (R : α → α → Prop) (P : α → Prop) (a : α) : Prop :=
  ∃ last, P last ∧ ReflTransGen R a last ∧ ∀ next, ¬R last next

theorem reflTransGen_withEdge (h : ReflTransGen R a b) :
    ReflTransGen (WithEdge R child parent) a b := by
  induction h with
  | refl => exact .refl
  | tail _ hstep ih => exact ih.tail (Or.inl hstep)

theorem transGen_withEdge (h : TransGen (WithEdge R child parent) a b) :
    TransGen R a b ∨ ReflTransGen R a child ∧ ReflTransGen R parent b := by
  induction h with
  | single hstep =>
    rcases hstep with hold | ⟨rfl, rfl⟩
    · exact Or.inl (.single hold)
    · exact Or.inr ⟨.refl, .refl⟩
  | tail _ hstep ih =>
    rcases ih with hpath | ⟨hbefore, hafter⟩
    · rcases hstep with hold | ⟨rfl, rfl⟩
      · exact Or.inl (hpath.tail hold)
      · exact Or.inr ⟨hpath.to_reflTransGen, .refl⟩
    · rcases hstep with hold | ⟨rfl, rfl⟩
      · exact Or.inr ⟨hbefore, hafter.tail hold⟩
      · exact Or.inr ⟨hbefore, .refl⟩

theorem acyclic_withEdge_iff (h : Acyclic R) :
    Acyclic (WithEdge R child parent) ↔ ¬ReflTransGen R parent child := by
  constructor
  · intro hacyclic hpath
    exact hacyclic child (.head' (Or.inr ⟨rfl, rfl⟩) (reflTransGen_withEdge hpath))
  · intro hpath a hcycle
    rcases transGen_withEdge hcycle with hold | ⟨hbefore, hafter⟩
    · exact h a hold
    · exact hpath (hafter.trans hbefore)

theorem EndsIn.of_parent {P : α → Prop} (h : EndsIn R P parent) (hpath : ¬ReflTransGen R parent child) :
    EndsIn (WithEdge R child parent) P child := by
  obtain ⟨last, hlast, hreach, hend⟩ := h
  refine ⟨last, hlast, .head (Or.inr ⟨rfl, rfl⟩) (reflTransGen_withEdge hreach), ?_⟩
  intro next hnext
  rcases hnext with hold | ⟨rfl, _⟩
  · exact hend next hold
  · exact hpath hreach

theorem EndsIn.withEdge {P : α → Prop} (h : EndsIn R P a) (hparent : EndsIn R P parent)
    (hpath : ¬ReflTransGen R parent child) : EndsIn (WithEdge R child parent) P a := by
  obtain ⟨last, hlast, hreach, hend⟩ := h
  by_cases hchild : last = child
  · subst hchild
    obtain ⟨root, hroot, hrootReach, hrootEnd⟩ := hparent.of_parent hpath
    exact ⟨root, hroot, (reflTransGen_withEdge hreach).trans hrootReach, hrootEnd⟩
  · refine ⟨last, hlast, reflTransGen_withEdge hreach, ?_⟩
    intro next hnext
    rcases hnext with hold | ⟨rfl, _⟩
    · exact hend next hold
    · exact hchild rfl

end JlensEvolve.Library
