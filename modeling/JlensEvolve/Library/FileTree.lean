import JlensEvolve.Library.Dict
import Mathlib.Data.List.Sort

/-!
Files and directories by place. A place is the names that lead to it, the last
one first: the entries of a folder are the places with one more name in front.
No links are followed, so `..` leads to the folder above.
-/

namespace JlensEvolve.Library

abbrev Place := List String

inductive Node (γ : Type) where
  | directory
  | file (content : γ)

structure FileTree (γ : Type) where
  nodes : Dict Place (Node γ)

namespace FileTree

variable {γ : Type} (tree : FileTree γ)

def empty : FileTree γ := ⟨Dict.empty⟩

def node? (place : Place) : Option (Node γ) := tree.nodes.get? place

def put (place : Place) (node : Node γ) : FileTree γ := ⟨tree.nodes.set place node⟩

def remove (place : Place) : FileTree γ := ⟨tree.nodes.erase place⟩

theorem node?_put (place other : Place) (node : Node γ) :
    (tree.put place node).node? other = if other = place then some node else tree.node? other :=
  tree.nodes.get?_set place other node

theorem node?_put_self (place : Place) (node : Node γ) :
    (tree.put place node).node? place = some node := by
  rw [node?_put, if_pos rfl]

theorem node?_put_of_ne {place other : Place} (node : Node γ) (h : other ≠ place) :
    (tree.put place node).node? other = tree.node? other := by
  rw [node?_put, if_neg h]

theorem node?_remove (place other : Place) :
    (tree.remove place).node? other = if other = place then none else tree.node? other :=
  tree.nodes.get?_erase place other

theorem node?_remove_of_ne {place other : Place} (h : other ≠ place) :
    (tree.remove place).node? other = tree.node? other := by
  rw [node?_remove, if_neg h]

/-- One name of a path. -/
def enter (here : Place) (name : String) : Place :=
  if name = ".." then here.tail else name :: here

/-- The places on the way. -/
def visited : Place → List String → List Place
  | _, [] => []
  | here, name :: rest => enter here name :: visited (enter here name) rest

/-- Where the names lead. -/
def walk (here : Place) (names : List String) : Place := names.foldl enter here

/-- Whether a path leads to something: all that is above it has to be there. -/
def pathExists (above : List Place) (place : Place) : Bool :=
  above.all (fun folder => match tree.node? folder with
    | some .directory => true
    | _ => false) && (tree.node? place).isSome

/-- `mkdir(parents=True, exist_ok=True)`: the missing directories are made from
the top down, and a file in their way stops it. -/
def makeAll : List Place → FileTree γ → Bool × FileTree γ
  | [], tree => (true, tree)
  | place :: rest, tree =>
    match tree.node? place with
    | none => makeAll rest (tree.put place .directory)
    | some .directory => makeAll rest tree
    | some (.file _) => (false, tree)

theorem node?_makeAll (places : List Place) (other : Place) :
    ∀ tree : FileTree γ, (makeAll places tree).2.node? other = tree.node? other ∨
      other ∈ places ∧ tree.node? other = none ∧
        (makeAll places tree).2.node? other = some .directory := by
  induction places with
  | nil =>
    intro tree
    exact Or.inl rfl
  | cons place rest ih =>
    intro tree
    rw [makeAll]
    split
    · rename_i hmissing
      by_cases hother : other = place
      · subst hother
        refine Or.inr ⟨List.mem_cons_self, hmissing, ?_⟩
        rcases ih (tree.put other .directory) with hkept | ⟨-, hnone, -⟩
        · rw [hkept, node?_put_self]
        · rw [node?_put_self] at hnone
          cases hnone
      · have hput := tree.node?_put_of_ne .directory hother
        rcases ih (tree.put place .directory) with hkept | ⟨hmem, hnone, hmade⟩
        · exact Or.inl (hkept.trans hput)
        · exact Or.inr ⟨List.mem_cons_of_mem _ hmem, hput ▸ hnone, hmade⟩
    · rcases ih tree with hkept | ⟨hmem, hmade⟩
      · exact Or.inl hkept
      · exact Or.inr ⟨List.mem_cons_of_mem _ hmem, hmade⟩
    · exact Or.inl rfl

theorem node?_makeAll_of_some {places : List Place} {tree : FileTree γ} {place : Place}
    {node : Node γ} (h : tree.node? place = some node) :
    (makeAll places tree).2.node? place = some node := by
  rcases node?_makeAll places place tree with hkept | ⟨-, hnone, -⟩
  · exact hkept.trans h
  · rw [h] at hnone
    cases hnone

/-- No file is in the way. -/
def Passable (tree : FileTree γ) (places : List Place) : Prop :=
  ∀ place ∈ places, ∀ content, tree.node? place ≠ some (.file content)

theorem makeAll_fst_iff (places : List Place) :
    ∀ tree : FileTree γ, (makeAll places tree).1 = true ↔ tree.Passable places := by
  induction places with
  | nil =>
    intro tree
    exact ⟨fun _ _ h => (List.not_mem_nil h).elim, fun _ => rfl⟩
  | cons place rest ih =>
    intro tree
    rw [makeAll, Passable, List.forall_mem_cons]
    split
    · rename_i hmissing
      rw [ih, hmissing]
      constructor
      · intro hrest
        refine ⟨nofun, fun other hother content hfile => ?_⟩
        have hne : other ≠ place := by
          rintro rfl
          rw [hmissing] at hfile
          cases hfile
        exact hrest other hother content ((tree.node?_put_of_ne .directory hne).trans hfile)
      · rintro ⟨-, hrest⟩ other hother content hfile
        rw [node?_put] at hfile
        split at hfile
        · cases hfile
        · exact hrest other hother content hfile
    · rename_i hdirectory
      rw [ih, hdirectory]
      exact ⟨fun hrest => ⟨nofun, hrest⟩, And.right⟩
    · rename_i content hfile
      rw [hfile]
      exact ⟨nofun, fun h => absurd rfl (h.1 content)⟩

theorem node?_makeAll_of_mem {places : List Place} {place : Place} (hmem : place ∈ places) :
    ∀ {tree : FileTree γ}, (makeAll places tree).1 = true →
      (makeAll places tree).2.node? place = some .directory := by
  intro tree hmade
  have hpassable := (makeAll_fst_iff places tree).mp hmade place hmem
  cases hnode : tree.node? place with
  | some node =>
    cases node with
    | directory => exact node?_makeAll_of_some hnode
    | file content => exact absurd hnode (hpassable content)
  | none =>
    induction places generalizing tree with
    | nil => cases hmem
    | cons first rest ih =>
      rw [makeAll] at hmade ⊢
      by_cases hfirst : place = first
      · subst hfirst
        rw [hnode] at hmade ⊢
        exact node?_makeAll_of_some (tree.node?_put_self place .directory)
      · have hrest := (List.mem_cons.mp hmem).resolve_left hfirst
        split at hmade
        · have hput := tree.node?_put_of_ne (Node.directory (γ := γ)) hfirst
          exact ih hrest hmade (fun content => by rw [hput]; exact hpassable content)
            (hput.trans hnode)
        · exact ih hrest hmade hpassable hnode
        · cases hmade

/-- The entries of a folder whose names match, in the order of their names. -/
def listing (folder : Place) (named : String → Bool) : List (Place × Node γ) :=
  (tree.nodes.entries.filter fun entry =>
    match entry.1 with
    | [] => false
    | name :: above => above = folder && named name).insertionSort
      fun first second => first.1.headD "" ≤ second.1.headD ""

theorem mem_listing_iff {folder : Place} {named : String → Bool} {place : Place} {node : Node γ} :
    (place, node) ∈ tree.listing folder named ↔
      tree.node? place = some node ∧ ∃ name, named name = true ∧ place = name :: folder := by
  rw [listing, (List.perm_insertionSort _ _).mem_iff, List.mem_filter, node?,
    Dict.get?_eq_some_iff]
  refine and_congr_right fun _ => ?_
  cases place with
  | nil => simp
  | cons name above =>
    simp only [Bool.and_eq_true, decide_eq_true_eq, List.cons.injEq]
    constructor
    · rintro ⟨rfl, hname⟩
      exact ⟨name, hname, rfl, rfl⟩
    · rintro ⟨_, hname, rfl, rfl⟩
      exact ⟨rfl, hname⟩

end FileTree

end JlensEvolve.Library
