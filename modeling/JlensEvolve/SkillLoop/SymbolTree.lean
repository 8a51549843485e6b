import Mathlib.Data.Char
import Mathlib.Data.Int.Basic
import Mathlib.Data.List.Lex
import Mathlib.Data.Prod.Lex
import JlensEvolve.Library.KeyedSort

/-!
The definitions of a Python module and the walks over them in
`symbol_rewrite.py` and `operator_rewrite.py`. Two walks make qualified names to
offer to the student, `qualifiedSymbolAtLine` and `qualifiedSymbolRankings`, and
two find the definition of a name, `definition` and `findDefinition`.
-/

namespace JlensEvolve.SkillLoop.SymbolTree

open Library

inductive Kind where
  | functionDef
  | asyncFunctionDef
  | classDef
  deriving DecidableEq, Repr

/-- A name in the source; no name has a dot in it. -/
abbrev Identifier := { name : List Char // '.' ∉ name }

/-- The statements of a body. All the walks step over a statement that is no definition, so nothing
of it is kept. -/
inductive Body where
  | nil
  | other (rest : Body)
  | definition (kind : Kind) (name : Identifier) (lineno endLineno : Nat) (body rest : Body)
  deriving DecidableEq

/-- A definition. In the tree of a source no two start on the same line, so the parts tell them
apart. -/
structure Definition where
  kind : Kind
  name : Identifier
  lineno : Nat
  endLineno : Nat
  body : Body
  deriving DecidableEq

namespace Body

/-- The definitions that are statements of the body itself. -/
def direct : Body → List Definition
  | nil => []
  | other rest => rest.direct
  | definition kind name lineno endLineno body rest =>
    ⟨kind, name, lineno, endLineno, body⟩ :: rest.direct

end Body

/-- `_definitions_named`: in the body and in the classes of the body. -/
def definitionsNamed (name : List Char) : Body → List Definition
  | .nil => []
  | .other rest => definitionsNamed name rest
  | .definition kind own lineno endLineno body rest =>
    (if own.val = name then [⟨kind, own, lineno, endLineno, body⟩] else []) ++
      (if kind = .classDef then definitionsNamed name body else []) ++ definitionsNamed name rest

/-- `matches[0] if len(matches) == 1 else None`. -/
def unique : List Definition → Option Definition
  | [node] => some node
  | _ => none

/-- `_definition` of `symbol_rewrite.py`. Splitting a name leaves at least one part. -/
def definition : Body → List (List Char) → Option Definition
  | _, [] => none
  | body, [name] => unique (definitionsNamed name body)
  | body, first :: second :: rest =>
    match body.direct.find? (·.name.val = first) with
    | none => none
    | some node => if node.kind = .classDef then definition node.body (second :: rest) else none

/-- `_find_definition` of `operator_rewrite.py`. -/
def findDefinition : Body → List (List Char) → Option Definition
  | _, [] => none
  | body, [name] => unique (definitionsNamed name body)
  | body, first :: second :: rest =>
    match unique (body.direct.filter (·.name.val = first)) with
    | none => none
    | some node => if node.kind = .classDef then findDefinition node.body (second :: rest) else none

/-- A definition with the names from the module down to it. -/
structure Qualified where
  path : List Identifier
  node : Definition
  deriving DecidableEq

namespace Qualified

/-- `".".join(qualified)`. -/
def symbol (row : Qualified) : List Char := ['.'].intercalate (row.path.map Subtype.val)

/-- `node.end_lineno - node.lineno`. -/
def span (row : Qualified) : Int := row.node.endLineno - row.node.lineno

end Qualified

/-- `visit` of `qualified_symbol_at_line`: the definitions that the line is in. -/
def enclosing (line : Nat) (above : List Identifier) : Body → List Qualified
  | .nil => []
  | .other rest => enclosing line above rest
  | .definition kind name lineno endLineno body rest =>
    (if lineno ≤ line ∧ line ≤ endLineno then
      ⟨above ++ [name], kind, name, lineno, endLineno, body⟩ ::
        enclosing line (above ++ [name]) body
    else []) ++ enclosing line above rest

def Deeper (row other : Qualified) : Prop :=
  other.path.length < row.path.length ∨
    other.path.length = row.path.length ∧ row.span < other.span

instance : DecidableRel Deeper := fun _ _ => inferInstanceAs (Decidable (_ ∨ _ ∧ _))

/-- The one to keep, of the one kept so far and the next. -/
def keepDeeper (kept : Option Qualified) (row : Qualified) : Option Qualified :=
  match kept with
  | none => some row
  | some best => if Deeper row best then some row else some best

/-- The deepest of them, and of these the shortest. -/
def innermost (line : Nat) (module : Body) : Option Qualified :=
  (enclosing line [] module).foldl keepDeeper none

/-- `qualified_symbol_at_line` for a source that the parser accepts. -/
def qualifiedSymbolAtLine (line : Nat) (module : Body) : Option (List Char) :=
  (innermost line module).map Qualified.symbol

/-- `visit` of `_qualified_symbol_rankings`: every definition. -/
def visit (above : List Identifier) : Body → List Qualified
  | .nil => []
  | .other rest => visit above rest
  | .definition kind name lineno endLineno body rest =>
    ⟨above ++ [name], kind, name, lineno, endLineno, body⟩ :: visit (above ++ [name]) body ++
      visit above rest

/-- A row of the ranking without its name. The numbers in front are counted in the texts of the
issue and of the definition. -/
def score (signals : Qualified → List Int) (row : Qualified) : List Int :=
  signals row ++ [(row.path.length : Int), -row.span, -(row.node.lineno : Int)]

/-- `ranked.sort(reverse=True)`. -/
def ranked (signals : Qualified → List Int) (module : Body) : List Qualified :=
  KeyedSort.sortBy (fun row => OrderDual.toDual (toLex (score signals row, row.symbol)))
    (visit [] module)

def qualifiedSymbolRankings (signals : Qualified → List Int) (module : Body) :
    List (List Int × List Char) :=
  (ranked signals module).map fun row => (score signals row, row.symbol)

def qualifiedSymbolCandidates (signals : Qualified → List Int) (module : Body) (topN : Nat) :
    List (List Char) :=
  ((qualifiedSymbolRankings signals module).take topN).map Prod.snd

theorem unique_eq_some_iff {nodes : List Definition} {node : Definition} :
    unique nodes = some node ↔ nodes = [node] := by
  constructor
  · intro h
    match nodes with
    | [] => cases h
    | [only] =>
      cases h
      rfl
    | _ :: _ :: _ => cases h
  · rintro rfl
    rfl

/-- The names lead from a body down to a definition, through classes and functions. -/
inductive Leads : Body → List Identifier → Definition → Prop
  | here {body : Body} {node : Definition} (hnode : node ∈ body.direct) :
      Leads body [node.name] node
  | inside {body : Body} {node target : Definition} {path : List Identifier}
      (hnode : node ∈ body.direct) (hrest : Leads node.body path target) :
      Leads body (node.name :: path) target

theorem Leads.ne_nil {body : Body} {path : List Identifier} {target : Definition}
    (h : Leads body path target) : path ≠ [] := by
  cases h <;> exact List.cons_ne_nil _ _

theorem Leads.of_direct_subset {first second : Body} {path : List Identifier} {target : Definition}
    (h : Leads first path target) (hsub : first.direct ⊆ second.direct) :
    Leads second path target := by
  cases h with
  | here hnode => exact .here (hsub hnode)
  | inside hnode hrest => exact .inside (hsub hnode) hrest

theorem mem_visit {above : List Identifier} {body : Body} {row : Qualified} :
    row ∈ visit above body ↔ ∃ path, row.path = above ++ path ∧ Leads body path row.node := by
  induction body generalizing above with
  | nil =>
    constructor
    · intro h
      cases h
    · rintro ⟨path, -, hleads⟩
      cases hleads with
      | here hnode => cases hnode
      | inside hnode _ => cases hnode
  | other rest ih =>
    rw [visit, ih]
    constructor
    · rintro ⟨path, hpath, hleads⟩
      exact ⟨path, hpath, hleads.of_direct_subset fun _ hnode => hnode⟩
    · rintro ⟨path, hpath, hleads⟩
      exact ⟨path, hpath, hleads.of_direct_subset fun _ hnode => hnode⟩
  | definition kind name lineno endLineno body rest ihbody ihrest =>
    have hfirst : ⟨kind, name, lineno, endLineno, body⟩ ∈
        (Body.definition kind name lineno endLineno body rest).direct := List.mem_cons_self
    rw [visit, List.cons_append, List.mem_cons, List.mem_append, ihbody, ihrest]
    constructor
    · rintro (rfl | ⟨path, hpath, hleads⟩ | ⟨path, hpath, hleads⟩)
      · exact ⟨[name], rfl, .here hfirst⟩
      · rw [List.append_assoc] at hpath
        exact ⟨name :: path, hpath, .inside hfirst hleads⟩
      · exact ⟨path, hpath, hleads.of_direct_subset fun _ hnode => List.mem_cons_of_mem _ hnode⟩
    · rintro ⟨path, hpath, hleads⟩
      obtain ⟨rowPath, rowNode⟩ := row
      cases hleads with
      | here hnode =>
        rcases List.mem_cons.mp hnode with rfl | hnode
        · exact .inl (by rw [show rowPath = above ++ [name] from hpath])
        · exact .inr (.inr ⟨_, hpath, .here hnode⟩)
      | inside hnode hdeeper =>
        rcases List.mem_cons.mp hnode with rfl | hnode
        · exact .inr (.inl ⟨_, by rw [List.append_assoc]; exact hpath, hdeeper⟩)
        · exact .inr (.inr ⟨_, hpath, .inside hnode hdeeper⟩)

theorem visit_of_enclosing {line : Nat} {above : List Identifier} {body : Body} {row : Qualified}
    (h : row ∈ enclosing line above body) : row ∈ visit above body := by
  induction body generalizing above with
  | nil => cases h
  | other rest ih => exact ih h
  | definition kind name lineno endLineno body rest ihbody ihrest =>
    rw [enclosing, List.mem_append] at h
    rw [visit, List.cons_append, List.mem_cons, List.mem_append]
    rcases h with h | h
    · split at h
      · rcases List.mem_cons.mp h with hrow | h
        · exact .inl hrow
        · exact .inr (.inl (ihbody h))
      · cases h
    · exact .inr (.inr (ihrest h))

theorem mem_ranked {signals : Qualified → List Int} {module : Body} {row : Qualified} :
    row ∈ ranked signals module ↔ Leads module row.path row.node := by
  rw [ranked, (KeyedSort.perm_sortBy _ _).mem_iff, mem_visit]
  constructor
  · rintro ⟨path, hpath, hleads⟩
    rwa [hpath]
  · intro hleads
    exact ⟨row.path, rfl, hleads⟩

theorem mem_of_foldl_keepDeeper {rows : List Qualified} {kept : Option Qualified}
    {row : Qualified} (h : rows.foldl keepDeeper kept = some row) :
    kept = some row ∨ row ∈ rows := by
  induction rows generalizing kept with
  | nil => exact .inl h
  | cons first rest ih =>
    rcases ih h with hkept | hrest
    · unfold keepDeeper at hkept
      split at hkept
      · exact .inr (Option.some.inj hkept ▸ List.mem_cons_self)
      · split at hkept
        · exact .inr (Option.some.inj hkept ▸ List.mem_cons_self)
        · exact .inl hkept
    · exact .inr (List.mem_cons_of_mem _ hrest)

theorem leads_of_innermost {line : Nat} {module : Body} {row : Qualified}
    (h : innermost line module = some row) : Leads module row.path row.node := by
  have hrow : row ∈ enclosing line [] module := by
    rcases mem_of_foldl_keepDeeper h with hnone | hrow
    · cases hnone
    · exact hrow
  have hmem : row ∈ visit [] module := visit_of_enclosing hrow
  obtain ⟨path, hpath, hleads⟩ := mem_visit.mp hmem
  rwa [hpath]

theorem splitOn_symbol {row : Qualified} (h : row.path ≠ []) :
    row.symbol.splitOn '.' = row.path.map Subtype.val := by
  refine List.splitOn_intercalate '.' ?_ ?_
  · intro name hname
    obtain ⟨own, -, rfl⟩ := List.mem_map.mp hname
    exact own.property
  · intro hnil
    exact h (List.map_eq_nil_iff.mp hnil)

end JlensEvolve.SkillLoop.SymbolTree
