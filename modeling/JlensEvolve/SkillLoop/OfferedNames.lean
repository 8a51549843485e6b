import JlensEvolve.SkillLoop.SymbolTree

/-!
When the names offered to the student lead back to their definitions. The two
producers name the definitions inside functions too, and give a second class of
a name the same names again, while no resolver looks into a function and
`_definition` takes the first class of a name.
-/

namespace JlensEvolve.SkillLoop.SymbolTree

/-- A producer makes the name for the definition. -/
inductive Produced (signals : Qualified → List Int) (module : Body) :
    List Char → Definition → Prop
  | ranking {row : Qualified} (hrow : row ∈ ranked signals module) :
      Produced signals module row.symbol row.node
  | atLine {line : Nat} {row : Qualified} (hrow : innermost line module = some row) :
      Produced signals module row.symbol row.node

/-- The definitions that a name can stand for: one part stands for every definition of that name
outside functions, and in front of others for the classes of that name. -/
def denoted : Body → List (List Char) → List Definition
  | _, [] => []
  | body, [name] => definitionsNamed name body
  | body, first :: second :: rest =>
    (body.direct.filter fun node => node.name.val = first ∧ node.kind = .classDef).flatMap
      fun node => denoted node.body (second :: rest)

/-- Both resolvers find the definition a name was made for, and the first of them finds nothing by a
name that stands for several definitions. -/
structure NamesResolve (signals : Qualified → List Int) (module : Body) : Prop where
  definition : ∀ name node, Produced signals module name node →
    definition module (name.splitOn '.') = some node
  findDefinition : ∀ name node, Produced signals module name node →
    findDefinition module (name.splitOn '.') = some node
  unique : ∀ parts node, SymbolTree.definition module parts = some node →
    denoted module parts = [node]

/-- The body of the module, or of a class in such a body. -/
inductive Scope (module : Body) : Body → Prop
  | module : Scope module module
  | inClass {scope : Body} {node : Definition} (hscope : Scope module scope)
      (hnode : node ∈ scope.direct) (hclass : node.kind = .classDef) : Scope module node.body

/-- No function of the body holds a definition, and no name of the body is used again in the body or
in the classes of the body. -/
def Plain (scope : Body) : Prop :=
  ∀ node ∈ scope.direct, definitionsNamed node.name.val scope = [node] ∧
    (node.kind ≠ .classDef → node.body.direct = [])

def Distinguishable (module : Body) : Prop := ∀ scope, Scope module scope → Plain scope

theorem Distinguishable.plain {module : Body} (h : Distinguishable module) : Plain module :=
  h module .module

theorem Distinguishable.inClass {module : Body} (h : Distinguishable module) {node : Definition}
    (hnode : node ∈ module.direct) (hclass : node.kind = .classDef) :
    Distinguishable node.body := by
  intro scope hscope
  refine h scope ?_
  clear h
  induction hscope with
  | module => exact .inClass .module hnode hclass
  | inClass _ hinner hkind ih => exact .inClass ih hinner hkind

theorem filter_direct_sublist (name : List Char) (body : Body) :
    (body.direct.filter (·.name.val = name)).Sublist (definitionsNamed name body) := by
  induction body with
  | nil => exact .refl _
  | other rest ih => exact ih
  | definition kind own lineno endLineno body rest _ ihrest =>
    rw [Body.direct, List.filter_cons, definitionsNamed, List.append_assoc]
    have hlater := ihrest.trans (List.sublist_append_right
      (if kind = .classDef then definitionsNamed name body else []) _)
    by_cases hname : own.val = name
    · rw [if_pos (by simpa using hname), if_pos hname]
      exact hlater.cons_cons _
    · rw [if_neg (by simpa using hname), if_neg hname]
      exact hlater

theorem filter_direct_eq {body : Body} {node : Definition} (hnode : node ∈ body.direct)
    (honce : definitionsNamed node.name.val body = [node]) :
    body.direct.filter (·.name.val = node.name.val) = [node] := by
  have hsub := filter_direct_sublist node.name.val body
  rw [honce] at hsub
  have hmem : node ∈ body.direct.filter (·.name.val = node.name.val) :=
    List.mem_filter.mpr ⟨hnode, by simp⟩
  refine hsub.eq_of_length_le ?_
  exact List.length_pos_of_mem hmem

theorem find_direct_eq {body : Body} {node : Definition} (hnode : node ∈ body.direct)
    (honce : definitionsNamed node.name.val body = [node]) :
    body.direct.find? (·.name.val = node.name.val) = some node := by
  rw [← List.head?_filter, filter_direct_eq hnode honce]
  rfl

section Class

variable {body : Body} {node : Definition} {parts : List (List Char)}

theorem definition_inClass (hnode : node ∈ body.direct)
    (honce : definitionsNamed node.name.val body = [node]) (hclass : node.kind = .classDef)
    (hparts : parts ≠ []) :
    definition body (node.name.val :: parts) = definition node.body parts := by
  obtain ⟨second, rest, rfl⟩ := List.exists_cons_of_ne_nil hparts
  rw [definition, find_direct_eq hnode honce]
  exact if_pos hclass

theorem findDefinition_inClass (hnode : node ∈ body.direct)
    (honce : definitionsNamed node.name.val body = [node]) (hclass : node.kind = .classDef)
    (hparts : parts ≠ []) :
    findDefinition body (node.name.val :: parts) = findDefinition node.body parts := by
  obtain ⟨second, rest, rfl⟩ := List.exists_cons_of_ne_nil hparts
  rw [findDefinition, filter_direct_eq hnode honce]
  exact if_pos hclass

theorem findDefinition_inFunction (hnode : node ∈ body.direct)
    (honce : definitionsNamed node.name.val body = [node]) (hclass : node.kind ≠ .classDef)
    (hparts : parts ≠ []) : findDefinition body (node.name.val :: parts) = none := by
  obtain ⟨second, rest, rfl⟩ := List.exists_cons_of_ne_nil hparts
  rw [findDefinition, filter_direct_eq hnode honce]
  exact if_neg hclass

end Class

theorem Leads.map_ne_nil {body : Body} {path : List Identifier} {target : Definition}
    (h : Leads body path target) : path.map Subtype.val ≠ [] :=
  fun hnil => h.ne_nil (List.map_eq_nil_iff.mp hnil)

theorem Leads.resolves {body : Body} {path : List Identifier} {target : Definition}
    (h : Leads body path target) (hbody : Distinguishable body) :
    definition body (path.map Subtype.val) = some target ∧
      findDefinition body (path.map Subtype.val) = some target := by
  induction h with
  | here hnode =>
    obtain ⟨honce, -⟩ := hbody.plain _ hnode
    exact ⟨unique_eq_some_iff.mpr honce, unique_eq_some_iff.mpr honce⟩
  | @inside body node target path hnode hrest ih =>
    obtain ⟨honce, hfunction⟩ := hbody.plain _ hnode
    -- a path that goes on does not go through a function
    have hclass : node.kind = .classDef := by
      by_contra hkind
      have hempty : node.body.direct = [] := hfunction hkind
      cases hrest with
      | here hinner => rw [hempty] at hinner; cases hinner
      | inside hinner _ => rw [hempty] at hinner; cases hinner
    rw [List.map_cons, definition_inClass hnode honce hclass hrest.map_ne_nil,
      findDefinition_inClass hnode honce hclass hrest.map_ne_nil]
    exact ih (hbody.inClass hnode hclass)

theorem denoted_of_definition {body : Body} {parts : List (List Char)} {target : Definition}
    (hbody : Distinguishable body) (h : definition body parts = some target) :
    denoted body parts = [target] := by
  induction body, parts using definition.induct with
  | case1 body => cases h
  | case2 body name => exact unique_eq_some_iff.mp h
  | case3 body first second rest hfind =>
    rw [definition, hfind] at h
    cases h
  | case4 body first second rest node hfind hclass ih =>
    rw [definition, hfind] at h
    replace h : definition node.body (second :: rest) = some target := by
      rw [← h]
      exact (if_pos hclass).symm
    have hnode : node ∈ body.direct := List.mem_of_find?_eq_some hfind
    obtain rfl : node.name.val = first := by simpa using List.find?_some hfind
    obtain ⟨honce, -⟩ := hbody.plain node hnode
    have honly : (body.direct.filter fun other =>
        other.name.val = node.name.val ∧ other.kind = .classDef) = [node] := by
      simp only [Bool.decide_and]
      rw [← List.filter_filter, List.filter_comm, filter_direct_eq hnode honce]
      simp [hclass]
    rw [denoted, honly, List.flatMap_singleton]
    exact ih (hbody.inClass hnode hclass) h
  | case5 body first second rest node hfind hclass =>
    rw [definition, hfind] at h
    replace h : none = some target := by
      rw [← h]
      exact (if_neg hclass).symm
    cases h

/-- `_find_definition` follows every path to its end. -/
def Followed (body : Body) : Prop :=
  ∀ path target, Leads body path target → findDefinition body (path.map Subtype.val) = some target

theorem Followed.once {body : Body} (h : Followed body) {node : Definition}
    (hnode : node ∈ body.direct) : definitionsNamed node.name.val body = [node] :=
  unique_eq_some_iff.mp (h [node.name] node (.here hnode))

theorem Followed.inClass {body : Body} (h : Followed body) {node : Definition}
    (hnode : node ∈ body.direct) (hclass : node.kind = .classDef) : Followed node.body := by
  intro path target hleads
  have hfound := h (node.name :: path) target (.inside hnode hleads)
  rwa [List.map_cons, findDefinition_inClass hnode (h.once hnode) hclass hleads.map_ne_nil]
    at hfound

theorem Followed.plain {body : Body} (h : Followed body) : Plain body := by
  intro node hnode
  refine ⟨h.once hnode, ?_⟩
  intro hkind
  refine List.eq_nil_iff_forall_not_mem.mpr ?_
  intro inner hinner
  have hfound := h [node.name, inner.name] inner (.inside hnode (.here hinner))
  rw [List.map_cons, findDefinition_inFunction hnode (h.once hnode) hkind
    (Leads.here hinner).map_ne_nil] at hfound
  cases hfound

theorem Followed.distinguishable {module : Body} (h : Followed module) :
    Distinguishable module := by
  intro scope hscope
  have hfollowed : Followed scope := by
    induction hscope with
    | module => exact h
    | inClass _ hnode hclass ih => exact ih.inClass hnode hclass
  exact hfollowed.plain

theorem Produced.leads {signals : Qualified → List Int} {module : Body} {name : List Char}
    {node : Definition} (h : Produced signals module name node) :
    ∃ path, Leads module path node ∧ name.splitOn '.' = path.map Subtype.val := by
  cases h with
  | ranking hrow =>
    have hleads := mem_ranked.mp hrow
    exact ⟨_, hleads, splitOn_symbol hleads.ne_nil⟩
  | atLine hrow =>
    have hleads := leads_of_innermost hrow
    exact ⟨_, hleads, splitOn_symbol hleads.ne_nil⟩

/-- The names offered for a module resolve to their definitions, in both resolvers, just if in the
module and in the classes down from it no name is used twice and no function holds a definition. -/
theorem names_resolve_iff (signals : Qualified → List Int) (module : Body) :
    NamesResolve signals module ↔ Distinguishable module := by
  constructor
  · intro h
    refine Followed.distinguishable ?_
    intro path target hleads
    have hrow : ⟨path, target⟩ ∈ ranked signals module := mem_ranked.mpr hleads
    have hfound := h.findDefinition _ _ (.ranking hrow)
    rwa [splitOn_symbol hleads.ne_nil] at hfound
  · intro h
    constructor
    · intro name node hproduced
      obtain ⟨path, hleads, hparts⟩ := hproduced.leads
      rw [hparts]
      exact (hleads.resolves h).1
    · intro name node hproduced
      obtain ⟨path, hleads, hparts⟩ := hproduced.leads
      rw [hparts]
      exact (hleads.resolves h).2
    · intro parts node hdefinition
      exact denoted_of_definition h hdefinition

theorem dot_notMem_outer : '.' ∉ ['f'] := by decide

theorem dot_notMem_inner : '.' ∉ ['g'] := by decide

def outerName : Identifier := ⟨['f'], dot_notMem_outer⟩

def innerName : Identifier := ⟨['g'], dot_notMem_inner⟩

def innerFunction : Definition := ⟨.functionDef, innerName, 2, 3, .other .nil⟩

/-- A function `f` with a function `g` in it, and one statement in that. -/
def nestedFunctions : Body :=
  .definition .functionDef outerName 1 3
    (.definition .functionDef innerName 2 3 (.other .nil) .nil) .nil

/-- For the third line the student is offered `f.g`, and neither resolver knows that name. -/
theorem nested_function_not_resolved :
    qualifiedSymbolAtLine 3 nestedFunctions = some ['f', '.', 'g'] ∧
      definition nestedFunctions (['f', '.', 'g'].splitOn '.') = none ∧
      findDefinition nestedFunctions (['f', '.', 'g'].splitOn '.') = none ∧
      ∀ signals, ¬NamesResolve signals nestedFunctions := by
  have hnone : definition nestedFunctions (['f', '.', 'g'].splitOn '.') = none := by decide
  refine ⟨by decide, hnone, by decide, ?_⟩
  intro signals h
  have hrow : innermost 3 nestedFunctions = some ⟨[outerName, innerName], innerFunction⟩ := by
    decide
  have hfound : definition nestedFunctions (['f', '.', 'g'].splitOn '.') = some innerFunction :=
    h.definition _ _ (.atLine hrow)
  rw [hnone] at hfound
  cases hfound

end JlensEvolve.SkillLoop.SymbolTree
