import JlensEvolve.Contracts
import JlensEvolve.Library.Effect

/-!
The Router of a Teacher candidate, from `proposals/candidate_chain.py`: its keys
are mapped onto the selected tasks, and tasks it does not route are given to the
operator of the candidate.
-/

namespace JlensEvolve.Proposals

open Library Contracts

/-- What `_IDENTIFIER` allows after the first character. -/
def isIdentifierChar (c : Char) : Bool :=
  c.isAlphanum || c == '.' || c == '_' || c == '-'

/-- `_IDENTIFIER.fullmatch(value) is not None`. -/
def isIdentifier (value : String) : Bool :=
  match value.toList with
  | [] => false
  | c :: rest => c.isAlphanum && decide (rest.length ≤ 127) && rest.all isIdentifierChar

def requireText (name : String) : Json → Except String String
  | .str value =>
    if isText value = true then .ok value else .error (name ++ " must be non-empty text")
  | _ => .error (name ++ " must be non-empty text")

def requireIdentifier (name value : String) : Except String Unit :=
  require (isIdentifier value = true) (name ++ " is not a safe immutable identifier")

/-- The required tasks of a `CompileSpec`, with the checks of its constructor. -/
structure CompileSpec where
  requiredRouteTaskIds : List String
  identifiers : ∀ taskId ∈ requiredRouteTaskIds, isIdentifier taskId = true
  nodup : requiredRouteTaskIds.Nodup

/-- A route: a task with the operator it goes to. -/
abbrev Route := String × String

def repairRoutes (routes : List Route) (requiredTaskIds : List String) (operatorId : String) :
    List Route :=
  let missing := requiredTaskIds.filter fun taskId => taskId ∉ routes.map Prod.fst
  if missing = [] then routes else routes ++ missing.map fun taskId => (taskId, operatorId)

/-- The `synthesized_task_ids` of `compile`. -/
def synthesizedTaskIds (routes : List Route) (requiredTaskIds : List String) : List String :=
  requiredTaskIds.filter fun taskId => taskId ∉ routes.map Prod.fst

def normalizeRouteKey (key : String) (requiredTaskIds : List String) : Except String String :=
  if key ∈ requiredTaskIds then .ok key
  else match requiredTaskIds.filter (contains key) with
    | [taskId] => .ok taskId
    | _ => .error "candidate Router task_id is not a safe immutable identifier"

/-- `set(fields) == set(names)`. -/
def hasFields (fields : List (String × Json)) (names : List String) : Prop :=
  (∀ field ∈ fields, field.1 ∈ names) ∧ ∀ name ∈ names, name ∈ fields.map Prod.fst

instance (fields : List (String × Json)) (names : List String) :
    Decidable (hasFields fields names) :=
  inferInstanceAs (Decidable (_ ∧ _))

/-- `list(raw_routes.items())` of an object, a list as it is, and nothing of any
other value. -/
def rowsOf : Json → List Json
  | .obj items => items.map fun item => .arr [.str item.1, item.2]
  | .arr items => items
  | _ => []

/-- The rows of a Router, which may stand under the one key `routes`. -/
def routerRows : Json → Except String (List Json)
  | .obj fields => do
    require (fields ≠ []) "candidate Router is invalid"
    let rows := rowsOf
      (if hasFields fields ["routes"] then payloadGet fields "routes" else .obj fields)
    require (rows ≠ []) "candidate Router routes are invalid"
    pure rows
  | _ => .error "candidate Router is invalid"

/-- The task and the operator that a row names. -/
def routeParts : Json → Except String (Json × Json)
  | .obj fields =>
    if hasFields fields ["task_id", "operator_id"] then
      .ok (payloadGet fields "task_id", payloadGet fields "operator_id")
    else .error "candidate Router route is invalid"
  | .arr [taskId, operatorId] => .ok (taskId, operatorId)
  | _ => .error "candidate Router route is invalid"

def readRoute (operatorId : String) (requiredTaskIds : List String) (row : Json) :
    Except String Route := do
  let parts ← routeParts row
  let key ← requireText "candidate Router task_id" parts.1
  let taskId ←
    if requiredTaskIds ≠ [] then normalizeRouteKey key requiredTaskIds
    else do
      requireIdentifier "candidate Router task_id" key
      pure key
  require (parts.2 = .str operatorId) "candidate Router references another Operator"
  pure (taskId, operatorId)

def candidateRoutes (value : Json) (operatorId : String) (requiredTaskIds : List String) :
    Except String (List Route) := do
  let rows ← routerRows value
  let routes ← rows.mapM (readRoute operatorId requiredTaskIds)
  require (routes.map Prod.fst).Nodup "candidate Router task IDs must be unique"
  pure routes

end JlensEvolve.Proposals

/-!
What normalising and repairing a Router does. A key is mapped onto a selected
task when it is that task or contains no other selected one; the repaired Router
keeps the provided routes in their order and adds one route for each required
task they leave out.
-/

namespace JlensEvolve.Proposals

open Library Contracts

theorem filter_eq_singleton_iff {items : List String} (hnodup : items.Nodup)
    {test : String → Bool} {item : String} :
    items.filter test = [item] ↔
      (item ∈ items ∧ test item = true) ∧
        ∀ other ∈ items, test other = true → other = item := by
  constructor
  · intro h
    have hmem : ∀ other, (other ∈ items ∧ test other = true) ↔ other = item := by
      intro other
      rw [← List.mem_filter, h, List.mem_singleton]
    exact ⟨(hmem item).mpr rfl, fun other hother htest => (hmem other).mp ⟨hother, htest⟩⟩
  · intro h
    obtain ⟨hitem, honly⟩ := h
    refine List.perm_singleton.mp ?_
    rw [List.perm_ext_iff_of_nodup (hnodup.filter test) (List.nodup_singleton item)]
    intro other
    rw [List.mem_filter, List.mem_singleton]
    exact ⟨fun hother => honly other hother.1 hother.2, fun hsame => hsame ▸ hitem⟩

theorem normalizeRouteKey_self {key : String} {requiredTaskIds : List String}
    (h : key ∈ requiredTaskIds) : normalizeRouteKey key requiredTaskIds = .ok key := by
  rw [normalizeRouteKey, if_pos h]

theorem normalizeRouteKey_other_iff {key taskId : String} {requiredTaskIds : List String}
    (h : key ∉ requiredTaskIds) :
    normalizeRouteKey key requiredTaskIds = .ok taskId ↔
      requiredTaskIds.filter (contains key) = [taskId] := by
  rw [normalizeRouteKey, if_neg h]
  constructor
  · intro hnormal
    split at hnormal
    · next found hfound =>
      cases hnormal
      exact hfound
    · cases hnormal
  · intro hfilter
    rw [hfilter]

theorem normalizeRouteKey_mem {key taskId : String} {requiredTaskIds : List String}
    (h : normalizeRouteKey key requiredTaskIds = .ok taskId) : taskId ∈ requiredTaskIds := by
  by_cases hkey : key ∈ requiredTaskIds
  · rw [normalizeRouteKey_self hkey] at h
    cases h
    exact hkey
  · have hfilter := (normalizeRouteKey_other_iff hkey).mp h
    have hmem : taskId ∈ requiredTaskIds.filter (contains key) := by
      rw [hfilter]
      exact List.mem_singleton_self taskId
    exact (List.mem_filter.mp hmem).1

/-- A selected task is its own key, whatever the other selected tasks contain or
are contained in. Any other key goes to a selected task exactly when that task
occurs in it and no other selected task does, and is refused elsewhere. -/
theorem normalizeRouteKey_selects (spec : CompileSpec) (key : String) :
    (key ∈ spec.requiredRouteTaskIds →
      normalizeRouteKey key spec.requiredRouteTaskIds = .ok key) ∧
    (key ∉ spec.requiredRouteTaskIds → ∀ taskId,
      normalizeRouteKey key spec.requiredRouteTaskIds = .ok taskId ↔
        (taskId ∈ spec.requiredRouteTaskIds ∧ contains key taskId = true) ∧
          ∀ other ∈ spec.requiredRouteTaskIds, contains key other = true → other = taskId) := by
  refine ⟨normalizeRouteKey_self, fun hkey taskId => ?_⟩
  rw [normalizeRouteKey_other_iff hkey, filter_eq_singleton_iff spec.nodup]

/-! A task whose id extends the one selected id is taken for it. -/

def oneSelected : CompileSpec := ⟨["django__django-1114"], by decide, by decide⟩

theorem longer_task_captured :
    isIdentifier "django__django-11149" = true ∧
      "django__django-11149" ∉ oneSelected.requiredRouteTaskIds ∧
      normalizeRouteKey "django__django-11149" oneSelected.requiredRouteTaskIds =
        .ok "django__django-1114" := by
  decide

/-- What a row that is read becomes: a route to the operator, over a selected
task where tasks are selected. -/
theorem readRoute_ok {operatorId : String} {requiredTaskIds : List String} {row : Json}
    {route : Route} (h : readRoute operatorId requiredTaskIds row = .ok route) :
    route.2 = operatorId ∧ (requiredTaskIds ≠ [] → route.1 ∈ requiredTaskIds) := by
  by_cases hrequired : requiredTaskIds ≠ []
  · simp only [readRoute, if_pos hrequired, except_bind_ok_iff, require_ok_iff, exists_const] at h
    obtain ⟨parts, -, key, -, taskId, htask, -, hroute⟩ := h
    cases hroute
    exact ⟨rfl, fun _ => normalizeRouteKey_mem htask⟩
  · simp only [readRoute, if_neg hrequired, except_bind_ok_iff, require_ok_iff, exists_const] at h
    obtain ⟨parts, -, key, -, _, -, taskId, -, -, hroute⟩ := h
    cases hroute
    exact ⟨rfl, fun hsome => absurd hsome hrequired⟩

/-- What `_candidate_routes` makes of the rows of a Router. -/
structure Provided (router : Json) (operatorId : String) (requiredTaskIds : List String)
    (routes : List Route) : Prop where
  rows : ∃ rows, routerRows router = .ok rows ∧
    rows.mapM (readRoute operatorId requiredTaskIds) = .ok routes
  nodup : (routes.map Prod.fst).Nodup
  ne_nil : routes ≠ []
  operators : ∀ route ∈ routes, route.2 = operatorId
  selected : requiredTaskIds ≠ [] → ∀ route ∈ routes, route.1 ∈ requiredTaskIds

theorem routerRows_ne {router : Json} {rows : List Json} (h : routerRows router = .ok rows) :
    rows ≠ [] := by
  cases router with
  | obj fields =>
    simp only [routerRows, except_bind_ok_iff, require_ok_iff, exists_const] at h
    obtain ⟨-, hne, hrows⟩ := h
    cases hrows
    exact hne
  | _ => cases h

theorem provided_of_candidateRoutes {router : Json} {operatorId : String}
    {requiredTaskIds : List String} {routes : List Route}
    (h : candidateRoutes router operatorId requiredTaskIds = .ok routes) :
    Provided router operatorId requiredTaskIds routes := by
  simp only [candidateRoutes, except_bind_ok_iff, require_ok_iff, exists_const] at h
  obtain ⟨rows, hrows, read, hread, hnodup, hsame⟩ := h
  cases hsame
  have hroute : ∀ route ∈ routes, ∃ row ∈ rows,
      readRoute operatorId requiredTaskIds row = .ok route :=
    fun route hroute => (mem_mapM_iff hread route).mp hroute
  refine ⟨⟨rows, hrows, hread⟩, hnodup, ?_, ?_, ?_⟩
  · intro hnil
    obtain ⟨row, hrow⟩ := List.exists_mem_of_ne_nil rows (routerRows_ne hrows)
    obtain ⟨route, hrouteRead⟩ := mapM_ok_mem hread hrow
    have hmem := (mem_mapM_iff hread route).mpr ⟨row, hrow, hrouteRead⟩
    rw [hnil] at hmem
    exact absurd hmem List.not_mem_nil
  · intro route hmem
    obtain ⟨row, -, hread⟩ := hroute route hmem
    exact (readRoute_ok hread).1
  · intro hrequired route hmem
    obtain ⟨row, -, hread⟩ := hroute route hmem
    exact (readRoute_ok hread).2 hrequired

theorem repairRoutes_eq (routes : List Route) (requiredTaskIds : List String)
    (operatorId : String) :
    repairRoutes routes requiredTaskIds operatorId =
      routes ++ (synthesizedTaskIds routes requiredTaskIds).map fun taskId =>
        (taskId, operatorId) := by
  simp only [repairRoutes, synthesizedTaskIds]
  split
  · next hnone => rw [hnone, List.map_nil, List.append_nil]
  · rfl

theorem mem_synthesized_iff {routes : List Route} {requiredTaskIds : List String}
    {taskId : String} : taskId ∈ synthesizedTaskIds routes requiredTaskIds ↔
      taskId ∈ requiredTaskIds ∧ taskId ∉ routes.map Prod.fst := by
  rw [synthesizedTaskIds, List.mem_filter, decide_eq_true_eq]

theorem keys_repairRoutes (routes : List Route) (requiredTaskIds : List String)
    (operatorId : String) :
    (repairRoutes routes requiredTaskIds operatorId).map Prod.fst =
      routes.map Prod.fst ++ synthesizedTaskIds routes requiredTaskIds := by
  rw [repairRoutes_eq, List.map_append, List.map_map]
  congr 1
  exact List.map_id _

theorem nodup_keys_repairRoutes {routes : List Route} {requiredTaskIds : List String}
    (hroutes : (routes.map Prod.fst).Nodup) (hrequired : requiredTaskIds.Nodup)
    (operatorId : String) :
    ((repairRoutes routes requiredTaskIds operatorId).map Prod.fst).Nodup := by
  rw [keys_repairRoutes, List.nodup_append]
  refine ⟨hroutes, hrequired.filter _, ?_⟩
  intro first hfirst second hsecond hsame
  exact (mem_synthesized_iff.mp hsecond).2 (hsame ▸ hfirst)

theorem required_repairRoutes (routes : List Route) {requiredTaskIds : List String}
    (operatorId : String) {taskId : String} (h : taskId ∈ requiredTaskIds) :
    taskId ∈ (repairRoutes routes requiredTaskIds operatorId).map Prod.fst := by
  rw [keys_repairRoutes, List.mem_append]
  by_cases hprovided : taskId ∈ routes.map Prod.fst
  · exact Or.inl hprovided
  · exact Or.inr (mem_synthesized_iff.mpr ⟨h, hprovided⟩)

theorem repairRoutes_of_covers {routes : List Route} {requiredTaskIds : List String}
    (h : ∀ taskId ∈ requiredTaskIds, taskId ∈ routes.map Prod.fst) (operatorId : String) :
    repairRoutes routes requiredTaskIds operatorId = routes := by
  have hnone : synthesizedTaskIds routes requiredTaskIds = [] := by
    rw [synthesizedTaskIds, List.filter_eq_nil_iff]
    intro taskId htask
    simp only [decide_eq_true_eq, not_not]
    exact h taskId htask
  rw [repairRoutes_eq, hnone, List.map_nil, List.append_nil]

/-- What the compiler makes of an accepted Router. -/
structure Repair (spec : CompileSpec) (operatorId : String) (provided repaired : List Route)
    (synthesized : List String) : Prop where
  distinct : (repaired.map Prod.fst).Nodup
  covers : ∀ taskId ∈ spec.requiredRouteTaskIds, taskId ∈ repaired.map Prod.fst
  keeps : repaired = provided ++ synthesized.map fun taskId => (taskId, operatorId)
  marks : ∀ taskId, taskId ∈ synthesized ↔
    taskId ∈ spec.requiredRouteTaskIds ∧ taskId ∉ provided.map Prod.fst
  onlyRequired : spec.requiredRouteTaskIds ≠ [] →
    ∀ route ∈ repaired, route.1 ∈ spec.requiredRouteTaskIds
  operators : ∀ route ∈ repaired, route.2 = operatorId
  again : repairRoutes repaired spec.requiredRouteTaskIds operatorId = repaired
  noMore : synthesizedTaskIds repaired spec.requiredRouteTaskIds = []

/-- Every Router that the compiler accepts has its rows read in their order and
is then repaired. -/
theorem router_repaired (spec : CompileSpec) (operatorId : String) {router : Json}
    {provided : List Route}
    (h : candidateRoutes router operatorId spec.requiredRouteTaskIds = .ok provided) :
    (∃ rows, routerRows router = .ok rows ∧
      rows.mapM (readRoute operatorId spec.requiredRouteTaskIds) = .ok provided) ∧
    Repair spec operatorId provided
      (repairRoutes provided spec.requiredRouteTaskIds operatorId)
      (synthesizedTaskIds provided spec.requiredRouteTaskIds) := by
  have hprovided := provided_of_candidateRoutes h
  have hcovers : ∀ taskId ∈ spec.requiredRouteTaskIds, taskId ∈
      (repairRoutes provided spec.requiredRouteTaskIds operatorId).map Prod.fst :=
    fun taskId htask => required_repairRoutes provided operatorId htask
  refine ⟨hprovided.rows, nodup_keys_repairRoutes hprovided.nodup spec.nodup operatorId, hcovers,
    repairRoutes_eq _ _ _, fun taskId => mem_synthesized_iff, ?_, ?_,
    repairRoutes_of_covers hcovers operatorId, ?_⟩
  · intro hrequired route hroute
    have hkey := List.mem_map_of_mem hroute (f := Prod.fst)
    rw [keys_repairRoutes, List.mem_append] at hkey
    rcases hkey with hkey | hkey
    · obtain ⟨other, hother, hsame⟩ := List.mem_map.mp hkey
      rw [← hsame]
      exact hprovided.selected hrequired other hother
    · exact (mem_synthesized_iff.mp hkey).1
  · intro route hroute
    rw [repairRoutes_eq, List.mem_append] at hroute
    rcases hroute with hroute | hroute
    · exact hprovided.operators route hroute
    · obtain ⟨taskId, -, rfl⟩ := List.mem_map.mp hroute
      rfl
  · rw [synthesizedTaskIds, List.filter_eq_nil_iff]
    intro taskId htask
    simp only [decide_eq_true_eq, not_not]
    exact hcovers taskId htask

def twoSelected : CompileSpec :=
  ⟨["django__django-11149", "laravel__framework-52684"], by decide, by decide⟩

def derivedRouter : Json :=
  .obj [("routes", .obj [("feedback-django__django-11149@e245046bb6e8", .str "op-v1")])]

theorem derivedRouter_repaired :
    repairRoutes [("django__django-11149", "op-v1")] twoSelected.requiredRouteTaskIds "op-v1" =
        [("django__django-11149", "op-v1"), ("laravel__framework-52684", "op-v1")] ∧
      Repair twoSelected "op-v1" [("django__django-11149", "op-v1")]
        (repairRoutes [("django__django-11149", "op-v1")] twoSelected.requiredRouteTaskIds "op-v1")
        (synthesizedTaskIds [("django__django-11149", "op-v1")]
          twoSelected.requiredRouteTaskIds) := by
  have hroutes : candidateRoutes derivedRouter "op-v1" twoSelected.requiredRouteTaskIds =
      .ok [("django__django-11149", "op-v1")] := by rfl
  exact ⟨by decide, (router_repaired twoSelected "op-v1" hroutes).2⟩

end JlensEvolve.Proposals
