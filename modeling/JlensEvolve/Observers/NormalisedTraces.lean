import JlensEvolve.Library.KeyOrder
import JlensEvolve.Observers.StructuredObservation

/-!
Normalising a trace and an expected effect: it does not see the order of keys,
what it returns says which values it accepts, and what it returned once it
returns again.
-/

namespace JlensEvolve.Observers

open Library Contracts

/-- The fields of an object in key order, values included. -/
def sortedObject (fields : List (String × Json)) : List (String × Json) :=
  Json.sortFields (Json.sortedFields fields)

theorem payloadGet_sorted (fields : List (String × Json)) (key : String) :
    payloadGet (sortedObject fields) key = (payloadGet fields key).sorted := by
  rw [payloadGet, sortedObject, Json.field?_sortFields, Json.field?_sortedFields, payloadGet]
  cases Json.field? fields key <;> rfl

theorem map_fst_sortedFields (fields : List (String × Json)) :
    (Json.sortedFields fields).map Prod.fst = fields.map Prod.fst := by
  rw [Json.sortedFields_eq_map, List.map_map]
  rfl

theorem sameSet_sorted (fields : List (String × Json)) (names : List String) :
    sameSet ((sortedObject fields).map Prod.fst) names ↔ sameSet (fields.map Prod.fst) names := by
  have hperm := (Json.perm_sortFields (Json.sortedFields fields)).map Prod.fst
  rw [map_fst_sortedFields] at hperm
  exact forall_congr' fun item => iff_congr hperm.mem_iff Iff.rfl

theorem requireText_sorted (name : String) (value : Json) :
    requireText name value.sorted = requireText name value := by
  cases value <;> rfl

theorem unitNumber_sorted (value : Json) : unitNumber value.sorted = unitNumber value := by
  cases value <;> rfl

theorem position_sorted (value : Json) : position value.sorted = position value := by
  cases value <;> rfl

theorem effectBounds_sorted (threshold count monotonic : Json) :
    effectBounds threshold.sorted count.sorted monotonic.sorted =
      effectBounds threshold count monotonic := by
  unfold effectBounds
  rw [unitNumber_sorted]
  cases unitNumber threshold with
  | none => rfl
  | some minimum =>
    cases count <;> cases monotonic <;> rfl

theorem normalizeScores_obj (fields : List (String × Json)) :
    normalizeScores (.obj fields) =
      if fields = [] then .error "raw JLens concept scores are missing"
      else (Json.sortFields fields).mapM normalizeScore := by
  cases fields with
  | nil => rfl
  | cons first rest => rfl

theorem normalizeScore_sorted (concept : String) (value : Json) :
    normalizeScore (concept, value.sorted) = normalizeScore (concept, value) := by
  simp only [normalizeScore, unitNumber_sorted]

theorem normalizeScores_sorted (value : Json) :
    normalizeScores value.sorted = normalizeScores value := by
  cases value with
  | obj fields =>
    have hempty : sortedObject fields = [] ↔ fields = [] := by
      rw [← List.length_eq_zero_iff, ← List.length_eq_zero_iff, sortedObject,
        (Json.perm_sortFields _).length_eq, Json.sortedFields_eq_map, List.length_map]
    have hmap : (Json.sortFields (sortedObject fields)).mapM normalizeScore =
        (Json.sortFields fields).mapM normalizeScore := by
      rw [sortedObject, Json.sortFields_sortFields, Json.sortedFields_eq_map,
        Json.sortFields_map, List.mapM_map]
      exact congrArg (fun step => (Json.sortFields fields).mapM step)
        (funext fun field => normalizeScore_sorted field.1 field.2)
    have hsorted : (Json.obj fields).sorted = .obj (sortedObject fields) := rfl
    rw [hsorted, normalizeScores_obj, normalizeScores_obj, hmap]
    by_cases hnil : fields = []
    · rw [if_pos hnil, if_pos (hempty.mpr hnil)]
    · rw [if_neg hnil, if_neg fun h => hnil (hempty.mp h)]
  | _ => rfl

theorem locationOf_sorted (fields : List (String × Json)) :
    locationOf (sortedObject fields) = locationOf fields := by
  simp only [locationOf, payloadGet_sorted, position_sorted, requireText_sorted,
    normalizeScores_sorted]

theorem normalizeLocation_sorted (row : Json) :
    normalizeLocation row.sorted = normalizeLocation row := by
  cases row with
  | obj fields =>
    have hsorted : (Json.obj fields).sorted = .obj (sortedObject fields) := rfl
    rw [hsorted]
    by_cases hkeys : sameSet (fields.map Prod.fst) locationFields
    · have hkeysSorted := (sameSet_sorted fields locationFields).mpr hkeys
      simp only [normalizeLocation, locationObject, if_pos hkeys, if_pos hkeysSorted]
      exact locationOf_sorted fields
    · have hkeysSorted := fun h => hkeys ((sameSet_sorted fields locationFields).mp h)
      simp only [normalizeLocation, locationObject, if_neg hkeys, if_neg hkeysSorted]
  | _ => rfl

theorem normalizeRows_sorted (prior : Option Location) (rows : List Json) :
    normalizeRows prior (Json.sortedItems rows) = normalizeRows prior rows := by
  induction rows generalizing prior with
  | nil => rfl
  | cons row rest ih =>
    simp only [Json.sortedItems, normalizeRows, normalizeLocation_sorted, ih]

theorem normalizeRowList_sorted (value : Json) :
    normalizeRowList value.sorted = normalizeRowList value := by
  cases value with
  | arr items =>
    cases items with
    | nil => rfl
    | cons row rest => exact normalizeRows_sorted none (row :: rest)
  | _ => rfl

theorem normalizeLocations_sorted (fields : List (String × Json)) :
    normalizeLocations (sortedObject fields) = normalizeLocations fields := by
  have hkeys := sameSet_sorted fields ["locations"]
  simp only [normalizeLocations, payloadGet_sorted, normalizeRowList_sorted, require, hkeys]

theorem normalizeExpectedEffect_sorted (fields : List (String × Json)) :
    normalizeExpectedEffect (sortedObject fields) = normalizeExpectedEffect fields := by
  have hkeys := sameSet_sorted fields expectedEffectFields
  simp only [normalizeExpectedEffect, payloadGet_sorted, requireText_sorted, effectBounds_sorted,
    require, hkeys]

theorem normalizeLocations_of_sorted {first second : List (String × Json)}
    (h : (Json.obj first).sorted = (Json.obj second).sorted) :
    normalizeLocations first = normalizeLocations second := by
  have hsame : sortedObject first = sortedObject second := Json.obj.inj h
  rw [← normalizeLocations_sorted first, hsame, normalizeLocations_sorted]

theorem normalizeExpectedEffect_of_sorted {first second : List (String × Json)}
    (h : (Json.obj first).sorted = (Json.obj second).sorted) :
    normalizeExpectedEffect first = normalizeExpectedEffect second := by
  have hsame : sortedObject first = sortedObject second := Json.obj.inj h
  rw [← normalizeExpectedEffect_sorted first, hsame, normalizeExpectedEffect_sorted]

theorem requireText_ok_iff (name : String) (value : Json) (text : String) :
    requireText name value = .ok text ↔ value = .str text ∧ isText text = true := by
  cases value with
  | str found =>
    simp only [requireText, Json.str.injEq]
    split
    · rename_i htext
      constructor
      · intro h
        cases h
        exact ⟨rfl, htext⟩
      · rintro ⟨rfl, -⟩
        rfl
    · rename_i htext
      constructor
      · intro h
        cases h
      · rintro ⟨rfl, hfound⟩
        exact absurd hfound htext
  | _ => simp [requireText]

theorem position_eq_some_iff (value : Json) (place : Int) :
    position value = some place ↔ value = .int place ∧ 0 ≤ place := by
  cases value with
  | int found =>
    simp only [position, Json.int.injEq]
    split
    · rename_i hplace
      constructor
      · intro h
        cases h
        exact ⟨rfl, hplace⟩
      · rintro ⟨rfl, -⟩
        rfl
    · rename_i hplace
      constructor
      · intro h
        cases h
      · rintro ⟨rfl, hfound⟩
        exact absurd hfound hplace
  | _ => simp [position]

theorem unitNumber_float {score : ℚ} (h : 0 ≤ score ∧ score ≤ 1) :
    unitNumber (.float score) = some score := if_pos h

theorem unitNumber_bounds {value : Json} {score : ℚ} (h : unitNumber value = some score) :
    0 ≤ score ∧ score ≤ 1 := by
  unfold unitNumber at h
  split at h
  · split at h
    · rename_i hbounds
      cases h
      exact ⟨by exact_mod_cast hbounds.1, by exact_mod_cast hbounds.2⟩
    · cases h
  · split at h
    · rename_i hbounds
      cases h
      exact hbounds
    · cases h
  · cases h

/-- A score as the normalised row holds it. -/
def unitScore (score : String × Json) : String × ℚ := (score.1, (unitNumber score.2).getD 0)

theorem normalizeScore_ok_iff (score : String × Json) (answer : String × ℚ) :
    normalizeScore score = .ok answer ↔
      (isText score.1 = true ∧ (unitNumber score.2).isSome = true) ∧ answer = unitScore score := by
  obtain ⟨concept, value⟩ := score
  simp only [normalizeScore, except_bind_ok_iff, requireText_ok_iff, Json.str.injEq, unitScore]
  cases unitNumber value with
  | none => simp
  | some number =>
    constructor
    · rintro ⟨text, ⟨rfl, htext⟩, hanswer⟩
      cases hanswer
      exact ⟨⟨htext, rfl⟩, rfl⟩
    · rintro ⟨⟨htext, -⟩, rfl⟩
      exact ⟨concept, ⟨rfl, htext⟩, rfl⟩

theorem normalizeScores_ok_iff (value : Json) (answers : List (String × ℚ)) :
    normalizeScores value = .ok answers ↔
      ∃ scores, value = .obj scores ∧ scores ≠ [] ∧
        (∀ score ∈ scores, isText score.1 = true ∧ (unitNumber score.2).isSome = true) ∧
        answers = (Json.sortFields scores).map unitScore := by
  cases value with
  | obj scores =>
    rw [normalizeScores_obj]
    by_cases hnil : scores = []
    · simp [hnil]
    · rw [if_neg hnil, mapM_checked_iff fun score _ => normalizeScore_ok_iff score]
      have hmem : (∀ score ∈ Json.sortFields scores,
          isText score.1 = true ∧ (unitNumber score.2).isSome = true) ↔
            ∀ score ∈ scores, isText score.1 = true ∧ (unitNumber score.2).isSome = true :=
        forall_congr' fun score => imp_congr (Json.perm_sortFields scores).mem_iff Iff.rfl
      rw [hmem]
      constructor
      · rintro ⟨hvalid, hanswers⟩
        exact ⟨scores, rfl, hnil, hvalid, hanswers⟩
      · rintro ⟨found, hsame, -, hvalid, hanswers⟩
        cases hsame
        exact ⟨hvalid, hanswers⟩
  | _ => simp [normalizeScores]

/-- What a row and the location it is normalised to have in common. -/
structure RowOf (location : Location) (fields scores : List (String × Json)) : Prop where
  keys : sameSet (fields.map Prod.fst) locationFields
  layer : payloadGet fields "layer" = .int location.layer ∧ 0 ≤ location.layer
  tokenPosition : payloadGet fields "token_position" = .int location.tokenPosition ∧
    0 ≤ location.tokenPosition
  phase : payloadGet fields "phase" = .str location.phase ∧ isText location.phase = true
  conceptScores : payloadGet fields "concept_scores" = .obj scores
  scores_ne : scores ≠ []
  scores_valid : ∀ score ∈ scores, isText score.1 = true ∧ (unitNumber score.2).isSome = true
  normalized : location.conceptScores = (Json.sortFields scores).map unitScore

theorem normalizeLocation_ok_iff (row : Json) (location : Location) :
    normalizeLocation row = .ok location ↔
      ∃ fields scores, row = .obj fields ∧ RowOf location fields scores := by
  cases row with
  | obj fields =>
    by_cases hkeys : sameSet (fields.map Prod.fst) locationFields
    · simp only [normalizeLocation, locationObject, if_pos hkeys, except_bind_ok_iff,
        Except.ok.injEq, exists_eq_left', locationOf]
      constructor
      · intro h
        split at h
        · rename_i layer tokenPosition hlayer htoken
          simp only [except_bind_ok_iff, requireText_ok_iff, normalizeScores_ok_iff] at h
          obtain ⟨phase, hphase, answers, ⟨scores, hscores, hne, hvalid, rfl⟩, hlocation⟩ := h
          cases hlocation
          exact ⟨fields, scores, rfl, hkeys, (position_eq_some_iff _ _).mp hlayer,
            (position_eq_some_iff _ _).mp htoken, hphase, hscores, hne, hvalid, rfl⟩
        · cases h
      · rintro ⟨found, scores, hsame, h⟩
        cases hsame
        simp only [(position_eq_some_iff _ _).mpr h.layer,
          (position_eq_some_iff _ _).mpr h.tokenPosition, except_bind_ok_iff, requireText_ok_iff,
          normalizeScores_ok_iff]
        exact ⟨location.phase, h.phase, location.conceptScores,
          ⟨scores, h.conceptScores, h.scores_ne, h.scores_valid, h.normalized⟩, rfl⟩
    · simp only [normalizeLocation, locationObject, if_neg hkeys, except_bind_ok_iff,
        reduceCtorEq, false_and, exists_false, false_iff]
      rintro ⟨found, scores, hsame, h⟩
      cases hsame
      exact hkeys h.keys
  | _ =>
    simp [normalizeLocation, locationObject, except_bind_ok_iff]

def Location.fields (location : Location) : List (String × Json) :=
  [("layer", .int location.layer), ("token_position", .int location.tokenPosition),
    ("phase", .str location.phase), ("concept_scores", location.scoresJson)]

def Location.scoreFields (location : Location) : List (String × Json) :=
  location.conceptScores.map fun score => (score.1, .float score.2)

theorem sortFields_eq_self {α : Type} {fields : List (String × α)}
    (h : fields.Pairwise fun x y => x.1 ≤ y.1) : Json.sortFields fields = fields :=
  List.Pairwise.insertionSort_eq h

theorem RowOf.pairwise_scores {location : Location} {fields scores : List (String × Json)}
    (h : RowOf location fields scores) :
    location.scoreFields.Pairwise fun x y => x.1 ≤ y.1 := by
  rw [Location.scoreFields, h.normalized, List.map_map, List.pairwise_map]
  exact Json.pairwise_sortFields scores

theorem RowOf.score_bounds {location : Location} {fields scores : List (String × Json)}
    (h : RowOf location fields scores) {score : String × ℚ}
    (hmem : score ∈ location.conceptScores) :
    isText score.1 = true ∧ 0 ≤ score.2 ∧ score.2 ≤ 1 := by
  rw [h.normalized, List.mem_map] at hmem
  obtain ⟨raw, hraw, rfl⟩ := hmem
  obtain ⟨htext, hsome⟩ := h.scores_valid raw ((Json.perm_sortFields scores).mem_iff.mp hraw)
  obtain ⟨number, hnumber⟩ := Option.isSome_iff_exists.mp hsome
  refine ⟨htext, ?_⟩
  rw [unitScore, hnumber]
  exact unitNumber_bounds hnumber

theorem RowOf.self {location : Location} {fields scores : List (String × Json)}
    (h : RowOf location fields scores) : RowOf location location.fields location.scoreFields where
  keys := fun _ => Iff.rfl
  layer := ⟨rfl, h.layer.2⟩
  tokenPosition := ⟨rfl, h.tokenPosition.2⟩
  phase := ⟨rfl, h.phase.2⟩
  conceptScores := rfl
  scores_ne := by
    intro hnil
    rw [Location.scoreFields, h.normalized, List.map_map, List.map_eq_nil_iff] at hnil
    have hperm := Json.perm_sortFields scores
    rw [hnil] at hperm
    exact h.scores_ne (List.nil_perm.mp hperm)
  scores_valid := by
    intro score hmem
    obtain ⟨normal, hnormal, rfl⟩ := List.mem_map.mp hmem
    obtain ⟨htext, hbounds⟩ := h.score_bounds hnormal
    exact ⟨htext, by rw [unitNumber_float hbounds]; rfl⟩
  normalized := by
    rw [sortFields_eq_self h.pairwise_scores, Location.scoreFields, List.map_map]
    refine ((List.map_congr_left fun score hmem => ?_).trans (List.map_id _)).symm
    rw [Function.comp_apply, unitScore, unitNumber_float (h.score_bounds hmem).2]
    rfl

/-- Each location after the one before it. -/
def Ordered : Option Location → List Location → Prop
  | _, [] => True
  | prior, location :: rest => location.After prior ∧ Ordered (some location) rest

theorem normalizeRows_ok_iff (prior : Option Location) (rows : List Json)
    (locations : List Location) :
    normalizeRows prior rows = .ok locations ↔
      List.Forall₂ (fun row location => normalizeLocation row = .ok location) rows locations ∧
        Ordered prior locations := by
  induction rows generalizing prior locations with
  | nil =>
    rw [normalizeRows, List.forall₂_nil_left_iff]
    constructor
    · intro h
      cases h
      exact ⟨rfl, trivial⟩
    · rintro ⟨rfl, -⟩
      rfl
  | cons row rest ih =>
    simp only [normalizeRows, except_bind_ok_iff, require_ok_iff, ih, List.forall₂_cons_left_iff]
    constructor
    · rintro ⟨location, hlocation, _, hafter, others, ⟨hrest, hordered⟩, hsame⟩
      cases hsame
      exact ⟨⟨location, others, hlocation, hrest, rfl⟩, hafter, hordered⟩
    · rintro ⟨⟨location, others, hlocation, hrest, rfl⟩, hafter, hordered⟩
      exact ⟨location, hlocation, (), hafter, others, ⟨hrest, hordered⟩, rfl⟩

/-- What a trace and its locations have in common. -/
structure TraceOf (rawTrace : List (String × Json)) (rows : List Json)
    (locations : List Location) : Prop where
  keys : sameSet (rawTrace.map Prod.fst) ["locations"]
  rows_eq : payloadGet rawTrace "locations" = .arr rows
  rows_ne : rows ≠ []
  normalized : List.Forall₂ (fun row location => normalizeLocation row = .ok location) rows
    locations
  ordered : Ordered none locations

theorem normalizeLocations_ok_iff (rawTrace : List (String × Json)) (locations : List Location) :
    normalizeLocations rawTrace = .ok locations ↔
      ∃ rows, TraceOf rawTrace rows locations := by
  simp only [normalizeLocations, except_bind_ok_iff, require_ok_iff]
  constructor
  · rintro ⟨_, hkeys, hrows⟩
    unfold normalizeRowList at hrows
    split at hrows
    · rename_i row rest hvalue
      obtain ⟨hnormalized, hordered⟩ := (normalizeRows_ok_iff none _ locations).mp hrows
      exact ⟨row :: rest, hkeys, hvalue, List.cons_ne_nil row rest, hnormalized, hordered⟩
    · cases hrows
  · rintro ⟨rows, h⟩
    refine ⟨(), h.keys, ?_⟩
    rw [h.rows_eq]
    cases rows with
    | nil => exact absurd rfl h.rows_ne
    | cons row rest => exact (normalizeRows_ok_iff none _ locations).mpr ⟨h.normalized, h.ordered⟩

theorem forall_right {α β : Type} {holds : β → Prop} {items : List α} {others : List β}
    (h : List.Forall₂ (fun _ other => holds other) items others) :
    ∀ other ∈ others, holds other := by
  induction h with
  | nil => exact fun _ hmem => absurd hmem List.not_mem_nil
  | cons hfirst _ ih => exact List.forall_mem_cons.mpr ⟨hfirst, ih⟩

def traceFields (locations : List Location) : List (String × Json) :=
  [("locations", .arr (locations.map Location.toJson))]

theorem TraceOf.self {rawTrace : List (String × Json)} {rows : List Json}
    {locations : List Location} (h : TraceOf rawTrace rows locations) :
    TraceOf (traceFields locations) (locations.map Location.toJson) locations where
  keys := fun _ => Iff.rfl
  rows_eq := rfl
  rows_ne := by
    intro hnil
    rw [List.map_eq_nil_iff] at hnil
    have hrows := h.normalized
    rw [hnil, List.forall₂_nil_right_iff] at hrows
    exact h.rows_ne hrows
  normalized := by
    rw [List.forall₂_map_left_iff, List.forall₂_same]
    refine forall_right (h.normalized.imp fun row location hrow => ?_)
    obtain ⟨fields, scores, -, hfields⟩ := (normalizeLocation_ok_iff row location).mp hrow
    exact (normalizeLocation_ok_iff _ location).mpr
      ⟨location.fields, location.scoreFields, rfl, hfields.self⟩
  ordered := h.ordered

def ExpectedEffect.fields (expected : ExpectedEffect) : List (String × Json) :=
  [("concept", .str expected.concept), ("phase", .str expected.phase),
    ("min_final_score", .float expected.minFinalScore),
    ("min_location_count", .int expected.minLocationCount),
    ("require_non_decreasing", .bool expected.requireNonDecreasing)]

theorem effectBounds_self {threshold count monotonic : Json} {bounds : ℚ × Int × Bool}
    (h : effectBounds threshold count monotonic = some bounds) :
    effectBounds (.float bounds.1) (.int bounds.2.1) (.bool bounds.2.2) = some bounds := by
  unfold effectBounds at h
  split at h
  · rename_i minimum locations nonDecreasing hminimum
    split at h
    · rename_i hlocations
      cases h
      simp only [effectBounds, unitNumber_float (unitNumber_bounds hminimum)]
      exact if_pos hlocations
    · cases h
  · cases h

theorem normalizeExpectedEffect_self {value : List (String × Json)} {expected : ExpectedEffect}
    (h : normalizeExpectedEffect value = .ok expected) :
    normalizeExpectedEffect expected.fields = .ok expected := by
  simp only [normalizeExpectedEffect, except_bind_ok_iff, require_ok_iff, requireText_ok_iff] at h
  obtain ⟨_, -, concept, ⟨-, hconcept⟩, phase, ⟨-, hphase⟩, h⟩ := h
  split at h
  · rename_i minimum count monotonic hbounds
    cases h
    simp only [normalizeExpectedEffect, except_bind_ok_iff, require_ok_iff, requireText_ok_iff]
    refine ⟨(), fun _ => Iff.rfl, concept, ⟨rfl, hconcept⟩, phase, ⟨rfl, hphase⟩, ?_⟩
    have hself := effectBounds_self hbounds
    simp only [ExpectedEffect.fields, payloadGet_cons, String.reduceEq, if_false, if_true]
    simp only [hself]
  · cases h

end JlensEvolve.Observers
