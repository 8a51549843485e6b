import JlensEvolve.Library.JsonChars
import JlensEvolve.Observers.ObservationReadback

/-!
How a raw trace spells its scores. A trace that spells every score as a float is
alike to the normalised trace, so the two have one digest. A trace that spells
one of them as an integer has a shorter text, so its digest is another one and
the observation derived from it is refused.
-/

namespace JlensEvolve.Observers

open Library Contracts

/-- A score spelled with a decimal point. -/
def isFloat : Json → Bool
  | .float _ => true
  | _ => false

def spelledScores : Json → List (String × Json)
  | .obj row =>
    match payloadGet row "concept_scores" with
    | .obj scores => scores
    | _ => []
  | _ => []

def spelledRows (rawTrace : List (String × Json)) : List Json :=
  match payloadGet rawTrace "locations" with
  | .arr rows => rows
  | _ => []

def SpelledAsFloats (rawTrace : List (String × Json)) : Prop :=
  ∀ row ∈ spelledRows rawTrace, ∀ score ∈ spelledScores row, isFloat score.2 = true

instance (rawTrace : List (String × Json)) : Decidable (SpelledAsFloats rawTrace) := by
  unfold SpelledAsFloats
  infer_instance

theorem isFloat_iff (value : Json) : isFloat value = true ↔ ∃ score, value = .float score := by
  cases value <;> simp [isFloat]

theorem unitNumber_of_isFloat {value : Json} (h : isFloat value = true)
    (hvalid : (unitNumber value).isSome = true) :
    value = .float ((unitNumber value).getD 0) := by
  obtain ⟨score, rfl⟩ := (isFloat_iff value).mp h
  by_cases hbounds : 0 ≤ score ∧ score ≤ 1
  · rw [unitNumber_float hbounds]
    rfl
  · rw [show unitNumber (.float score) = none from if_neg hbounds] at hvalid
    cases hvalid

theorem eq_int_of_not_isFloat {value : Json} (h : isFloat value = false)
    (hvalid : (unitNumber value).isSome = true) : value = .int 0 ∨ value = .int 1 := by
  cases value with
  | int number =>
    by_cases hbounds : 0 ≤ number ∧ number ≤ 1
    · have hcases : number = 0 ∨ number = 1 := by omega
      exact hcases.imp (congrArg Json.int) (congrArg Json.int)
    · rw [show unitNumber (.int number) = none from if_neg hbounds] at hvalid
      cases hvalid
  | float score => cases h
  | _ => cases hvalid

theorem textLength_score_lt {value : Json} (h : isFloat value = false)
    (hvalid : (unitNumber value).isSome = true) :
    value.textLength < (Json.float ((unitNumber value).getD 0)).textLength := by
  obtain rfl | rfl := eq_int_of_not_isFloat h hvalid <;> decide +kernel

theorem textLength_score_le {value : Json} (hvalid : (unitNumber value).isSome = true) :
    value.textLength ≤ (Json.float ((unitNumber value).getD 0)).textLength := by
  cases hfloat : isFloat value with
  | true => exact le_of_eq (congrArg Json.textLength (unitNumber_of_isFloat hfloat hvalid))
  | false => exact le_of_lt (textLength_score_lt hfloat hvalid)

section Row

variable {location : Location} {fields scores : List (String × Json)}

theorem RowOf.scoreFields_eq (h : RowOf location fields scores) :
    location.scoreFields =
      (Json.sortFields scores).map fun score =>
        (score.1, .float ((unitNumber score.2).getD 0)) := by
  rw [Location.scoreFields, h.normalized, List.map_map]
  rfl

theorem sortedFields_of_isFloat {entries : List (String × Json)}
    (h : ∀ entry ∈ entries, isFloat entry.2 = true) : Json.sortedFields entries = entries := by
  rw [Json.sortedFields_eq_map]
  refine (List.map_congr_left fun entry hmem => ?_).trans (List.map_id entries)
  obtain ⟨score, hscore⟩ := (isFloat_iff entry.2).mp (h entry hmem)
  rw [hscore, Json.sorted, ← hscore]
  rfl

theorem RowOf.scoreFields_of_floats (h : RowOf location fields scores)
    (hfloats : ∀ score ∈ scores, isFloat score.2 = true) :
    location.scoreFields = Json.sortFields scores := by
  rw [h.scoreFields_eq]
  refine (List.map_congr_left fun score hmem => ?_).trans (List.map_id _)
  have hraw := (Json.perm_sortFields scores).mem_iff.mp hmem
  rw [← unitNumber_of_isFloat (hfloats score hraw) (h.scores_valid score hraw).2]
  rfl

theorem RowOf.scores_sorted (h : RowOf location fields scores)
    (hfloats : ∀ score ∈ scores, isFloat score.2 = true) :
    (Json.obj scores).sorted = location.scoresJson.sorted := by
  have hfields : location.scoresJson = .obj (Json.sortFields scores) :=
    congrArg Json.obj (h.scoreFields_of_floats hfloats)
  have hsorted : ∀ score ∈ Json.sortFields scores, isFloat score.2 = true := fun score hmem =>
    hfloats score ((Json.perm_sortFields scores).mem_iff.mp hmem)
  rw [hfields, Json.sorted, Json.sorted, sortedFields_of_isFloat hfloats,
    sortedFields_of_isFloat hsorted, Json.sortFields_sortFields]

def entryLength (entry : String × Json) : Nat := (Json.quote entry.1).length + entry.2.textLength + 2

theorem RowOf.scores_length (h : RowOf location fields scores) :
    location.scoresJson.textLength =
      1 + (scores.map fun score =>
        entryLength (score.1, .float ((unitNumber score.2).getD 0))).sum := by
  have hne := h.self.scores_ne
  have hperm := (Json.perm_sortFields scores).map fun score =>
    entryLength (score.1, .float ((unitNumber score.2).getD 0))
  rw [show location.scoresJson = .obj location.scoreFields from rfl, Json.textLength_obj hne,
    h.scoreFields_eq, List.map_map, ← hperm.sum_eq]
  rfl

theorem RowOf.scores_length_le (h : RowOf location fields scores) :
    (Json.obj scores).textLength ≤ location.scoresJson.textLength := by
  rw [h.scores_length, Json.textLength_obj h.scores_ne]
  refine Nat.add_le_add_left (List.sum_le_sum fun score hmem => ?_) 1
  have hscore := textLength_score_le (h.scores_valid score hmem).2
  simp only [entryLength]
  omega

theorem RowOf.scores_length_lt (h : RowOf location fields scores)
    (hspelled : ∃ score ∈ scores, isFloat score.2 = false) :
    (Json.obj scores).textLength < location.scoresJson.textLength := by
  rw [h.scores_length, Json.textLength_obj h.scores_ne]
  obtain ⟨score, hmem, hscore⟩ := hspelled
  refine Nat.add_lt_add_left (List.sum_lt_sum _ _ (fun other hother => ?_) ⟨score, hmem, ?_⟩) 1
  · have hle := textLength_score_le (h.scores_valid other hother).2
    simp only [entryLength]
    omega
  · have hlt := textLength_score_lt hscore (h.scores_valid score hmem).2
    simp only [entryLength]
    omega

def rowEntries (location : Location) (scores : List (String × Json)) : List (String × Json) :=
  [("layer", .int location.layer), ("token_position", .int location.tokenPosition),
    ("phase", .str location.phase), ("concept_scores", .obj scores)]

theorem field?_of_payloadGet {entries : List (String × Json)} {key : String} {value : Json}
    (hkey : key ∈ entries.map Prod.fst) (h : payloadGet entries key = value) :
    Json.field? entries key = some value := by
  obtain ⟨found, hfound⟩ := Option.isSome_iff_exists.mp (Json.mem_keys_iff_field?.mp hkey)
  rw [payloadGet, hfound] at h
  rw [hfound, ← h]
  rfl

theorem RowOf.perm_entries (h : RowOf location fields scores)
    (hkeys : (fields.map Prod.fst).Perm locationFields) :
    fields.Perm (rowEntries location scores) := by
  have hnodup : locationFields.Nodup := by decide
  have hfields : (fields.map Prod.fst).Nodup := hkeys.nodup_iff.mpr hnodup
  have hget : ∀ key ∈ locationFields,
      Json.field? fields key = Json.field? (rowEntries location scores) key := by
    intro key hkey
    have hmem := hkeys.mem_iff.mpr hkey
    simp only [locationFields, List.mem_cons, List.not_mem_nil, or_false] at hkey
    obtain rfl | rfl | rfl | rfl := hkey
    · exact field?_of_payloadGet hmem h.layer.1
    · exact field?_of_payloadGet hmem h.tokenPosition.1
    · exact field?_of_payloadGet hmem h.phase.1
    · exact field?_of_payloadGet hmem h.conceptScores
  have hentries : ((rowEntries location scores).map Prod.fst).Nodup := hnodup
  refine (List.perm_ext_iff_of_nodup (Json.nodup_of_keys hfields)
    (Json.nodup_of_keys hentries)).mpr ?_
  rintro ⟨key, value⟩
  rw [← Json.field?_eq_some_iff hfields, ← Json.field?_eq_some_iff hentries]
  by_cases hkey : key ∈ locationFields
  · rw [hget key hkey]
  · have hnone : ∀ {entries : List (String × Json)},
        (entries.map Prod.fst).Perm locationFields → Json.field? entries key = none := by
      intro entries hentries
      rw [← Option.not_isSome_iff_eq_none, ← Json.mem_keys_iff_field?, hentries.mem_iff]
      exact hkey
    have hown : ((rowEntries location scores).map Prod.fst).Perm locationFields :=
      List.Perm.refl _
    rw [hnone hkeys, hnone hown]

theorem sorted_obj_of_perm {first second : List (String × Json)}
    (hnodup : (first.map Prod.fst).Nodup) (h : first.Perm second) :
    (Json.obj first).sorted = (Json.obj second).sorted := by
  have hsecond : (second.map Prod.fst).Nodup := (h.map Prod.fst).nodup_iff.mp hnodup
  refine Json.sorted_obj_eq hnodup hsecond fun key => congrArg (Option.map Json.sorted) ?_
  refine Option.ext fun value => ?_
  rw [Json.field?_eq_some_iff hnodup, Json.field?_eq_some_iff hsecond, h.mem_iff]

theorem RowOf.row_sorted (h : RowOf location fields scores)
    (hkeys : (fields.map Prod.fst).Perm locationFields)
    (hfloats : ∀ score ∈ scores, isFloat score.2 = true) :
    (Json.obj fields).sorted = location.toJson.sorted := by
  have hnodup : locationFields.Nodup := by decide
  rw [sorted_obj_of_perm (hkeys.nodup_iff.mpr hnodup) (h.perm_entries hkeys), Location.toJson,
    rowEntries]
  simp only [Json.sorted, Json.sortedFields]
  rw [← h.scores_sorted hfloats]
  rfl

theorem textLength_obj_entries {entries : List (String × Json)} (hne : entries ≠ []) :
    (Json.obj entries).textLength = 1 + (entries.map entryLength).sum :=
  Json.textLength_obj hne

theorem RowOf.row_length (h : RowOf location fields scores)
    (hkeys : (fields.map Prod.fst).Perm locationFields) :
    ∃ rest, (Json.obj fields).textLength = rest + (Json.obj scores).textLength ∧
      location.toJson.textLength = rest + location.scoresJson.textLength := by
  have hne : fields ≠ [] := by
    intro hnil
    rw [hnil] at hkeys
    exact absurd hkeys.length_eq (by decide)
  have hperm := ((h.perm_entries hkeys).map entryLength).sum_eq
  have hscores : ∀ value, entryLength ("concept_scores", value) =
      entryLength ("concept_scores", .null) - Json.null.textLength + value.textLength := by
    intro value
    simp only [entryLength]
    omega
  simp only [rowEntries, List.map_cons, List.map_nil, List.sum_cons, List.sum_nil,
    hscores (.obj scores)] at hperm
  refine ⟨1 + (entryLength ("layer", .int location.layer) +
    (entryLength ("token_position", .int location.tokenPosition) +
      (entryLength ("phase", .str location.phase) +
        (entryLength ("concept_scores", .null) - Json.null.textLength)))), ?_, ?_⟩
  · rw [textLength_obj_entries hne, hperm]
    omega
  · rw [Location.toJson, textLength_obj_entries (List.cons_ne_nil _ _)]
    simp only [List.map_cons, List.map_nil, List.sum_cons, List.sum_nil,
      hscores location.scoresJson]
    omega

end Row

section Trace

variable {rawTrace : List (String × Json)} {rows : List Json} {locations : List Location}

/-- A row that compares equal to the location it is normalised to. -/
def Matches (row : Json) (location : Location) : Prop :=
  normalizeLocation row = .ok location ∧ row.comparable = location.toJson.comparable

theorem Matches.rowOf {row : Json} {location : Location} (h : Matches row location) :
    ∃ fields scores, row = .obj fields ∧ spelledScores row = scores ∧
      RowOf location fields scores ∧ (fields.map Prod.fst).Perm locationFields := by
  obtain ⟨fields, scores, rfl, hrow⟩ := (normalizeLocation_ok_iff _ _).mp h.1
  refine ⟨fields, scores, rfl, ?_, hrow, Json.keys_of_comparable h.2⟩
  rw [spelledScores, hrow.conceptScores]

theorem Matches.sorted {row : Json} {location : Location} (h : Matches row location)
    (hfloats : ∀ score ∈ spelledScores row, isFloat score.2 = true) :
    row.sorted = location.toJson.sorted := by
  obtain ⟨fields, scores, rfl, hscores, hrow, hkeys⟩ := h.rowOf
  rw [hscores] at hfloats
  exact hrow.row_sorted hkeys hfloats

theorem Matches.length_le {row : Json} {location : Location} (h : Matches row location) :
    row.textLength ≤ location.toJson.textLength := by
  obtain ⟨fields, scores, rfl, -, hrow, hkeys⟩ := h.rowOf
  obtain ⟨rest, hraw, hnormal⟩ := hrow.row_length hkeys
  have hle := hrow.scores_length_le
  omega

theorem Matches.length_lt {row : Json} {location : Location} (h : Matches row location)
    (hspelled : ∃ score ∈ spelledScores row, isFloat score.2 = false) :
    row.textLength < location.toJson.textLength := by
  obtain ⟨fields, scores, rfl, hscores, hrow, hkeys⟩ := h.rowOf
  obtain ⟨rest, hraw, hnormal⟩ := hrow.row_length hkeys
  rw [hscores] at hspelled
  have hlt := hrow.scores_length_lt hspelled
  omega

theorem rows_sorted (h : List.Forall₂ Matches rows locations)
    (hfloats : ∀ row ∈ rows, ∀ score ∈ spelledScores row, isFloat score.2 = true) :
    Json.sortedItems rows = Json.sortedItems (locations.map Location.toJson) := by
  induction h with
  | nil => rfl
  | cons hfirst _ ih =>
    rw [List.map_cons, Json.sortedItems, Json.sortedItems,
      hfirst.sorted (hfloats _ List.mem_cons_self),
      ih fun row hrow => hfloats row (List.mem_cons_of_mem _ hrow)]

def rowsLength (rows : List Json) : Nat := (rows.map fun row => row.textLength + 1).sum

theorem rows_length_le (h : List.Forall₂ Matches rows locations) :
    rowsLength rows ≤ rowsLength (locations.map Location.toJson) := by
  induction h with
  | nil => exact Nat.le_refl _
  | cons hfirst _ ih =>
    have hrow := hfirst.length_le
    simp only [rowsLength, List.map_cons, List.sum_cons] at ih ⊢
    omega

theorem rows_length_lt (h : List.Forall₂ Matches rows locations)
    (hspelled : ∃ row ∈ rows, ∃ score ∈ spelledScores row, isFloat score.2 = false) :
    rowsLength rows < rowsLength (locations.map Location.toJson) := by
  induction h with
  | nil =>
    obtain ⟨row, hrow, -⟩ := hspelled
    exact absurd hrow List.not_mem_nil
  | cons hfirst hrest ih =>
    obtain ⟨row, hrow, hscore⟩ := hspelled
    have hle := rows_length_le hrest
    simp only [rowsLength, List.map_cons, List.sum_cons] at ih hle ⊢
    obtain rfl | hmem := List.mem_cons.mp hrow
    · have hlt := hfirst.length_lt hscore
      omega
    · have hlt := ih ⟨row, hmem, hscore⟩
      have hfirstLe := hfirst.length_le
      omega

theorem comparableItems_eq_iff {first second : List Json} :
    Json.comparableItems first = Json.comparableItems second ↔
      List.Forall₂ (fun item other => item.comparable = other.comparable) first second := by
  induction first generalizing second with
  | nil =>
    cases second with
    | nil => simp
    | cons item rest => simp [Json.comparableItems]
  | cons item rest ih =>
    cases second with
    | nil => simp [Json.comparableItems]
    | cons other others => simp [Json.comparableItems, ih]

theorem matches_of_both {rows : List Json} {locations : List Location}
    (hnormalized : List.Forall₂ (fun row location => normalizeLocation row = .ok location) rows
      locations)
    (hcomparable : List.Forall₂ (fun row location =>
      row.comparable = (Location.toJson location).comparable) rows locations) :
    List.Forall₂ Matches rows locations := by
  induction hnormalized with
  | nil => exact List.Forall₂.nil
  | cons hfirst _ ih =>
    obtain ⟨hsame, hrest⟩ := List.forall₂_cons.mp hcomparable
    exact List.Forall₂.cons ⟨hfirst, hsame⟩ (ih hrest)

theorem TraceOf.matches (h : TraceOf rawTrace rows locations)
    (hsupported : Json.pyEq (.obj rawTrace) (traceJson locations) = true) :
    rawTrace = [("locations", .arr rows)] ∧ List.Forall₂ Matches rows locations := by
  have hcomparable : (Json.obj rawTrace).comparable =
      (Json.obj (traceFields locations)).comparable := of_decide_eq_true hsupported
  have hkeys := Json.keys_of_comparable hcomparable
  have hsingle : rawTrace.map Prod.fst = ["locations"] := List.perm_singleton.mp hkeys
  obtain ⟨entry, rfl⟩ : ∃ entry, rawTrace = [entry] := by
    rw [← List.length_eq_one_iff, ← List.length_map Prod.fst, hsingle]
    rfl
  obtain ⟨key, value⟩ := entry
  obtain rfl : key = "locations" := by simpa using hsingle
  have hvalue : value = .arr rows := h.rows_eq
  subst hvalue
  refine ⟨rfl, ?_⟩
  have hfield := Json.field?_map_comparable_eq hcomparable "locations"
  simp only [traceFields, Json.field?_cons, if_true, Option.map_some, Option.some.injEq,
    Json.comparable, Json.arr.injEq] at hfield
  have hrows := comparableItems_eq_iff.mp hfield
  rw [List.forall₂_map_right_iff] at hrows
  exact matches_of_both h.normalized hrows

theorem spelledRows_eq : spelledRows [("locations", .arr rows)] = rows := rfl

theorem digest_of_spelled (h : TraceOf rawTrace rows locations)
    (hsupported : Json.pyEq (.obj rawTrace) (traceJson locations) = true)
    (hfloats : SpelledAsFloats rawTrace) :
    (Json.obj rawTrace).contentSha256 = (traceJson locations).contentSha256 := by
  obtain ⟨rfl, hrows⟩ := h.matches hsupported
  refine Json.contentSha256_of_sorted ?_
  rw [traceJson, Json.sorted, Json.sorted]
  simp only [Json.sortedFields, Json.sorted, rows_sorted hrows hfloats]

theorem text_ne_of_not_spelled (h : TraceOf rawTrace rows locations)
    (hsupported : Json.pyEq (.obj rawTrace) (traceJson locations) = true)
    (hspelled : ¬ SpelledAsFloats rawTrace) :
    (Json.obj rawTrace).canonicalJson ≠ (traceJson locations).canonicalJson := by
  obtain ⟨rfl, hrows⟩ := h.matches hsupported
  have hinteger : ∃ row ∈ rows, ∃ score ∈ spelledScores row, isFloat score.2 = false := by
    simpa only [SpelledAsFloats, spelledRows_eq, not_forall, exists_prop, Bool.not_eq_true] using
      hspelled
  have hlt := rows_length_lt hrows hinteger
  have hne : locations.map Location.toJson ≠ [] := by
    intro hnil
    rw [List.map_eq_nil_iff.mp hnil] at hrows
    exact h.rows_ne (List.forall₂_nil_right_iff.mp hrows)
  have hlength : ∀ {items : List Json}, items ≠ [] →
      (Json.obj [("locations", .arr items)]).textLength =
        rowsLength items + ((Json.quote "locations").length + 4) := by
    intro items hitems
    rw [textLength_obj_entries (List.cons_ne_nil _ _), List.map_singleton, List.sum_singleton,
      entryLength, Json.textLength_arr hitems, rowsLength]
    dsimp only
    omega
  intro hsame
  have htext : (Json.obj [("locations", .arr rows)]).textLength =
      (traceJson locations).textLength := congrArg (fun text => text.toList.length) hsame
  rw [hlength h.rows_ne, traceJson, hlength hne] at htext
  omega

end Trace

/-- The trace and its normalisation have different texts with one digest. -/
def TextsCollide (rawTrace : List (String × Json)) : Prop :=
  ∃ locations, normalizeLocations rawTrace = .ok locations ∧
    (Json.obj rawTrace).canonicalJson ≠ (traceJson locations).canonicalJson ∧
    (Json.obj rawTrace).contentSha256 = (traceJson locations).contentSha256

/-- The parser accepts the observation, whatever order its text puts the keys in, returns
it unchanged, and the trace in it is the raw trace. -/
def ReadsBack (rawTrace body : List (String × Json)) : Prop :=
  ∀ stored, (Json.obj stored).sorted = (Json.obj body).sorted →
    parseStructuredObservation (some (.obj stored)) = .ok stored ∧
      Json.pyEq (.obj rawTrace) (payloadGet stored "raw_trace") = true

theorem digest_iff {rawTrace : List (String × Json)} {locations : List Location}
    (hlocations : normalizeLocations rawTrace = .ok locations)
    (hsupported : Json.pyEq (.obj rawTrace) (traceJson locations) = true) :
    (Json.obj rawTrace).contentSha256 = (traceJson locations).contentSha256 ↔
      SpelledAsFloats rawTrace ∨ TextsCollide rawTrace := by
  obtain ⟨rows, hrows⟩ := (normalizeLocations_ok_iff _ _).mp hlocations
  constructor
  · intro hdigest
    by_cases hfloats : SpelledAsFloats rawTrace
    · exact Or.inl hfloats
    · exact Or.inr ⟨locations, hlocations,
        text_ne_of_not_spelled hrows hsupported hfloats, hdigest⟩
  · rintro (hfloats | ⟨found, hfound, -, hdigest⟩)
    · exact digest_of_spelled hrows hsupported hfloats
    · rw [hlocations] at hfound
      cases hfound
      exact hdigest

theorem pyEq_trace {receipt : Receipt} {predictionSha256 : String}
    {prediction : MechanismPrediction} {fields stored : List (String × Json)}
    {locations : List Location} {expected : ExpectedEffect}
    (hsupported : Json.pyEq (.obj fields) (traceJson locations) = true)
    (hstored : (Json.obj stored).sorted =
      (Json.obj (derivedBody receipt predictionSha256 prediction fields locations
        expected)).sorted) :
    Json.pyEq (.obj fields) (payloadGet stored "raw_trace") = true := by
  have hsame : (payloadGet stored "raw_trace").sorted = (traceJson locations).sorted :=
    payloadGet_of_sorted hstored "raw_trace"
  have hcomparable := Json.comparable_of_sorted hsame
  rw [Json.pyEq, hcomparable]
  exact hsupported

/-- A derived observation reads back exactly when the raw trace spelled every score as a
float, a collision of the two texts aside. -/
theorem derived_readsBack_iff (rawTrace : RawTrace) (receipt : Receipt)
    (predictionSha256 : String) (fields body : List (String × Json))
    (hreceipt : receipt.postInit = true) (hdecoded : rawTrace.decoded = some (.obj fields))
    (hderived : deriveObservation rawTrace receipt predictionSha256 = .ok body) :
    ReadsBack fields body ↔ SpelledAsFloats fields ∨ TextsCollide fields := by
  obtain ⟨prediction, found, locations, expected, hparts, rfl⟩ :=
    (deriveObservation_ok_iff rawTrace receipt predictionSha256 body).mp hderived
  have hsame := hdecoded.symm.trans hparts.decoded
  cases hsame
  have hid : isText receipt.receiptId = true := by
    simp only [Receipt.postInit, Bool.and_eq_true] at hreceipt
    exact hreceipt.1.1.1.1.1.1
  rw [← digest_iff hparts.normalized hparts.supported]
  constructor
  · intro hreads
    exact (parse_derived_iff hparts hid rfl).mp (hreads _ rfl).1
  · intro hdigest stored hstored
    exact ⟨(parse_derived_iff hparts hid hstored).mpr hdigest,
      pyEq_trace hparts.supported hstored⟩

theorem predictionFromPayload_asPayload (prediction : MechanismPrediction) :
    predictionFromPayload prediction.asPayload = some prediction := by
  have hkeys : sameSet (prediction.asPayload.map Prod.fst) predictionFields := fun _ => Iff.rfl
  have hvalid := And.intro hkeys (And.intro prediction.texts
    (And.intro prediction.observerConfig_isSha256
      (And.intro prediction.effect_ne prediction.effect_sha256)))
  exact dif_pos hvalid

def predictionReceipt (receiptId : String) (prediction : MechanismPrediction) : Receipt :=
  { receiptId := receiptId
    campaignId := "campaign"
    planId := "plan"
    sequence := 1
    kind := "mechanism_prediction"
    createdAt := "2026-01-01T00:00:00Z"
    payload := prediction.asPayload
    artifactSha256 := (Json.obj prediction.asPayload).contentSha256
    supersedesReceiptId := none }

theorem boundPrediction_receipt (receiptId : String) (prediction : MechanismPrediction) :
    boundPrediction (predictionReceipt receiptId prediction) = .ok prediction := by
  simp only [boundPrediction, except_bind_ok_iff, require_ok_iff]
  refine ⟨(), rfl, (), rfl, ?_⟩
  simp only [predictionReceipt, predictionFromPayload_asPayload]

theorem predictionReceipt_valid {receiptId : String} (prediction : MechanismPrediction)
    (h : isText receiptId = true) : (predictionReceipt receiptId prediction).postInit = true := by
  have hartifact : isSha256 (Json.obj prediction.asPayload).contentSha256 = true :=
    Json.contentSha256_isSha256 _
  have htexts : isText "campaign" = true ∧ isText "plan" = true ∧
      isText "mechanism_prediction" = true ∧ isText "2026-01-01T00:00:00Z" = true := by
    decide
  simp [Receipt.postInit, predictionReceipt, h, hartifact, htexts]

/-- An effect that any score of the concept fulfils. -/
def weakEffect : ExpectedEffect := ⟨"c", "p", 0, 1, false⟩

theorem weakEffect_normalized : normalizeExpectedEffect weakEffect.fields = .ok weakEffect := by
  have hbounds : effectBounds (.float 0) (.int 1) (.bool false) = some (0, 1, false) := by
    decide
  simp only [normalizeExpectedEffect, except_bind_ok_iff, require_ok_iff, requireText_ok_iff]
  refine ⟨(), fun _ => Iff.rfl, "c", ⟨rfl, by decide⟩, "p", ⟨rfl, by decide⟩, ?_⟩
  simp only [weakEffect, ExpectedEffect.fields, payloadGet_cons, String.reduceEq, if_false, if_true,
    hbounds]

theorem weakPrediction_texts : isText "prediction" ∧ isText "candidate" ∧ isText "mechanism" := by
  decide

theorem weakEffect_ne : weakEffect.fields ≠ [] := List.cons_ne_nil _ _

def weakPrediction : MechanismPrediction where
  predictionId := "prediction"
  candidateRevisionId := "candidate"
  mechanismId := "mechanism"
  observerConfigSha256 := (Json.obj []).contentSha256
  expectedInternalEffect := weakEffect.fields
  expectedInternalEffectSha256 := (Json.obj weakEffect.fields).contentSha256
  texts := weakPrediction_texts
  observerConfig_isSha256 := Json.contentSha256_isSha256 _
  effect_ne := weakEffect_ne
  effect_sha256 := rfl

/-- The text of a value, and the value. -/
def traceOf (fields : List (String × Json)) : RawTrace where
  text := (Json.obj fields).canonicalJson
  decoded := some (.obj fields)

/-- One row with one score of the concept. -/
def traceWith (score : Json) : List (String × Json) :=
  [("locations", .arr [.obj [("layer", .int 0), ("token_position", .int 0), ("phase", .str "p"),
    ("concept_scores", .obj [("c", score)])]])]

theorem traceWith_derived {score : Json} {number : ℚ} (h : unitNumber score = some number)
    (hsame : score.comparable = .float number) :
    DerivedFrom (traceOf (traceWith score)) (predictionReceipt "receipt" weakPrediction)
      (Json.obj []).contentSha256 weakPrediction (traceWith score) [⟨0, 0, "p", [("c", number)]⟩]
      weakEffect where
  bound := boundPrediction_receipt "receipt" weakPrediction
  predictionSha256 := Json.contentSha256_isSha256 _
  decoded := rfl
  canonical := rfl
  normalized := by
    have hvalid : isText "p" = true ∧ isText "c" = true := by decide
    refine (normalizeLocations_ok_iff _ _).mpr ⟨_, fun _ => Iff.rfl, rfl, List.cons_ne_nil _ _,
      List.Forall₂.cons ((normalizeLocation_ok_iff _ _).mpr ⟨_, [("c", score)], rfl, ?_⟩)
        List.Forall₂.nil, trivial, trivial⟩
    refine ⟨fun _ => Iff.rfl, ⟨rfl, Int.le_refl 0⟩, ⟨rfl, Int.le_refl 0⟩, ⟨rfl, hvalid.1⟩, rfl,
      List.cons_ne_nil _ _, ?_, ?_⟩
    · intro entry hmem
      obtain rfl := List.mem_singleton.mp hmem
      exact ⟨hvalid.2, by rw [h]; rfl⟩
    · simp [Json.sortFields, unitScore, h]
  supported := by
    simp [Json.pyEq, traceWith, traceJson, Location.toJson, Location.scoresJson, Json.comparable,
      Json.comparableItems, Json.comparableFields, hsame]
  effect := weakEffect_normalized

theorem derived_reads_back_floats :
    ReadsBack (traceWith (.float 1))
      (derivedBody (predictionReceipt "receipt" weakPrediction) (Json.obj []).contentSha256
        weakPrediction (traceWith (.float 1)) [⟨0, 0, "p", [("c", 1)]⟩] weakEffect) := by
  have hnumber : unitNumber (.float 1) = some 1 := by decide
  have hparts := traceWith_derived hnumber rfl
  have hid : isText "receipt" = true := by decide
  refine (derived_readsBack_iff (traceOf (traceWith (.float 1)))
    (predictionReceipt "receipt" weakPrediction) (Json.obj []).contentSha256 _ _
    (predictionReceipt_valid weakPrediction hid) rfl
    ((deriveObservation_ok_iff _ _ _ _).mpr ⟨_, _, _, _, hparts, rfl⟩)).mpr (Or.inl ?_)
  decide

theorem integer_score_refused :
    deriveObservation (traceOf (traceWith (.int 1))) (predictionReceipt "receipt" weakPrediction)
        (Json.obj []).contentSha256 =
      .ok (derivedBody (predictionReceipt "receipt" weakPrediction) (Json.obj []).contentSha256
        weakPrediction (traceWith (.int 1)) [⟨0, 0, "p", [("c", 1)]⟩] weakEffect) ∧
    ¬ ReadsBack (traceWith (.int 1))
      (derivedBody (predictionReceipt "receipt" weakPrediction) (Json.obj []).contentSha256
        weakPrediction (traceWith (.int 1)) [⟨0, 0, "p", [("c", 1)]⟩] weakEffect) := by
  have hnumber : unitNumber (.int 1) = some 1 := by decide
  have hparts := traceWith_derived hnumber (by simp [Json.comparable])
  have hid : isText "receipt" = true := by decide
  refine ⟨(deriveObservation_ok_iff _ _ _ _).mpr ⟨_, _, _, _, hparts, rfl⟩, fun hreads => ?_⟩
  have hdigest := (parse_derived_iff hparts hid rfl).mp (hreads _ rfl).1
  rw [Json.contentSha256_eq, Json.contentSha256_eq] at hdigest
  exact absurd hdigest (by decide +kernel)

end JlensEvolve.Observers
