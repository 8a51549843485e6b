import JlensEvolve.Observers.NormalisedTraces

/-!
Derived observations and their parser. Everything the parser compares is
normalised on both sides but one digest: that of the raw trace is taken before
its numbers are normalised and compared with the digest of the normalised trace.
So the parser accepts what was derived from a trace that spells its scores as
floats, and refuses it otherwise.
-/

namespace JlensEvolve.Observers

open Library Contracts

/-- The parts of an observation that was derived. -/
structure DerivedFrom (rawTrace : RawTrace) (receipt : Receipt) (predictionSha256 : String)
    (prediction : MechanismPrediction) (fields : List (String × Json))
    (locations : List Location) (expected : ExpectedEffect) : Prop where
  bound : boundPrediction receipt = .ok prediction
  predictionSha256 : isSha256 predictionSha256 = true
  decoded : rawTrace.decoded = some (.obj fields)
  canonical : rawTrace.text = (Json.obj fields).canonicalJson
  normalized : normalizeLocations fields = .ok locations
  supported : Json.pyEq (.obj fields) (traceJson locations) = true
  effect : normalizeExpectedEffect prediction.expectedInternalEffect = .ok expected

/-- The derived observation of these parts. -/
def derivedBody (receipt : Receipt) (predictionSha256 : String) (prediction : MechanismPrediction)
    (fields : List (String × Json)) (locations : List Location) (expected : ExpectedEffect) :
    List (String × Json) :=
  withDerivation (observationBody prediction receipt predictionSha256
    (Json.obj fields).contentSha256 locations expected)

theorem parseJsonObject_ok_iff (label : String) (decoded : Option Json)
    (fields : List (String × Json)) :
    parseJsonObject label decoded = .ok fields ↔ decoded = some (.obj fields) := by
  unfold parseJsonObject
  split <;> simp_all

theorem deriveObservation_ok_iff (rawTrace : RawTrace) (receipt : Receipt)
    (predictionSha256 : String) (body : List (String × Json)) :
    deriveObservation rawTrace receipt predictionSha256 = .ok body ↔
      ∃ prediction fields locations expected,
        DerivedFrom rawTrace receipt predictionSha256 prediction fields locations expected ∧
          body = derivedBody receipt predictionSha256 prediction fields locations expected := by
  simp only [deriveObservation, except_bind_ok_iff, require_ok_iff, parseJsonObject_ok_iff]
  constructor
  · rintro ⟨prediction, hbound, _, hsha256, fields, hdecoded, _, hcanonical, locations, hlocations,
      _, hsupported, expected, hexpected, hbody⟩
    cases hbody
    exact ⟨prediction, fields, locations, expected, ⟨hbound, hsha256, hdecoded, hcanonical,
      hlocations, hsupported, hexpected⟩, rfl⟩
  · rintro ⟨prediction, fields, locations, expected, h, rfl⟩
    exact ⟨prediction, h.bound, (), h.predictionSha256, fields, h.decoded, (), h.canonical,
      locations, h.normalized, (), h.supported, expected, h.effect, rfl⟩

theorem boundPrediction_artifact {receipt : Receipt} {prediction : MechanismPrediction}
    (h : boundPrediction receipt = .ok prediction) : isSha256 receipt.artifactSha256 = true := by
  simp only [boundPrediction, except_bind_ok_iff, require_ok_iff] at h
  obtain ⟨_, -, _, hartifact, -⟩ := h
  rw [hartifact]
  exact Json.contentSha256_isSha256 _

section Reading

variable {receipt : Receipt} {predictionSha256 : String} {prediction : MechanismPrediction}
  {fields value : List (String × Json)} {locations : List Location} {expected : ExpectedEffect}

theorem eq_str_of_sorted {found : Json} {text : String} (h : found.sorted = .str text) :
    found = .str text := by
  cases found <;> simp_all [Json.sorted]

theorem eq_bool_of_sorted {found : Json} {flag : Bool} (h : found.sorted = .bool flag) :
    found = .bool flag := by
  cases found <;> simp_all [Json.sorted]

theorem eq_obj_of_sorted {found : Json} {members : List (String × Json)}
    (h : found.sorted = (Json.obj members).sorted) :
    ∃ others, found = .obj others ∧ (Json.obj others).sorted = (Json.obj members).sorted := by
  cases found with
  | obj others => exact ⟨others, rfl, h⟩
  | _ => cases h

theorem payloadGet_of_sorted {body : List (String × Json)}
    (h : (Json.obj value).sorted = (Json.obj body).sorted) (key : String) :
    (payloadGet value key).sorted = (payloadGet body key).sorted := by
  have hsame : sortedObject value = sortedObject body := Json.obj.inj h
  rw [← payloadGet_sorted, hsame, payloadGet_sorted]

theorem keys_derivedBody :
    (derivedBody receipt predictionSha256 prediction fields locations expected).map Prod.fst =
      observationFields := rfl

theorem filter_derivedBody :
    (derivedBody receipt predictionSha256 prediction fields locations expected).filter
        (fun field => field.1 ≠ "derivation_sha256") =
      observationBody prediction receipt predictionSha256 (Json.obj fields).contentSha256 locations
        expected := by
  simp [derivedBody, withDerivation, observationBody]

/-- The parser accepts a derived observation, with its keys in any order, exactly
when the two digests of the trace agree. -/
theorem parse_derived_iff {rawTrace : RawTrace}
    (h : DerivedFrom rawTrace receipt predictionSha256 prediction fields locations expected)
    (hreceipt : isText receipt.receiptId = true)
    (hvalue : (Json.obj value).sorted =
      (Json.obj (derivedBody receipt predictionSha256 prediction fields locations
        expected)).sorted) :
    parseStructuredObservation (some (.obj value)) = .ok value ↔
      (Json.obj fields).contentSha256 = (traceJson locations).contentSha256 := by
  have hget := payloadGet_of_sorted hvalue
  have hkeys : sameSet (value.map Prod.fst) observationFields := by
    have hperm := Json.keys_of_sorted hvalue
    exact fun name => hperm.mem_iff
  have htext : ∀ name text, payloadGet (derivedBody receipt predictionSha256 prediction fields
      locations expected) name = .str text → payloadGet value name = .str text := by
    intro name text hname
    have hsame := hget name
    rw [hname] at hsame
    exact eq_str_of_sorted hsame
  obtain ⟨trace, htrace, htraceSorted⟩ : ∃ trace, payloadGet value "raw_trace" = .obj trace ∧
      (Json.obj trace).sorted = (Json.obj (traceFields locations)).sorted :=
    eq_obj_of_sorted (hget "raw_trace")
  obtain ⟨effect, heffect, heffectSorted⟩ :
      ∃ effect, payloadGet value "expected_internal_effect" = .obj effect ∧
        (Json.obj effect).sorted = (Json.obj expected.fields).sorted :=
    eq_obj_of_sorted (hget "expected_internal_effect")
  have hlocations : normalizeLocations trace = .ok locations := by
    obtain ⟨rows, hrows⟩ := (normalizeLocations_ok_iff fields locations).mp h.normalized
    rw [normalizeLocations_of_sorted htraceSorted]
    exact (normalizeLocations_ok_iff _ locations).mpr ⟨_, hrows.self⟩
  have hexpected : normalizeExpectedEffect effect = .ok expected := by
    rw [normalizeExpectedEffect_of_sorted heffectSorted]
    exact normalizeExpectedEffect_self h.effect
  have hobserved : Json.pyEq (payloadGet value "observed_internal_effect")
      (deriveObservedEffect locations expected).toJson = true :=
    Json.pyEq_of_sorted (hget "observed_internal_effect")
  have hconsistent : payloadGet value "effect_consistent" =
      .bool (effectIsConsistent (deriveObservedEffect locations expected) expected) :=
    eq_bool_of_sorted (hget "effect_consistent")
  have hderivation : payloadGet value "derivation_sha256" = .str (Json.obj (value.filter
      fun field => field.1 ≠ "derivation_sha256")).contentSha256 := by
    have hnodup : ((derivedBody receipt predictionSha256 prediction fields locations
        expected).map Prod.fst).Nodup := by
      rw [keys_derivedBody]
      decide
    have hsame := Json.contentSha256_of_sorted (Json.sorted_filter hnodup hvalue
      fun name => name ≠ "derivation_sha256")
    rw [filter_derivedBody] at hsame
    rw [hsame]
    exact htext _ _ rfl
  have hraw : payloadGet value "raw_trace_sha256" = .str (Json.obj fields).contentSha256 :=
    htext _ _ rfl
  simp only [parseStructuredObservation, parseJsonObject, except_bind_ok_iff, require_ok_iff,
    Except.ok.injEq, exists_eq_left', structuredParts, htrace, heffect, hlocations, hexpected,
    hobserved, hconsistent, hderivation, hraw, Json.str.injEq]
  constructor
  · rintro ⟨_, -, _, -, _, hsame, -⟩
    exact hsame
  · intro hsame
    have hsha256 : ∀ name text, payloadGet value name = .str text → isSha256 text = true →
        requireSha256Value value name = .ok text := by
      intro name text hname hdigest
      simp only [requireSha256Value, hname, hdigest, if_true]
    have hname : ∀ name text, payloadGet value name = .str text → isText text = true →
        requireTextValue value name = .ok text := fun name text hfound htext =>
      (requireText_ok_iff name _ text).mpr ⟨hfound, htext⟩
    refine ⟨(), ⟨hkeys, htext _ _ rfl⟩, (), trivial, (), hsame, (), htext _ _ rfl, (),
      htext _ _ rfl, (), trivial, (), trivial, _, hsha256 _ _ (htext _ _ rfl)
        prediction.observerConfig_isSha256, _, hsha256 _ _ (htext _ _ rfl)
          (boundPrediction_artifact h.bound), _, hsha256 _ _ (htext _ _ rfl) h.predictionSha256, _,
      hname _ _ (htext _ _ rfl) prediction.texts.2.2, _, hname _ _ (htext _ _ rfl) hreceipt, rfl⟩

end Reading

end JlensEvolve.Observers
