import Mathlib.Algebra.Order.Ring.Rat
import JlensEvolve.ExecutionContracts
import JlensEvolve.Library.Effect

/-!
Structured observations of `observers/trusted_jlens.py`: how one is derived
from a raw trace, and how one is parsed. Both sides normalise the trace and the
expected effect, so a number in them is a float afterwards, whichever way it was
spelled. Scores are exact rationals.
-/

namespace JlensEvolve.Observers

open Library Contracts

def observationSchema : String := "structured-jlens-observation-v1"

def requireText (name : String) : Json → Except String String
  | .str value =>
    if isText value then .ok value else .error (name ++ " must be non-empty text")
  | _ => .error (name ++ " must be non-empty text")

/-- A number from zero to one that is no boolean, as a float. -/
def unitNumber : Json → Option ℚ
  | .int value => if 0 ≤ value ∧ value ≤ 1 then some value else none
  | .float value => if 0 ≤ value ∧ value ≤ 1 then some value else none
  | _ => none

/-- `_parse_json_object`; `none` for bytes that are no JSON text. -/
def parseJsonObject (label : String) : Option Json → Except String (List (String × Json))
  | some (.obj fields) => .ok fields
  | some _ => .error (label ++ " must be an object")
  | none => .error (label ++ " is invalid JSON")

/-- A normalised row of a trace. -/
structure Location where
  layer : Int
  tokenPosition : Int
  phase : String
  conceptScores : List (String × ℚ)

namespace Location

def scoresJson (location : Location) : Json :=
  .obj (location.conceptScores.map fun score => (score.1, .float score.2))

def toJson (location : Location) : Json :=
  .obj [("layer", .int location.layer), ("token_position", .int location.tokenPosition),
    ("phase", .str location.phase), ("concept_scores", location.scoresJson)]

/-- `not key <= prior_key`. -/
def After (location : Location) : Option Location → Prop
  | none => True
  | some prior => prior.layer < location.layer ∨
      prior.layer = location.layer ∧ prior.tokenPosition < location.tokenPosition

instance (location : Location) (prior : Option Location) : Decidable (location.After prior) := by
  cases prior <;> unfold After <;> infer_instance

end Location

def position : Json → Option Int
  | .int value => if 0 ≤ value then some value else none
  | _ => none

/-- One turn of the loop over the scores of a row. -/
def normalizeScore (score : String × Json) : Except String (String × ℚ) := do
  let concept ← requireText "concept" (.str score.1)
  match unitNumber score.2 with
  | some value => .ok (concept, value)
  | none => .error "raw JLens concept score is invalid"

def normalizeScores : Json → Except String (List (String × ℚ))
  | .obj (first :: rest) => (Json.sortFields (first :: rest)).mapM normalizeScore
  | _ => .error "raw JLens concept scores are missing"

def locationFields : List String := ["layer", "token_position", "phase", "concept_scores"]

/-- `isinstance(row, Mapping)` with the keys of a location. -/
def locationObject : Json → Except String (List (String × Json))
  | .obj fields =>
    if sameSet (fields.map Prod.fst) locationFields then .ok fields
    else .error "raw JLens location schema is invalid"
  | _ => .error "raw JLens location schema is invalid"

/-- The checked fields of a row. -/
def locationOf (fields : List (String × Json)) : Except String Location :=
  match position (payloadGet fields "layer"), position (payloadGet fields "token_position") with
  | some layer, some tokenPosition => do
    let phase ← requireText "phase" (payloadGet fields "phase")
    let scores ← normalizeScores (payloadGet fields "concept_scores")
    return ⟨layer, tokenPosition, phase, scores⟩
  | _, _ => .error "raw JLens layer/token position is invalid"

/-- One turn of the loop over the rows, up to the comparison with the row before. -/
def normalizeLocation (row : Json) : Except String Location := do
  let fields ← locationObject row
  locationOf fields

def normalizeRows : Option Location → List Json → Except String (List Location)
  | _, [] => .ok []
  | prior, row :: rest => do
    let location ← normalizeLocation row
    require (location.After prior) "raw JLens locations must be strictly ordered"
    let locations ← normalizeRows (some location) rest
    return location :: locations

/-- The loop over the rows, which must not be empty. -/
def normalizeRowList : Json → Except String (List Location)
  | .arr (row :: rest) => normalizeRows none (row :: rest)
  | _ => .error "raw JLens trace locations are missing"

def normalizeLocations (rawTrace : List (String × Json)) : Except String (List Location) := do
  require (sameSet (rawTrace.map Prod.fst) ["locations"])
    "raw JLens trace must contain only locations"
  normalizeRowList (payloadGet rawTrace "locations")

/-- `{"locations": locations}`. -/
def traceJson (locations : List Location) : Json :=
  .obj [("locations", .arr (locations.map Location.toJson))]

structure ExpectedEffect where
  concept : String
  phase : String
  minFinalScore : ℚ
  minLocationCount : Int
  requireNonDecreasing : Bool

def ExpectedEffect.toJson (expected : ExpectedEffect) : Json :=
  .obj [("concept", .str expected.concept), ("phase", .str expected.phase),
    ("min_final_score", .float expected.minFinalScore),
    ("min_location_count", .int expected.minLocationCount),
    ("require_non_decreasing", .bool expected.requireNonDecreasing)]

def expectedEffectFields : List String :=
  ["concept", "phase", "min_final_score", "min_location_count", "require_non_decreasing"]

/-- The last three fields of an expected effect. -/
def effectBounds (threshold count monotonic : Json) : Option (ℚ × Int × Bool) :=
  match unitNumber threshold, count, monotonic with
  | some minimum, .int locations, .bool nonDecreasing =>
    if 1 ≤ locations then some (minimum, locations, nonDecreasing) else none
  | _, _, _ => none

def normalizeExpectedEffect (value : List (String × Json)) : Except String ExpectedEffect := do
  require (sameSet (value.map Prod.fst) expectedEffectFields)
    "expected internal effect schema is invalid"
  let concept ← requireText "concept" (payloadGet value "concept")
  let phase ← requireText "phase" (payloadGet value "phase")
  match effectBounds (payloadGet value "min_final_score") (payloadGet value "min_location_count")
      (payloadGet value "require_non_decreasing") with
  | some (minimum, count, monotonic) => .ok ⟨concept, phase, minimum, count, monotonic⟩
  | none => .error "expected internal effect values are invalid"

structure ObservedEffect where
  concept : String
  phase : String
  locationCount : Nat
  firstScore : Option ℚ
  finalScore : Option ℚ
  minimumScore : Option ℚ
  nonDecreasing : Bool

def optionScore : Option ℚ → Json
  | some score => .float score
  | none => .null

def ObservedEffect.toJson (observed : ObservedEffect) : Json :=
  .obj [("concept", .str observed.concept), ("phase", .str observed.phase),
    ("location_count", .int observed.locationCount),
    ("first_score", optionScore observed.firstScore),
    ("final_score", optionScore observed.finalScore),
    ("minimum_score", optionScore observed.minimumScore),
    ("non_decreasing", .bool observed.nonDecreasing)]

/-- The scores of the expected concept in its phase, in the order of the rows. -/
def expectedScores (locations : List Location) (expected : ExpectedEffect) : List ℚ :=
  locations.filterMap fun location =>
    if location.phase = expected.phase then
      Dict.lookupEntries expected.concept location.conceptScores
    else none

def deriveObservedEffect (locations : List Location) (expected : ExpectedEffect) :
    ObservedEffect :=
  match expectedScores locations expected with
  | [] => ⟨expected.concept, expected.phase, 0, none, none, none, false⟩
  | first :: rest =>
    ⟨expected.concept, expected.phase, rest.length + 1, some first,
      some ((first :: rest).getLast (List.cons_ne_nil first rest)), some (rest.foldl min first),
      ((first :: rest).zip rest).all fun pair => pair.1 ≤ pair.2⟩

def effectIsConsistent (observed : ObservedEffect) (expected : ExpectedEffect) : Bool :=
  match observed.finalScore with
  | some final =>
    expected.minLocationCount ≤ observed.locationCount && expected.minFinalScore ≤ final &&
      (!expected.requireNonDecreasing || observed.nonDecreasing)
  | none => false

def predictionFields : List String :=
  ["prediction_id", "candidate_revision_id", "mechanism_id", "observer_config_sha256",
    "expected_internal_effect", "expected_internal_effect_sha256"]

/-- `MechanismPrediction.from_payload`: `none` where it raises. The effect is kept
as it is spelled. -/
def predictionFromPayload (payload : List (String × Json)) : Option MechanismPrediction :=
  match payloadGet payload "expected_internal_effect" with
  | .obj effect =>
    if h : sameSet (payload.map Prod.fst) predictionFields ∧
        (isText (pyStr (payloadGet payload "prediction_id")) ∧
          isText (pyStr (payloadGet payload "candidate_revision_id")) ∧
          isText (pyStr (payloadGet payload "mechanism_id"))) ∧
        isSha256 (pyStr (payloadGet payload "observer_config_sha256")) = true ∧ effect ≠ [] ∧
        pyStr (payloadGet payload "expected_internal_effect_sha256") =
          (Json.obj effect).contentSha256 then
      some ⟨pyStr (payloadGet payload "prediction_id"),
        pyStr (payloadGet payload "candidate_revision_id"),
        pyStr (payloadGet payload "mechanism_id"),
        pyStr (payloadGet payload "observer_config_sha256"), effect,
        pyStr (payloadGet payload "expected_internal_effect_sha256"),
        h.2.1, h.2.2.1, h.2.2.2.1, h.2.2.2.2⟩
    else none
  | _ => none

/-- The bytes of a trace: their text and the value it decodes to. -/
structure RawTrace where
  text : String
  decoded : Option Json

def observationBody (prediction : MechanismPrediction) (receipt : Receipt)
    (predictionSha256 rawTraceSha256 : String) (locations : List Location)
    (expected : ExpectedEffect) : List (String × Json) :=
  let observed := deriveObservedEffect locations expected
  [("schema_version", .str observationSchema),
    ("observer_config_sha256", .str prediction.observerConfigSha256),
    ("mechanism_id", .str prediction.mechanismId),
    ("mechanism_prediction_receipt_id", .str receipt.receiptId),
    ("mechanism_prediction_artifact_sha256", .str receipt.artifactSha256),
    ("prediction_sha256", .str predictionSha256),
    ("raw_trace", traceJson locations),
    ("raw_trace_sha256", .str rawTraceSha256),
    ("expected_internal_effect", expected.toJson),
    ("expected_internal_effect_sha256", .str expected.toJson.contentSha256),
    ("observed_internal_effect", observed.toJson),
    ("observed_internal_effect_sha256", .str observed.toJson.contentSha256),
    ("effect_consistent", .bool (effectIsConsistent observed expected))]

/-- `body["derivation_sha256"] = _json_sha256(body)`. -/
def withDerivation (body : List (String × Json)) : List (String × Json) :=
  body ++ [("derivation_sha256", .str (Json.obj body).contentSha256)]

/-- The prediction that a receipt of its kind binds. -/
def boundPrediction (receipt : Receipt) : Except String MechanismPrediction := do
  require (receipt.kind = "mechanism_prediction") "mechanism prediction receipt kind is invalid"
  require (receipt.artifactSha256 = (Json.obj receipt.payload).contentSha256)
    "mechanism prediction receipt does not bind payload"
  match predictionFromPayload receipt.payload with
  | some prediction => .ok prediction
  | none => .error "mechanism prediction receipt payload is invalid"

/-- `derive_structured_jlens_observation`, up to the encoding of the object. -/
def deriveObservation (rawTrace : RawTrace) (receipt : Receipt) (predictionSha256 : String) :
    Except String (List (String × Json)) := do
  let prediction ← boundPrediction receipt
  require (isSha256 predictionSha256 = true)
    "prediction_sha256 must be a literal lowercase SHA-256"
  let fields ← parseJsonObject "raw JLens trace" rawTrace.decoded
  require (rawTrace.text = (Json.obj fields).canonicalJson)
    "raw JLens trace must use canonical JSON bytes"
  let locations ← normalizeLocations fields
  require (Json.pyEq (.obj fields) (traceJson locations) = true)
    "raw JLens trace contains unsupported fields"
  let expected ← normalizeExpectedEffect prediction.expectedInternalEffect
  return withDerivation (observationBody prediction receipt predictionSha256
    (Json.obj fields).contentSha256 locations expected)

def observationFields : List String :=
  ["schema_version", "observer_config_sha256", "mechanism_id", "mechanism_prediction_receipt_id",
    "mechanism_prediction_artifact_sha256", "prediction_sha256", "raw_trace", "raw_trace_sha256",
    "expected_internal_effect", "expected_internal_effect_sha256", "observed_internal_effect",
    "observed_internal_effect_sha256", "effect_consistent", "derivation_sha256"]

/-- The trace and the expected effect of an observation, both objects. -/
def structuredParts (value : List (String × Json)) :
    Except String (List (String × Json) × List (String × Json)) :=
  match payloadGet value "raw_trace", payloadGet value "expected_internal_effect" with
  | .obj rawTrace, .obj expected => .ok (rawTrace, expected)
  | _, _ => .error "trusted observation structured fields are invalid"

def requireSha256Value (value : List (String × Json)) (name : String) : Except String String :=
  match payloadGet value name with
  | .str text =>
    if isSha256 text then .ok text else .error (name ++ " must be a literal lowercase SHA-256")
  | _ => .error (name ++ " must be a literal lowercase SHA-256")

def requireTextValue (value : List (String × Json)) (name : String) : Except String String :=
  requireText name (payloadGet value name)

def parseStructuredObservation (decoded : Option Json) :
    Except String (List (String × Json)) := do
  let value ← parseJsonObject "trusted observation artifact" decoded
  require (sameSet (value.map Prod.fst) observationFields ∧
      payloadGet value "schema_version" = .str observationSchema)
    "trusted observation structured schema is invalid"
  let parts ← structuredParts value
  let locations ← normalizeLocations parts.1
  let expected ← normalizeExpectedEffect parts.2
  let observed := deriveObservedEffect locations expected
  require (Json.pyEq (payloadGet value "observed_internal_effect") observed.toJson = true)
    "trusted observation deterministic derivation mismatch"
  require (payloadGet value "raw_trace_sha256" = .str (traceJson locations).contentSha256)
    "trusted observation raw_trace_sha256 mismatch"
  require (payloadGet value "expected_internal_effect_sha256" = .str expected.toJson.contentSha256)
    "trusted observation expected_internal_effect_sha256 mismatch"
  require (payloadGet value "observed_internal_effect_sha256" = .str observed.toJson.contentSha256)
    "trusted observation observed_internal_effect_sha256 mismatch"
  require (payloadGet value "effect_consistent" = .bool (effectIsConsistent observed expected))
    "trusted observation effect consistency mismatch"
  require (payloadGet value "derivation_sha256" =
      .str (Json.obj (value.filter fun field => field.1 ≠ "derivation_sha256")).contentSha256)
    "trusted observation derivation SHA-256 mismatch"
  let _ ← requireSha256Value value "observer_config_sha256"
  let _ ← requireSha256Value value "mechanism_prediction_artifact_sha256"
  let _ ← requireSha256Value value "prediction_sha256"
  let _ ← requireTextValue value "mechanism_id"
  let _ ← requireTextValue value "mechanism_prediction_receipt_id"
  return value

end JlensEvolve.Observers
