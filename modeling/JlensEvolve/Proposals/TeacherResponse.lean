import JlensEvolve.Contracts
import JlensEvolve.Library.Effect

/-!
What a Teacher model can answer. A decoded answer may hold a NaN, an infinity or
a text with lone surrogates, none of which the canonical encoder writes; the
candidate in it is a second JSON text.
-/

namespace JlensEvolve.Proposals

open Library Contracts

/-- A decoded text. With lone surrogates it has no UTF-8 form: `none`. -/
abbrev PyText := Option String

/-- A value as `json.loads` makes it. `nonFinite` stands for NaN and the
infinities. -/
inductive Decoded where
  | null
  | bool (value : Bool)
  | int (value : Int)
  | float (value : ℚ)
  | nonFinite
  | str (value : PyText)
  | arr (items : List Decoded)
  | obj (fields : List (PyText × Decoded))

/-- What `json.loads` raises: a `JSONDecodeError`, or another error for a number
with too many digits or a text nested too deep. -/
inductive LoadsError where
  | jsonDecodeError
  | other

/-- The parts of the interpreter that the proposer rests on. -/
structure Interpreter where
  recursionLimit : Nat
  recursionLimit_ge : 2 ≤ recursionLimit
  /-- The most digits an integer is written with. -/
  maxStrDigits : Nat
  maxStrDigits_pos : 1 ≤ maxStrDigits
  casefold : String → String
  /-- `int(text)`: `none` where it raises. -/
  intOfText : String → Option Int
  /-- `float(value)` of an integer: `none` for an `OverflowError`. -/
  floatOfInt : Int → Option ℚ
  /-- Two integers within the floats have a sum that can be written. -/
  floatOfInt_digits : ∀ value amount, floatOfInt value = some amount →
    2 * value.natAbs < 10 ^ maxStrDigits
  /-- `round(value, 8)`: `none` for an amount beyond the floats. -/
  round8 : ℚ → Option ℚ
  loads : String → Except LoadsError Decoded

namespace Interpreter

variable (python : Interpreter)

/-- What `canonical_json` of a value encodes, with so many levels left: `none`
where it raises. -/
def encodeAt : Nat → Decoded → Option Json
  | _, .null => some .null
  | _, .bool value => some (.bool value)
  | _, .int value =>
    if value.natAbs < 10 ^ python.maxStrDigits then some (.int value) else none
  | _, .float value => some (.float value)
  | _, .nonFinite => none
  | _, .str text => text.map .str
  | 0, .arr _ => none
  | levels + 1, .arr items => (items.mapM (encodeAt levels)).map .arr
  | 0, .obj _ => none
  | levels + 1, .obj fields =>
    (fields.mapM fun (field : PyText × Decoded) =>
      field.1.bind fun key => (encodeAt levels field.2).map fun value => (key, value)).map .obj

/-- `canonical_json(value).encode("utf-8")`, as the value it decodes to. -/
def encode (value : Decoded) : Option Json := python.encodeAt python.recursionLimit value

/-- `int(value)`: `none` where it raises. -/
def intOf : Json → Option Int
  | .bool value => some (if value then 1 else 0)
  | .int value => some value
  | .float value => some (Int.tdiv value.num value.den)
  | .str text => python.intOfText text
  | _ => none

/-- The content text and the token counts of a raw response: `none` where
reading them raises one of the four errors that are caught. -/
def readResponse (raw : Json) : Option (String × Int × Int) :=
  match raw with
  | .obj fields =>
    match Json.field? fields "choices", Json.field? fields "usage" with
    | some (.arr (.obj choice :: _)), some (.obj usage) =>
      match payloadGet choice "message" with
      | .obj message =>
        match payloadGet message "content" with
        | .str content =>
          (Json.field? usage "prompt_tokens").bind fun prompt =>
            (python.intOf prompt).bind fun inputTokens =>
              (Json.field? usage "completion_tokens").bind fun completion =>
                (python.intOf completion).map fun outputTokens =>
                  (content, inputTokens, outputTokens)
        | _ => none
      | _ => none
    | _, _ => none
  | _ => none

end Interpreter

mutual

/-- A stored value as it is decoded again. -/
def Decoded.ofJson : Json → Decoded
  | .null => .null
  | .bool value => .bool value
  | .int value => .int value
  | .float value => .float value
  | .str value => .str (some value)
  | .arr items => .arr (Decoded.ofItems items)
  | .obj fields => .obj (Decoded.ofFields fields)

def Decoded.ofItems : List Json → List Decoded
  | [] => []
  | item :: rest => Decoded.ofJson item :: Decoded.ofItems rest

def Decoded.ofFields : List (String × Json) → List (PyText × Decoded)
  | [] => []
  | (key, value) :: rest => (some key, Decoded.ofJson value) :: Decoded.ofFields rest

end

def v1CandidateFields : List String := ["protocol", "prompt_template", "skill_text", "eval_note"]

def v2CandidateFields : List String :=
  v1CandidateFields ++ ["operator", "router", "memory_policy", "preconditions",
    "expected_external_effect", "expected_internal_effect", "falsification"]

/-- `set(fields) == set(names)`. -/
def HasKeys (fields : List (PyText × Decoded)) (names : List String) : Prop :=
  (∀ field ∈ fields, field.1 ∈ names.map some) ∧
    ∀ name ∈ names, some name ∈ fields.map Prod.fst

instance (fields : List (PyText × Decoded)) (names : List String) :
    Decidable (HasKeys fields names) :=
  inferInstanceAs (Decidable (_ ∧ _))

/-- `content.get(name)`. -/
def getKey (fields : List (PyText × Decoded)) (name : String) : Decoded :=
  (Dict.lookupEntries (some name) fields).getD .null

/-- A text that is not blank. No surrogate is a blank. -/
def Decoded.isText : Decoded → Bool
  | .str (some value) => Contracts.isText value
  | .str none => true
  | _ => false

def Decoded.isObject : Decoded → Bool
  | .obj fields => !fields.isEmpty
  | _ => false

def Decoded.isList : Decoded → Bool
  | .arr items => !items.isEmpty
  | _ => false

/-- `value is None`. -/
def Decoded.isNull : Decoded → Bool
  | .null => true
  | _ => false

/-- `value is None or value == "" or value == [] or value == {}`. -/
def Decoded.isEmpty : Decoded → Bool
  | .null => true
  | .str (some value) => value = ""
  | .arr items => items.isEmpty
  | .obj fields => fields.isEmpty
  | _ => false

/-- The checks of `_validate_teacher_candidate` on the fields that only the
second schema has. -/
def validateV2Fields (fields : List (PyText × Decoded)) : Except String Unit := do
  ["operator", "router"].forM fun name =>
    require ((getKey fields name).isObject = true)
      ("teacher candidate " ++ name ++ " must be an object")
  require (((getKey fields "memory_policy").isNull || (getKey fields "memory_policy").isObject)
      = true)
    "teacher candidate memory_policy must be an object or null"
  require ((getKey fields "preconditions").isList = true)
    "teacher candidate preconditions must be a list"
  ["expected_external_effect", "expected_internal_effect", "falsification"].forM fun name =>
    require ((getKey fields name).isEmpty = false)
      ("teacher candidate " ++ name ++ " must be non-empty")

def validateVersionFields (version : Int) (fields : List (PyText × Decoded)) :
    Except String Unit :=
  if version = 2 then validateV2Fields fields else .ok ()

def candidateVersion (fields : List (PyText × Decoded)) : Except String Int :=
  if HasKeys fields v1CandidateFields then .ok 1
  else if HasKeys fields v2CandidateFields then .ok 2
  else .error "teacher candidate fields are invalid"

/-- `_validate_teacher_candidate`, up to the schema version it returns. The source
goes over the first schema's fields in no fixed order. -/
def validateTeacherCandidate : Decoded → Except String Int
  | .obj fields => do
    let version ← candidateVersion fields
    v1CandidateFields.forM fun name =>
      require ((getKey fields name).isText = true)
        ("teacher candidate " ++ name ++ " must be non-empty text")
    validateVersionFields version fields
    return version
  | _ => .error "teacher candidate fields are invalid"

namespace Interpreter

variable {python : Interpreter}

theorem mapM_some_mono {α β : Type} {f g : α → Option β} {items : List α} {answers : List β}
    (hfg : ∀ item answer, f item = some answer → g item = some answer)
    (h : items.mapM f = some answers) : items.mapM g = some answers := by
  induction items generalizing answers with
  | nil => exact h
  | cons first rest ih =>
    simp only [List.mapM_cons, Option.bind_eq_bind, Option.bind_eq_some_iff, Option.pure_def,
      Option.some.injEq] at h ⊢
    obtain ⟨answer, hfirst, others, hrest, rfl⟩ := h
    exact ⟨answer, hfg first answer hfirst, others, ih hrest, rfl⟩

theorem encodeAt_succ {levels : Nat} {value : Decoded} {encoded : Json}
    (h : python.encodeAt levels value = some encoded) :
    python.encodeAt (levels + 1) value = some encoded := by
  induction levels generalizing value encoded with
  | zero =>
    cases value <;> simp_all [encodeAt]
  | succ levels ih =>
    cases value with
    | arr items =>
      simp only [encodeAt, Option.map_eq_some_iff] at h ⊢
      obtain ⟨answers, hitems, rfl⟩ := h
      exact ⟨answers, mapM_some_mono (fun item answer hitem => ih hitem) hitems, rfl⟩
    | obj fields =>
      simp only [encodeAt, Option.map_eq_some_iff] at h ⊢
      obtain ⟨answers, hfields, rfl⟩ := h
      refine ⟨answers, mapM_some_mono (fun field answer hfield => ?_) hfields, rfl⟩
      simp only [Option.bind_eq_some_iff, Option.map_eq_some_iff] at hfield ⊢
      obtain ⟨key, hkey, value, hvalue, rfl⟩ := hfield
      exact ⟨key, hkey, value, ih hvalue, rfl⟩
    | nonFinite => simp [encodeAt] at h
    | _ => simpa only [encodeAt] using h

end Interpreter

end JlensEvolve.Proposals
