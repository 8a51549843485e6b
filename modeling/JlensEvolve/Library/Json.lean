import Mathlib.Data.Rat.Defs
import Mathlib.Data.List.Sort
import JlensEvolve.Library.Dict
import JlensEvolve.Library.Sha256

/-!
JSON values as Python's `json` module reads and writes them, and the canonical
text that every content hash of the repository is taken over: keys sorted, no
blanks, non-ASCII characters kept, control characters escaped. Python floats
are exact rationals here, so a float is rendered as the decimal it denotes;
NaN and the infinities are not values of this type.
-/

namespace JlensEvolve.Library

inductive Json where
  | null
  | bool (value : Bool)
  | int (value : Int)
  | float (value : ℚ)
  | str (value : String)
  | arr (items : List Json)
  | obj (fields : List (String × Json))
deriving Inhabited

namespace Json

mutual

def decEq : (a b : Json) → Decidable (a = b)
  | .null, .null => isTrue rfl
  | .bool x, .bool y => decidable_of_iff (x = y) (by simp)
  | .int x, .int y => decidable_of_iff (x = y) (by simp)
  | .float x, .float y => decidable_of_iff (x = y) (by simp)
  | .str x, .str y => decidable_of_iff (x = y) (by simp)
  | .arr x, .arr y =>
    have := decEqItems x y
    decidable_of_iff (x = y) (by simp)
  | .obj x, .obj y =>
    have := decEqFields x y
    decidable_of_iff (x = y) (by simp)
  | .null, .bool _ | .null, .int _ | .null, .float _ | .null, .str _ | .null, .arr _
  | .null, .obj _ | .bool _, .null | .bool _, .int _ | .bool _, .float _ | .bool _, .str _
  | .bool _, .arr _ | .bool _, .obj _ | .int _, .null | .int _, .bool _ | .int _, .float _
  | .int _, .str _ | .int _, .arr _ | .int _, .obj _ | .float _, .null | .float _, .bool _
  | .float _, .int _ | .float _, .str _ | .float _, .arr _ | .float _, .obj _ | .str _, .null
  | .str _, .bool _ | .str _, .int _ | .str _, .float _ | .str _, .arr _ | .str _, .obj _
  | .arr _, .null | .arr _, .bool _ | .arr _, .int _ | .arr _, .float _ | .arr _, .str _
  | .arr _, .obj _ | .obj _, .null | .obj _, .bool _ | .obj _, .int _ | .obj _, .float _
  | .obj _, .str _ | .obj _, .arr _ => isFalse (by simp)

def decEqItems : (a b : List Json) → Decidable (a = b)
  | [], [] => isTrue rfl
  | [], _ :: _ | _ :: _, [] => isFalse (by simp)
  | x :: xs, y :: ys =>
    have := decEq x y
    have := decEqItems xs ys
    decidable_of_iff (x = y ∧ xs = ys) (by simp)

def decEqFields : (a b : List (String × Json)) → Decidable (a = b)
  | [], [] => isTrue rfl
  | [], _ :: _ | _ :: _, [] => isFalse (by simp)
  | (k, x) :: xs, (l, y) :: ys =>
    have := decEq x y
    have := decEqFields xs ys
    decidable_of_iff ((k = l ∧ x = y) ∧ xs = ys) (by simp)

end

instance : DecidableEq Json := decEq

/-- `fields.get(key)` of a decoded object. -/
def field? (fields : List (String × Json)) (key : String) : Option Json :=
  Dict.lookupEntries key fields

@[simp] theorem field?_nil (key : String) : field? [] key = none := rfl

@[simp] theorem field?_cons (name key : String) (value : Json) (rest : List (String × Json)) :
    field? ((name, value) :: rest) key = if name = key then some value else field? rest key :=
  rfl

theorem field?_append_of_ne {fields : List (String × Json)} {key : String}
    (h : ∀ field ∈ fields, field.1 ≠ key) (more : List (String × Json)) :
    field? (fields ++ more) key = field? more key := by
  induction fields with
  | nil => rfl
  | cons field rest ih =>
    rw [List.cons_append, field?_cons, if_neg (h field List.mem_cons_self)]
    exact ih fun other hother => h other (List.mem_cons_of_mem _ hother)

theorem field?_concat_of_ne (fields : List (String × Json)) {key name : String} (h : name ≠ key)
    (value : Json) :
    field? (fields ++ [(key, value)]) name = field? fields name := by
  induction fields with
  | nil => simp [h.symm]
  | cons field rest ih =>
    obtain ⟨other, held⟩ := field
    rw [List.cons_append, field?_cons, field?_cons, ih]

theorem field?_filter_ne (fields : List (String × Json)) {key other : String} (h : key ≠ other) :
    field? (fields.filter (·.1 ≠ other)) key = field? fields key := by
  induction fields with
  | nil => rfl
  | cons field rest ih =>
    obtain ⟨name, value⟩ := field
    by_cases hname : name = other
    · subst hname
      rw [List.filter_cons_of_neg (by simp), ih, field?_cons, if_neg (Ne.symm h)]
    · rw [List.filter_cons_of_pos (by simpa using hname), field?_cons, field?_cons, ih]

/-- `value.get(key)` of a decoded value; `none` when it is no object or the
key is absent. -/
def get? (key : String) : Json → Option Json
  | .obj fields => field? fields key
  | _ => none

@[simp] theorem get?_obj (fields : List (String × Json)) (key : String) :
    (Json.obj fields).get? key = field? fields key := rfl

def sortFields {α : Type} (fields : List (String × α)) : List (String × α) :=
  fields.insertionSort (fun x y => x.1 ≤ y.1)

mutual

/-- A representative of the values Python's `==` identifies: booleans and
integers compare as numbers, objects without regard to key order. -/
def comparable : Json → Json
  | .null => .null
  | .bool value => .float (if value then 1 else 0)
  | .int value => .float value
  | .float value => .float value
  | .str value => .str value
  | .arr items => .arr (comparableItems items)
  | .obj fields => .obj (sortFields (comparableFields fields))

def comparableItems : List Json → List Json
  | [] => []
  | item :: rest => item.comparable :: comparableItems rest

def comparableFields : List (String × Json) → List (String × Json)
  | [] => []
  | (key, value) :: rest => (key, value.comparable) :: comparableFields rest

end

/-- Python's `a == b` on decoded values. -/
def pyEq (a b : Json) : Bool := a.comparable = b.comparable

@[simp] theorem pyEq_self (a : Json) : pyEq a a = true := by
  simp [pyEq]

theorem pyEq_congr {a b : Json} (h : pyEq a b = true) (c : Json) : pyEq a c = pyEq b c := by
  have hcomparable : a.comparable = b.comparable := by
    simpa [pyEq] using h
  rw [pyEq, pyEq, hcomparable]

mutual

/-- The value with the keys of every object in order: what is left of it when
the order of keys does not count. -/
def sorted : Json → Json
  | .null => .null
  | .bool value => .bool value
  | .int value => .int value
  | .float value => .float value
  | .str value => .str value
  | .arr items => .arr (sortedItems items)
  | .obj fields => .obj (sortFields (sortedFields fields))

def sortedItems : List Json → List Json
  | [] => []
  | item :: rest => item.sorted :: sortedItems rest

def sortedFields : List (String × Json) → List (String × Json)
  | [] => []
  | (key, value) :: rest => (key, value.sorted) :: sortedFields rest

end

theorem field?_orderedInsert (entry : String × Json) (fields : List (String × Json))
    (key : String) :
    field? (fields.orderedInsert (fun x y => x.1 ≤ y.1) entry) key =
      field? (entry :: fields) key := by
  induction fields with
  | nil => rfl
  | cons first rest ih =>
    obtain ⟨name, value⟩ := entry
    obtain ⟨firstName, firstValue⟩ := first
    by_cases hle : name ≤ firstName
    · rw [List.orderedInsert, if_pos hle]
    · rw [List.orderedInsert, if_neg hle, field?_cons, ih, field?_cons, field?_cons, field?_cons]
      have hne : name ≠ firstName := fun heq => hle (heq ▸ String.le_refl name)
      by_cases hkey : firstName = key
      · subst hkey
        simp [hne]
      · simp [hkey]

theorem field?_sortFields (fields : List (String × Json)) (key : String) :
    field? (sortFields fields) key = field? fields key := by
  induction fields with
  | nil => rfl
  | cons entry rest ih =>
    obtain ⟨name, value⟩ := entry
    rw [sortFields, List.insertionSort, List.foldr, field?_orderedInsert, field?_cons, field?_cons]
    rw [← ih]
    rfl

theorem field?_sortedFields (fields : List (String × Json)) (key : String) :
    field? (sortedFields fields) key = (field? fields key).map sorted := by
  induction fields with
  | nil => rfl
  | cons entry rest ih =>
    obtain ⟨name, value⟩ := entry
    rw [sortedFields, field?_cons, field?_cons, ih]
    split <;> rfl

/-- Objects that differ in the order of keys only hold the same values under
the same keys, up to the order of keys. -/
theorem field?_map_sorted_eq {first second : List (String × Json)}
    (h : (Json.obj first).sorted = (Json.obj second).sorted) (key : String) :
    (field? first key).map sorted = (field? second key).map sorted := by
  simp only [sorted, Json.obj.injEq] at h
  rw [← field?_sortedFields, ← field?_sortedFields, ← field?_sortFields, h, field?_sortFields]

theorem field?_str_of_sorted {first second : List (String × Json)}
    (h : (Json.obj first).sorted = (Json.obj second).sorted) {key value : String}
    (hfield : field? first key = some (.str value)) : field? second key = some (.str value) := by
  have hsame := field?_map_sorted_eq h key
  rw [hfield, Option.map_some] at hsame
  obtain ⟨found, hfound, hvalue⟩ := Option.map_eq_some_iff.mp hsame.symm
  rw [hfound]
  cases found <;> simp_all [sorted]

def escapeChar (c : Char) : String :=
  if c = '"' then "\\\""
  else if c = '\\' then "\\\\"
  else if c = '\n' then "\\n"
  else if c = '\r' then "\\r"
  else if c = '\t' then "\\t"
  else if c = Char.ofNat 8 then "\\b"
  else if c = Char.ofNat 12 then "\\f"
  else if c.toNat < 32 then
    "\\u00" ++ String.ofList (Sha256.hexByte c.toNat)
  else String.ofList [c]

def quote (s : String) : String :=
  "\"" ++ String.join (s.toList.map escapeChar) ++ "\""

/-- The least number of decimal places that write `q` exactly, searched up to
the bound `fuel`. -/
def decimalPlaces : Nat → ℚ → Nat
  | 0, _ => 0
  | fuel + 1, q => if q.den = 1 then 0 else decimalPlaces fuel (q * 10) + 1

/-- The decimal point of `digits` after `point` places. -/
def placePoint (digits : List Char) (point : Int) : String :=
  if point ≤ 0 then
    "0." ++ String.ofList (List.replicate point.natAbs '0' ++ digits)
  else if point.natAbs < digits.length then
    String.ofList (digits.take point.natAbs) ++ "." ++
      String.ofList (digits.drop point.natAbs)
  else
    String.ofList (digits ++ List.replicate (point.natAbs - digits.length) '0') ++ ".0"

/-- Scientific notation with one leading digit and a signed exponent of at
least two digits. -/
def scientific (digits : List Char) (exponent : Int) : String :=
  let mantissa := match digits with
    | [d] => String.ofList [d]
    | d :: rest => String.ofList [d] ++ "." ++ String.ofList rest
    | [] => ""
  let shown := toString exponent.natAbs
  mantissa ++ "e" ++ (if exponent < 0 then "-" else "+") ++
    (if shown.length < 2 then "0" ++ shown else shown)

/-- `float.__repr__` of an exact decimal: fixed notation while the decimal
point lies between -4 and 16 digits into the number. -/
def floatRepr (q : ℚ) : String :=
  if q = 0 then "0.0"
  else
    let places := decimalPlaces q.den q
    let scaled := (q * 10 ^ places).num.natAbs
    let digits := (toString scaled).toList
    let point : Int := digits.length - places
    let significant := (digits.reverse.dropWhile (· = '0')).reverse
    (if q < 0 then "-" else "") ++
      (if -4 < point ∧ point ≤ 16 then placePoint significant point
        else scientific significant (point - 1))

def renderFields (fields : List (String × String)) : String :=
  String.intercalate "," (fields.map (fun field => quote field.1 ++ ":" ++ field.2))

mutual

/-- `json.dumps(value, ensure_ascii=False, sort_keys=True,
separators=(",", ":"), allow_nan=False)`. -/
def canonicalJson : Json → String
  | .null => "null"
  | .bool value => if value then "true" else "false"
  | .int value => toString value
  | .float value => floatRepr value
  | .str value => quote value
  | .arr items => "[" ++ String.intercalate "," (canonicalItems items) ++ "]"
  | .obj fields => "\x7b" ++ renderFields (sortFields (canonicalFields fields)) ++ "\x7d"

def canonicalItems : List Json → List String
  | [] => []
  | item :: rest => item.canonicalJson :: canonicalItems rest

def canonicalFields : List (String × Json) → List (String × String)
  | [] => []
  | (key, value) :: rest => (key, value.canonicalJson) :: canonicalFields rest

end

def utf8 (s : String) : List Nat :=
  s.toList.flatMap (fun c => (String.utf8EncodeChar c).map UInt8.toNat)

def contentSha256 (value : Json) : String :=
  Sha256.hexdigest (utf8 value.canonicalJson)

@[simp] theorem contentSha256_isSha256 (value : Json) :
    Sha256.isSha256 value.contentSha256 = true :=
  Sha256.hexdigest_isSha256 _

end Json

end JlensEvolve.Library
