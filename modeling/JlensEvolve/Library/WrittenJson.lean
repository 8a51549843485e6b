import JlensEvolve.Library.JsonText

/-!
Values as an encoder with sorted keys walks them. Keys that are texts come in
the order of the texts; keys that are numbers come in the order of the numbers
and only then become texts, so that `9` is written before `10`, and a reader who
writes the value again puts them the other way.
-/

namespace JlensEvolve.Library.Json

mutual

/-- The text of the value with its fields in the order in which they stand. -/
def writtenText : Json → String
  | .null => "null"
  | .bool value => if value then "true" else "false"
  | .int value => toString value
  | .float value => floatRepr value
  | .str value => quote value
  | .arr items => "[" ++ String.intercalate "," (writtenItems items) ++ "]"
  | .obj fields => "\x7b" ++ renderFields (writtenFields fields) ++ "\x7d"

def writtenItems : List Json → List String
  | [] => []
  | item :: rest => item.writtenText :: writtenItems rest

def writtenFields : List (String × Json) → List (String × String)
  | [] => []
  | (key, value) :: rest => (key, value.writtenText) :: writtenFields rest

end

theorem writtenFields_eq_map (fields : List (String × Json)) :
    writtenFields fields = fields.map fun field => (field.1, field.2.writtenText) := by
  induction fields with
  | nil => rfl
  | cons field rest ih =>
    obtain ⟨key, value⟩ := field
    rw [writtenFields, ih]
    rfl

mutual

theorem canonicalJson_eq_writtenText : (value : Json) →
    value.canonicalJson = value.sorted.writtenText
  | .null | .bool _ | .int _ | .float _ | .str _ => rfl
  | .arr items => by
    rw [canonicalJson, sorted, writtenText, canonicalItems_eq_writtenItems items]
  | .obj fields => by
    rw [canonicalJson, sorted, writtenText, canonicalFields_eq_writtenFields fields,
      writtenFields_eq_map, writtenFields_eq_map, sortFields_map writtenText]

theorem canonicalItems_eq_writtenItems : (items : List Json) →
    canonicalItems items = writtenItems (sortedItems items)
  | [] => rfl
  | item :: rest => by
    rw [canonicalItems, sortedItems, writtenItems, canonicalJson_eq_writtenText item,
      canonicalItems_eq_writtenItems rest]

theorem canonicalFields_eq_writtenFields : (fields : List (String × Json)) →
    canonicalFields fields = writtenFields (sortedFields fields)
  | [] => rfl
  | (key, value) :: rest => by
    rw [canonicalFields, sortedFields, writtenFields, canonicalJson_eq_writtenText value,
      canonicalFields_eq_writtenFields rest]

end

/-- SHA-256 of the text of a dictionary whose own keys are texts. -/
def writtenSha256 (fields : List (String × Json)) : String :=
  Sha256.hexdigest (utf8 (Json.obj (sortFields fields)).writtenText)

/-- The keys inside the value are in the order of their texts. -/
def KeysSorted (value : Json) : Prop := value.sorted = value

theorem sortedFields_of_keysSorted {fields : List (String × Json)}
    (h : ∀ field ∈ fields, field.2.KeysSorted) : sortedFields fields = fields := by
  rw [sortedFields_eq_map]
  refine (List.map_congr_left fun field hfield => ?_).trans (List.map_id fields)
  exact Prod.ext rfl (h field hfield)

theorem sortedItems_of_keysSorted {items : List Json} (h : ∀ item ∈ items, item.KeysSorted) :
    sortedItems items = items := by
  rw [sortedItems_eq_map]
  exact (List.map_congr_left fun item hitem => h item hitem).trans (List.map_id items)

theorem writtenSha256_eq_contentSha256 {fields : List (String × Json)}
    (h : ∀ field ∈ fields, field.2.KeysSorted) :
    writtenSha256 fields = (Json.obj fields).contentSha256 := by
  rw [writtenSha256, contentSha256, canonicalJson_eq_writtenText, sorted,
    sortedFields_of_keysSorted h]

end JlensEvolve.Library.Json
