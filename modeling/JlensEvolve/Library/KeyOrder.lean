import Mathlib.Data.String.Basic
import JlensEvolve.Library.KeyedSort
import JlensEvolve.Library.WrittenJson

/-!
Values up to the order of keys. A text is decoded to the value it was encoded
from with the keys of every object in another order; `sorted` is what the two
have in common. Digests, comparisons and lookups do not see the difference, and
objects with the same values under the same keys are alike in this sense.
-/

namespace JlensEvolve.Library.Json

open KeyedSort

theorem contentSha256_of_sorted {value other : Json} (h : value.sorted = other.sorted) :
    value.contentSha256 = other.contentSha256 := by
  rw [contentSha256, contentSha256, canonicalJson_eq_writtenText, canonicalJson_eq_writtenText, h]

theorem pairwise_sortFields {α : Type} (fields : List (String × α)) :
    (sortFields fields).Pairwise fun x y => x.1 ≤ y.1 :=
  pairwise_sortBy Prod.fst fields

theorem sortFields_sortFields {α : Type} (fields : List (String × α)) :
    sortFields (sortFields fields) = sortFields fields :=
  List.Pairwise.insertionSort_eq (pairwise_sortFields fields)

theorem perm_sortFields {α : Type} (fields : List (String × α)) :
    (sortFields fields).Perm fields :=
  List.perm_insertionSort _ fields

theorem comparableFields_eq_map (fields : List (String × Json)) :
    comparableFields fields = fields.map fun field => (field.1, field.2.comparable) := by
  induction fields with
  | nil => rfl
  | cons field rest ih =>
    obtain ⟨key, value⟩ := field
    rw [comparableFields, ih]
    rfl

mutual

theorem comparable_sorted : (value : Json) → value.sorted.comparable = value.comparable
  | .null => rfl
  | .bool _ => rfl
  | .int _ => rfl
  | .float _ => rfl
  | .str _ => rfl
  | .arr items => by rw [sorted, comparable, comparable, comparableItems_sorted items]
  | .obj fields => by
    rw [sorted, comparable, comparable, comparableFields_eq_map, sortFields_map,
      sortFields_sortFields, ← sortFields_map, ← comparableFields_eq_map,
      comparableFields_sorted fields]

theorem comparableItems_sorted : (items : List Json) →
    comparableItems (sortedItems items) = comparableItems items
  | [] => rfl
  | item :: rest => by
    rw [sortedItems, comparableItems, comparableItems, comparable_sorted item,
      comparableItems_sorted rest]

theorem comparableFields_sorted : (fields : List (String × Json)) →
    comparableFields (sortedFields fields) = comparableFields fields
  | [] => rfl
  | (key, value) :: rest => by
    rw [sortedFields, comparableFields, comparableFields, comparable_sorted value,
      comparableFields_sorted rest]

end

mutual

theorem sorted_sorted : (value : Json) → value.sorted.sorted = value.sorted
  | .null => rfl
  | .bool _ => rfl
  | .int _ => rfl
  | .float _ => rfl
  | .str _ => rfl
  | .arr items => by rw [sorted, sorted, sortedItems_sortedItems items]
  | .obj fields => by
    rw [sorted, sorted, sortedFields_eq_map (sortFields _), ← sortFields_map,
      sortFields_sortFields, ← sortedFields_eq_map, sortedFields_sortedFields fields]

theorem sortedItems_sortedItems : (items : List Json) →
    sortedItems (sortedItems items) = sortedItems items
  | [] => rfl
  | item :: rest => by
    rw [sortedItems, sortedItems, sorted_sorted item, sortedItems_sortedItems rest]

theorem sortedFields_sortedFields : (fields : List (String × Json)) →
    sortedFields (sortedFields fields) = sortedFields fields
  | [] => rfl
  | (key, value) :: rest => by
    rw [sortedFields, sortedFields, sorted_sorted value, sortedFields_sortedFields rest]

end

theorem get?_sorted (value : Json) (key : String) :
    value.sorted.get? key = (value.get? key).map sorted := by
  cases value with
  | obj fields => rw [sorted, get?_obj, get?_obj, field?_sortFields, field?_sortedFields]
  | _ => rfl

theorem sorted_eq_str_iff {value : Json} {text : String} :
    value.sorted = .str text ↔ value = .str text := by
  cases value with
  | str other => rfl
  | _ =>
    constructor <;> intro h <;> cases h

theorem comparable_of_sorted {value other : Json} (h : value.sorted = other.sorted) :
    value.comparable = other.comparable := by
  rw [← comparable_sorted value, h, comparable_sorted]

theorem pyEq_of_sorted {value other : Json} (h : value.sorted = other.sorted) :
    pyEq value other = true := by
  rw [pyEq, comparable_of_sorted h, decide_eq_true_eq]

section Objects

variable {first second : List (String × Json)}

theorem keys_of_sorted (h : (Json.obj first).sorted = (Json.obj second).sorted) :
    (first.map Prod.fst).Perm (second.map Prod.fst) := by
  have hkeys : ∀ fields : List (String × Json),
      ((sortFields (sortedFields fields)).map Prod.fst).Perm (fields.map Prod.fst) := by
    intro fields
    have hperm := (perm_sortFields (sortedFields fields)).map Prod.fst
    have hsame : (sortedFields fields).map Prod.fst = fields.map Prod.fst := by
      rw [sortedFields_eq_map, List.map_map]
      rfl
    rwa [hsame] at hperm
  simp only [sorted, Json.obj.injEq] at h
  exact ((hkeys first).symm.trans (h ▸ List.Perm.refl _)).trans (hkeys second)

theorem keys_of_comparable (h : (Json.obj first).comparable = (Json.obj second).comparable) :
    (first.map Prod.fst).Perm (second.map Prod.fst) := by
  have hkeys : ∀ fields : List (String × Json),
      ((sortFields (comparableFields fields)).map Prod.fst).Perm (fields.map Prod.fst) := by
    intro fields
    have hperm := (perm_sortFields (comparableFields fields)).map Prod.fst
    have hsame : (comparableFields fields).map Prod.fst = fields.map Prod.fst := by
      rw [comparableFields_eq_map, List.map_map]
      rfl
    rwa [hsame] at hperm
  simp only [comparable, Json.obj.injEq] at h
  exact ((hkeys first).symm.trans (h ▸ List.Perm.refl _)).trans (hkeys second)

theorem field?_comparableFields (fields : List (String × Json)) (key : String) :
    field? (comparableFields fields) key = (field? fields key).map comparable := by
  induction fields with
  | nil => rfl
  | cons entry rest ih =>
    obtain ⟨name, value⟩ := entry
    rw [comparableFields, field?_cons, field?_cons, ih]
    split <;> rfl

theorem field?_map_comparable_eq
    (h : (Json.obj first).comparable = (Json.obj second).comparable) (key : String) :
    (field? first key).map comparable = (field? second key).map comparable := by
  simp only [comparable, Json.obj.injEq] at h
  rw [← field?_comparableFields, ← field?_comparableFields, ← field?_sortFields, h,
    field?_sortFields]

theorem field?_eq_some_iff {fields : List (String × Json)} (hnodup : (fields.map Prod.fst).Nodup)
    (key : String) (value : Json) : field? fields key = some value ↔ (key, value) ∈ fields :=
  Dict.get?_eq_some_iff ⟨fields, hnodup⟩ key value

theorem nodup_of_keys {fields : List (String × Json)} (hnodup : (fields.map Prod.fst).Nodup) :
    fields.Nodup :=
  List.Nodup.of_map Prod.fst hnodup

theorem sorted_obj_eq (hfirst : (first.map Prod.fst).Nodup) (hsecond : (second.map Prod.fst).Nodup)
    (h : ∀ key, (field? first key).map sorted = (field? second key).map sorted) :
    (Json.obj first).sorted = (Json.obj second).sorted := by
  have hkeys : ∀ {fields : List (String × Json)}, (fields.map Prod.fst).Nodup →
      ((sortedFields fields).map Prod.fst).Nodup := by
    intro fields hnodup
    rwa [sortedFields_eq_map, List.map_map]
  have hmem : ∀ entry, entry ∈ sortedFields first ↔ entry ∈ sortedFields second := by
    rintro ⟨key, value⟩
    rw [← field?_eq_some_iff (hkeys hfirst), ← field?_eq_some_iff (hkeys hsecond),
      field?_sortedFields, field?_sortedFields, h]
  have hperm : (sortedFields first).Perm (sortedFields second) :=
    (List.perm_ext_iff_of_nodup (nodup_of_keys (hkeys hfirst))
      (nodup_of_keys (hkeys hsecond))).mpr hmem
  have hapart : KeysApart Prod.fst (sortedFields first) := by
    rintro ⟨key, value⟩ hone ⟨other, found⟩ htwo hsame
    obtain rfl : key = other := hsame
    have hvalue := (field?_eq_some_iff (hkeys hfirst) key value).mpr hone
    have hfound := (field?_eq_some_iff (hkeys hfirst) key found).mpr htwo
    rw [hvalue] at hfound
    cases hfound
    rfl
  rw [sorted, sorted]
  exact congrArg Json.obj (sortBy_eq_of_perm hapart hperm)

theorem field?_filter (fields : List (String × Json)) (keep : String → Bool) (key : String) :
    field? (fields.filter fun field => keep field.1) key =
      if keep key then field? fields key else none := by
  induction fields with
  | nil => simp
  | cons field rest ih =>
    obtain ⟨name, value⟩ := field
    by_cases hname : keep name = true
    · rw [List.filter_cons_of_pos (by simpa using hname), field?_cons, field?_cons, ih]
      by_cases hkey : name = key
      · rw [if_pos hkey, if_pos hkey, if_pos (hkey ▸ hname)]
      · rw [if_neg hkey, if_neg hkey]
    · rw [List.filter_cons_of_neg (by simpa using hname), field?_cons, ih]
      by_cases hkey : name = key
      · rw [if_neg (hkey ▸ hname), if_neg (hkey ▸ hname)]
      · rw [if_neg hkey]

theorem sorted_filter (hnodup : (second.map Prod.fst).Nodup)
    (h : (Json.obj first).sorted = (Json.obj second).sorted) (keep : String → Bool) :
    (Json.obj (first.filter fun field => keep field.1)).sorted =
      (Json.obj (second.filter fun field => keep field.1)).sorted := by
  have hsub : ∀ {fields : List (String × Json)}, (fields.map Prod.fst).Nodup →
      ((fields.filter fun field => keep field.1).map Prod.fst).Nodup := fun hfields =>
    hfields.sublist (List.filter_sublist.map Prod.fst)
  refine sorted_obj_eq (hsub ((keys_of_sorted h).nodup_iff.mpr hnodup)) (hsub hnodup) ?_
  intro key
  rw [field?_filter, field?_filter]
  split
  · exact field?_map_sorted_eq h key
  · rfl

theorem mem_keys_iff_field? {fields : List (String × Json)} {key : String} :
    key ∈ fields.map Prod.fst ↔ (field? fields key).isSome = true := by
  induction fields with
  | nil => simp
  | cons field rest ih =>
    obtain ⟨name, value⟩ := field
    rw [List.map_cons, List.mem_cons, ih, field?_cons]
    by_cases hkey : name = key
    · simp [hkey]
    · simp [hkey, Ne.symm hkey]

end Objects

theorem length_listed {α : Type} (close : Char) (text : α → List Char) {items : List α}
    (hne : items ≠ []) :
    (listed close text items []).length = (items.map fun item => (text item).length + 1).sum := by
  induction items with
  | nil => exact absurd rfl hne
  | cons item rest ih =>
    cases rest with
    | nil => simp [listed]
    | cons next rest =>
      rw [listed, List.length_append, List.length_cons, ih (List.cons_ne_nil next rest)]
      simp only [List.map_cons, List.sum_cons]
      omega

def textLength (value : Json) : Nat := value.canonicalJson.toList.length

theorem textLength_arr {items : List Json} (hne : items ≠ []) :
    (Json.arr items).textLength = 1 + (items.map fun item => item.textLength + 1).sum := by
  rw [textLength, ← List.append_nil (Json.arr items).canonicalJson.toList, toList_arr,
    List.length_cons, length_listed _ _ hne, Nat.add_comm]
  rfl

theorem textLength_obj {fields : List (String × Json)} (hne : fields ≠ []) :
    (Json.obj fields).textLength =
      1 + (fields.map fun field => (quote field.1).length + field.2.textLength + 2).sum := by
  have hsorted : sortFields fields ≠ [] := by
    intro hnil
    have hperm := perm_sortFields fields
    rw [hnil] at hperm
    exact hne (List.nil_perm.mp hperm)
  have hsum := ((perm_sortFields fields).map
    fun field => (fieldText field).length + 1).sum_eq
  rw [textLength, ← List.append_nil (Json.obj fields).canonicalJson.toList, toList_obj,
    List.length_cons, length_listed _ _ hsorted, hsum, Nat.add_comm]
  congr 2
  refine List.map_congr_left fun field _ => ?_
  simp only [fieldText, textLength, List.length_append, List.length_cons, String.length_toList]
  omega

end JlensEvolve.Library.Json
