import Mathlib.Data.String.Basic
import JlensEvolve.Library.JsonText

/-!
The canonical text as a list of characters. Digests of concrete values are
evaluated through it: appending texts copies them, appending lists does not, and
a kernel reads the bytes of a text much faster than its characters.
-/

namespace JlensEvolve.Library

/-- The characters of a text, from its bytes where these are all ASCII. -/
def textChars (text : String) : List Char :=
  let bytes := text.toByteArray.data.toList.map UInt8.toNat
  if bytes.all (Nat.blt · 128) then bytes.map Char.ofNat else text.toList

theorem bytes_of_ascii {c : Char}
    (h : ∀ byte ∈ String.utf8EncodeChar c, byte.toNat < 128) :
    (String.utf8EncodeChar c).map (fun byte => Char.ofNat byte.toNat) = [c] := by
  unfold String.utf8EncodeChar at h ⊢
  simp only at h ⊢
  split at h
  · rename_i hsmall
    have hbyte : (UInt8.ofNat c.val.toNat).toNat = c.val.toNat := by
      rw [UInt8.toNat_ofNat']
      omega
    rw [if_pos hsmall, List.map_singleton, hbyte]
    exact congrArg (fun char => [char]) (Char.ofNat_toNat c)
  · exfalso
    split at h
    · have hfirst := h _ List.mem_cons_self
      rw [UInt8.toNat_ofNat'] at hfirst
      omega
    · split at h
      · have hfirst := h _ List.mem_cons_self
        rw [UInt8.toNat_ofNat'] at hfirst
        omega
      · have hfirst := h _ List.mem_cons_self
        rw [UInt8.toNat_ofNat'] at hfirst
        omega

theorem textChars_eq (text : String) : textChars text = text.toList := by
  unfold textChars
  simp only
  split
  · rename_i hascii
    obtain ⟨chars, rfl⟩ : ∃ chars, text = String.ofList chars :=
      ⟨text.toList, String.ofList_toList.symm⟩
    rw [String.toList_ofList]
    rw [String.toByteArray_ofList, List.utf8Encode, List.toList_data_toByteArray] at hascii ⊢
    induction chars with
    | nil => rfl
    | cons c chars ih =>
      rw [List.flatMap_cons, List.map_append, List.all_append, Bool.and_eq_true] at hascii
      rw [List.flatMap_cons, List.map_append, List.map_append, ih hascii.2, List.map_map]
      rw [show (Char.ofNat ∘ UInt8.toNat) = fun byte => Char.ofNat byte.toNat from rfl,
        bytes_of_ascii ?_]
      · rfl
      · intro byte hbyte
        have hall := List.all_eq_true.mp hascii.1 _ (List.mem_map_of_mem hbyte)
        exact Nat.blt_eq.mp hall
  · rfl

namespace Json

/-- Fields in key order. -/
def sortChars {α : Type} (fields : List (List Char × α)) : List (List Char × α) :=
  fields.insertionSort (fun x y => x.1 ≤ y.1)

theorem sortChars_map {α : Type} (fields : List (String × α)) :
    sortChars (fields.map fun field => (textChars field.1, field.2)) =
      (sortFields fields).map fun field => (textChars field.1, field.2) := by
  refine (List.map_insertionSort _ _ (fun field : String × α => (textChars field.1, field.2))
    fields ?_).symm
  intro a _ b _
  simp only [textChars_eq]
  exact String.le_iff_toList_le

/-- Texts separated by commas, and the closing mark. -/
def separated (close : Char) : List (List Char) → List Char
  | [] => [close]
  | [item] => item ++ [close]
  | item :: next :: items => item ++ ',' :: separated close (next :: items)

mutual

def chars : Json → List Char
  | .null => ['n', 'u', 'l', 'l']
  | .bool value => if value then ['t', 'r', 'u', 'e'] else ['f', 'a', 'l', 's', 'e']
  | .int value => textChars (toString value)
  | .float value => textChars (floatRepr value)
  | .str value => '"' :: (escaped (textChars value) ++ ['"'])
  | .arr items => '[' :: separated ']' (itemChars items)
  | .obj fields =>
    '\x7b' :: separated '\x7d' ((sortChars (fieldChars fields)).map fun field =>
      '"' :: (escaped field.1 ++ '"' :: ':' :: field.2))

def itemChars : List Json → List (List Char)
  | [] => []
  | item :: rest => item.chars :: itemChars rest

def fieldChars : List (String × Json) → List (List Char × List Char)
  | [] => []
  | (key, value) :: rest => (textChars key, value.chars) :: fieldChars rest

end

theorem listed_eq_separated {α : Type} (close : Char) (text : α → List Char) (items : List α) :
    listed close text items [] = separated close (items.map text) := by
  induction items with
  | nil => rfl
  | cons item items ih =>
    cases items with
    | nil => rfl
    | cons next items =>
      rw [listed, ih]
      rfl

theorem itemChars_eq_map (items : List Json) : itemChars items = items.map chars := by
  induction items with
  | nil => rfl
  | cons item rest ih =>
    rw [itemChars, ih]
    rfl

theorem fieldChars_eq_map (fields : List (String × Json)) :
    fieldChars fields = (fields.map fun field => (field.1, field.2.chars)).map
      fun field => (textChars field.1, field.2) := by
  induction fields with
  | nil => rfl
  | cons field rest ih =>
    obtain ⟨key, value⟩ := field
    rw [fieldChars, ih]
    rfl

mutual

theorem toList_canonicalJson : (value : Json) → value.canonicalJson.toList = value.chars
  | .null => rfl
  | .bool value => by cases value <;> rfl
  | .int value => (textChars_eq _).symm
  | .float value => (textChars_eq _).symm
  | .str value => by
    rw [chars, textChars_eq]
    exact toList_quote value
  | .arr items => by
    rw [← List.append_nil (Json.arr items).canonicalJson.toList, toList_arr, chars,
      listed_eq_separated, itemChars_eq_map, map_toList_canonicalJson items]
  | .obj fields => by
    rw [← List.append_nil (Json.obj fields).canonicalJson.toList, toList_obj, chars,
      listed_eq_separated, fieldChars_eq_map, sortChars_map, sortFields_map, List.map_map,
      List.map_map]
    congr 2
    apply List.map_congr_left
    intro field hmem
    have hmem : field ∈ fields := (List.mem_insertionSort _).mp hmem
    simp [fieldText, toList_quote, textChars_eq, field_toList_canonicalJson fields field hmem]

theorem map_toList_canonicalJson : (items : List Json) →
    (items.map fun item => item.canonicalJson.toList) = items.map chars
  | [] => rfl
  | item :: rest => by
    rw [List.map_cons, List.map_cons, toList_canonicalJson item, map_toList_canonicalJson rest]

theorem field_toList_canonicalJson : (fields : List (String × Json)) →
    ∀ field ∈ fields, field.2.canonicalJson.toList = field.2.chars
  | [], _, hmem => nomatch hmem
  | (key, value) :: rest, field, hmem => by
    rcases List.mem_cons.mp hmem with rfl | hmem
    · exact toList_canonicalJson value
    · exact field_toList_canonicalJson rest field hmem

end

def bytes (value : Json) : List Nat :=
  value.chars.flatMap fun c => (String.utf8EncodeChar c).map UInt8.toNat

theorem contentSha256_eq (value : Json) :
    value.contentSha256 = Sha256.Words.hexdigest value.bytes := by
  rw [contentSha256, utf8, toList_canonicalJson, bytes, Sha256.Words.hexdigest_eq]

end Json

end JlensEvolve.Library

/-!
Canonical text with `ensure_ascii` in force, as `json.dumps` has it by default.
Only characters inside texts are outside ASCII, so the escapes can be put into
the finished text.
-/

namespace JlensEvolve.Library.Json

/-- `\uXXXX` of one UTF-16 unit. -/
def unicodeEscape (unit : Nat) : List Char :=
  '\\' :: 'u' :: (Sha256.hexByte (unit / 256) ++ Sha256.hexByte (unit % 256))

/-- One escape, or the two of a surrogate pair. -/
def asciiChar (c : Char) : List Char :=
  if c.toNat < 127 then [c]
  else if c.toNat < 65536 then unicodeEscape c.toNat
  else
    unicodeEscape (55296 + (c.toNat - 65536) / 1024) ++
      unicodeEscape (56320 + (c.toNat - 65536) % 1024)

/-- `json.dumps(value, sort_keys=True, separators=(",", ":"))`. -/
def asciiJson (value : Json) : String := String.ofList (value.canonicalJson.toList.flatMap asciiChar)

def asciiSha256 (value : Json) : String := Sha256.hexdigest (utf8 value.asciiJson)

theorem asciiSha256_eq (value : Json) :
    value.asciiSha256 = Sha256.Words.hexdigest ((value.chars.flatMap asciiChar).flatMap fun c =>
      (String.utf8EncodeChar c).map UInt8.toNat) := by
  rw [asciiSha256, utf8, asciiJson, toList_canonicalJson, String.toList_ofList,
    Sha256.Words.hexdigest_eq]

end JlensEvolve.Library.Json
