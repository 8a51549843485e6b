import JlensEvolve.Library.JsonText

/-!
Which canonical texts stay on one line. `str.splitlines` breaks a text at
eleven characters; the canonical text escapes those below ASCII's end and keeps
the three above it, so whether a value is written on one line is decided by the
texts among its leaves.
-/

namespace JlensEvolve.Library

/-- The characters `str.splitlines` breaks a text at. -/
def isLineBoundary (c : Char) : Bool :=
  let n := c.toNat
  (10 ≤ n && n ≤ 13) || (28 ≤ n && n ≤ 30) || n == 0x85 || n == 0x2028 || n == 0x2029

def onOneLine (text : String) : Bool := text.toList.all (fun c => !isLineBoundary c)

@[simp] theorem onOneLine_append (first second : String) :
    onOneLine (first ++ second) = (onOneLine first && onOneLine second) := by
  simp [onOneLine, String.toList_append]

theorem onOneLine_join (texts : List String) :
    onOneLine (String.join texts) = texts.all onOneLine := by
  induction texts with
  | nil => rfl
  | cons text rest ih => rw [String.join_cons, onOneLine_append, ih, List.all_cons]

theorem onOneLine_intercalate {separator : String} (hseparator : onOneLine separator = true)
    (texts : List String) :
    onOneLine (separator.intercalate texts) = texts.all onOneLine := by
  induction texts with
  | nil => rfl
  | cons text rest ih =>
    cases rest with
    | nil => simp
    | cons next rest =>
      rw [String.intercalate_cons_cons, onOneLine_append, onOneLine_append, ih, hseparator,
        Bool.and_true]
      exact List.all_cons.symm

/-- The line boundaries that quoting does not escape. -/
def isBareBoundary (c : Char) : Bool :=
  c.toNat == 0x85 || c.toNat == 0x2028 || c.toNat == 0x2029

/-- A text that is quoted on one line. -/
def lineFree (text : String) : Bool := text.toList.all (fun c => !isBareBoundary c)

theorem lineFree_append (first second : String) :
    lineFree (first ++ second) = (lineFree first && lineFree second) := by
  simp [lineFree, String.toList_append]

theorem onOneLine_ofList (chars : List Char) :
    onOneLine (String.ofList chars) = chars.all (fun c => !isLineBoundary c) := by
  rw [onOneLine, String.toList_ofList]

theorem isLineBoundary_of_isNumeral {c : Char} (h : isNumeral c = true) :
    isLineBoundary c = false := by
  have hrange : 43 ≤ c.toNat ∧ c.toNat ≤ 101 := by
    simp only [isNumeral, Char.isDigit, Bool.or_eq_true, Bool.and_eq_true, decide_eq_true_eq,
      beq_iff_eq, ge_iff_le, UInt32.le_iff_toNat_le] at h
    rcases h with (((hdigit | rfl) | rfl) | rfl) | rfl
    · have hlow : 48 ≤ c.toNat := hdigit.1
      have hhigh : c.toNat ≤ 57 := hdigit.2
      omega
    all_goals decide
  simp only [isLineBoundary, Bool.or_eq_false_iff, Bool.and_eq_false_iff, decide_eq_false_iff_not,
    beq_eq_false_iff_ne]
  omega

theorem onOneLine_of_numeral {text : String} (h : Numeral text) : onOneLine text = true := by
  rw [onOneLine, List.all_eq_true]
  intro c hc
  rw [isLineBoundary_of_isNumeral (h c hc)]
  rfl

theorem onOneLine_intRepr (n : Int) : onOneLine n.repr = true :=
  onOneLine_of_numeral (numeral_intRepr n)

namespace Json

theorem onOneLine_floatRepr (q : ℚ) : onOneLine (floatRepr q) = true :=
  onOneLine_of_numeral (numeral_floatRepr q)

theorem onOneLine_escapeChar {c : Char} (h : c.toNat < 128) : onOneLine (escapeChar c) = true := by
  have hall : ∀ n < 128, onOneLine (escapeChar (Char.ofNat n)) = true := by decide
  rw [← Char.ofNat_toNat c]
  exact hall c.toNat h

theorem onOneLine_quote (text : String) :
    onOneLine (quote text) = text.toList.all (fun c => onOneLine (escapeChar c)) := by
  have hmark : onOneLine "\"" = true := rfl
  rw [quote, onOneLine_append, onOneLine_append, hmark, onOneLine_join, List.all_map,
    Bool.and_true, Bool.true_and]
  rfl

theorem onOneLine_escapeChar_eq (c : Char) : onOneLine (escapeChar c) = !isBareBoundary c := by
  by_cases hascii : c.toNat < 128
  · rw [onOneLine_escapeChar hascii, isBareBoundary]
    have hbare : (c.toNat == 0x85 || c.toNat == 0x2028 || c.toNat == 0x2029) = false := by
      simp only [Bool.or_eq_false_iff, beq_eq_false_iff_ne]
      omega
    rw [hbare]
    rfl
  · have hplain : escapeChar c = String.ofList [c] := by
      apply escapeChar_of_not_escaped
      intro hescaped
      have hsmall : ∀ n ∈ escapedCodes, n < 128 := by decide
      exact hascii (hsmall _ hescaped)
    rw [hplain, onOneLine_ofList, List.all_cons, List.all_nil, Bool.and_true]
    congr 1
    simp only [isLineBoundary, isBareBoundary]
    have hcontrol : (decide (10 ≤ c.toNat) && decide (c.toNat ≤ 13)) = false := by
      simp only [Bool.and_eq_false_iff, decide_eq_false_iff_not]
      omega
    have hseparator : (decide (28 ≤ c.toNat) && decide (c.toNat ≤ 30)) = false := by
      simp only [Bool.and_eq_false_iff, decide_eq_false_iff_not]
      omega
    rw [hcontrol, hseparator, Bool.false_or, Bool.false_or]

theorem onOneLine_quote_eq_lineFree (text : String) : onOneLine (quote text) = lineFree text := by
  rw [onOneLine_quote, lineFree]
  simp only [onOneLine_escapeChar_eq]

theorem onOneLine_quote_sha256 {text : String} (h : Sha256.isSha256 text = true) :
    onOneLine (quote text) = true := by
  simp only [Sha256.isSha256, Bool.and_eq_true, List.all_eq_true] at h
  rw [onOneLine_quote, List.all_eq_true]
  intro c hc
  have hhex := h.2 c hc
  simp only [Sha256.isHexChar, Bool.or_eq_true, Bool.and_eq_true, decide_eq_true_eq,
    Char.le_def, UInt32.le_iff_toNat_le] at hhex
  apply onOneLine_escapeChar
  change c.val.toNat < 128
  have hnine : '9'.val.toNat = 57 := rfl
  have hf : 'f'.val.toNat = 102 := rfl
  omega

theorem lineFree_sha256 {text : String} (h : Sha256.isSha256 text = true) :
    lineFree text = true := by
  rw [← onOneLine_quote_eq_lineFree]
  exact onOneLine_quote_sha256 h

mutual

/-- Every text and number of the value is written on one line. -/
def leavesOnOneLine : Json → Bool
  | .null => true
  | .bool _ => true
  | .int value => onOneLine (toString value)
  | .float value => onOneLine (floatRepr value)
  | .str value => onOneLine (quote value)
  | .arr items => itemsOnOneLine items
  | .obj fields => fieldsOnOneLine fields

def itemsOnOneLine : List Json → Bool
  | [] => true
  | item :: rest => item.leavesOnOneLine && itemsOnOneLine rest

def fieldsOnOneLine : List (String × Json) → Bool
  | [] => true
  | (key, value) :: rest =>
    onOneLine (quote key) && value.leavesOnOneLine && fieldsOnOneLine rest

end

theorem itemsOnOneLine_texts (texts : List String) :
    itemsOnOneLine (texts.map .str) = texts.all lineFree := by
  induction texts with
  | nil => rfl
  | cons text rest ih =>
    rw [List.map_cons, itemsOnOneLine, ih, List.all_cons]
    congr 1
    exact onOneLine_quote_eq_lineFree text

theorem onOneLine_renderFields (fields : List (String × String)) :
    onOneLine (renderFields (sortFields fields)) =
      fields.all (fun field => onOneLine (quote field.1) && onOneLine field.2) := by
  have hcolon : onOneLine ":" = true := rfl
  have hperm := (List.perm_insertionSort (fun x y : String × String => x.1 ≤ y.1) fields).all_eq
    (f := fun field => onOneLine (quote field.1) && onOneLine field.2)
  rw [renderFields, onOneLine_intercalate rfl, List.all_map, ← hperm]
  apply List.all_congr rfl
  intro field
  simp [hcolon]

mutual

theorem onOneLine_canonicalJson :
    (value : Json) → onOneLine value.canonicalJson = value.leavesOnOneLine
  | .null => rfl
  | .bool value => by cases value <;> rfl
  | .int _ => rfl
  | .float _ => rfl
  | .str _ => rfl
  | .arr items => by
    have hopen : onOneLine "[" = true := rfl
    have hclose : onOneLine "]" = true := rfl
    rw [canonicalJson, onOneLine_append, onOneLine_append, onOneLine_intercalate rfl,
      onOneLine_canonicalItems items, hopen, hclose, Bool.true_and, Bool.and_true]
    rfl
  | .obj fields => by
    have hopen : onOneLine "\x7b" = true := rfl
    have hclose : onOneLine "\x7d" = true := rfl
    rw [canonicalJson, onOneLine_append, onOneLine_append, onOneLine_renderFields,
      onOneLine_canonicalFields fields, hopen, hclose, Bool.true_and, Bool.and_true]
    rfl

theorem onOneLine_canonicalItems :
    (items : List Json) → (canonicalItems items).all onOneLine = itemsOnOneLine items
  | [] => rfl
  | item :: rest => by
    rw [canonicalItems, List.all_cons, onOneLine_canonicalJson item,
      onOneLine_canonicalItems rest]
    rfl

theorem onOneLine_canonicalFields :
    (fields : List (String × Json)) →
      (canonicalFields fields).all
        (fun field => onOneLine (quote field.1) && onOneLine field.2) = fieldsOnOneLine fields
  | [] => rfl
  | (key, value) :: rest => by
    rw [canonicalFields, List.all_cons, onOneLine_canonicalJson value,
      onOneLine_canonicalFields rest]
    rfl

end

end Json

end JlensEvolve.Library
