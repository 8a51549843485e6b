import JlensEvolve.Library.AppendLog

/-!
Two ways to read rows of canonical text back, one row to a line. Iterating over
a text file ends a line at `\n`, `\r` or both, which quoting escapes; after
`str.splitlines` a row can be in pieces, the first of which ends inside a string
and does not decode.
-/

namespace JlensEvolve.Library

variable {ε α : Type}

/-- Where iterating over a text file ends a line. -/
def isNewline (c : Char) : Bool := c == '\n' || c == '\r'

/-- What a reader that ends lines at these characters decodes of each row. -/
def linesAt (boundary : Char → Bool) (rows : List Json) : List (Option Json) :=
  rows.map fun row => if row.canonicalJson.toList.any boundary then none else some row

/-- The text has only these characters. -/
def consistsOf (keep : Char → Bool) (text : String) : Bool := text.toList.all keep

section Characters

variable {keep : Char → Bool}

@[simp] theorem consistsOf_append (first second : String) :
    consistsOf keep (first ++ second) = (consistsOf keep first && consistsOf keep second) := by
  simp [consistsOf, String.toList_append]

theorem consistsOf_join (texts : List String) :
    consistsOf keep (String.join texts) = texts.all (consistsOf keep) := by
  induction texts with
  | nil => rfl
  | cons text rest ih => rw [String.join_cons, consistsOf_append, ih, List.all_cons]

theorem consistsOf_intercalate {separator : String} (hseparator : consistsOf keep separator = true)
    (texts : List String) :
    consistsOf keep (separator.intercalate texts) = texts.all (consistsOf keep) := by
  induction texts with
  | nil => rfl
  | cons text rest ih =>
    cases rest with
    | nil => simp
    | cons next rest =>
      rw [String.intercalate_cons_cons, consistsOf_append, consistsOf_append, ih, hseparator,
        Bool.and_true]
      exact List.all_cons.symm

theorem consistsOf_of_numeral (hnumeral : ∀ c, isNumeral c = true → keep c = true) {text : String}
    (h : Numeral text) : consistsOf keep text = true := by
  rw [consistsOf, List.all_eq_true]
  intro c hc
  exact hnumeral c (h c hc)

/-- What numbers, escapes and punctuation are written with. -/
structure Writes (keep : Char → Bool) : Prop where
  numeral : ∀ c, isNumeral c = true → keep c = true
  escape : ∀ c, consistsOf keep (Json.escapeChar c) = true
  mark : ∀ text ∈ ["\"", ",", ":", "[", "]", "\x7b", "\x7d", "null", "true", "false"],
    consistsOf keep text = true

namespace Json

theorem consistsOf_quote (h : Writes keep) (text : String) : consistsOf keep (quote text) = true := by
  have hmark := h.mark "\"" (by simp)
  rw [quote, consistsOf_append, consistsOf_append, hmark, consistsOf_join, List.all_map,
    Bool.and_true, Bool.true_and, List.all_eq_true]
  intro c _
  exact h.escape c

mutual

theorem consistsOf_canonicalJson (h : Writes keep) :
    (value : Json) → consistsOf keep value.canonicalJson = true
  | .null => h.mark "null" (by simp)
  | .bool true => h.mark "true" (by simp)
  | .bool false => h.mark "false" (by simp)
  | .int value => consistsOf_of_numeral h.numeral (numeral_intRepr value)
  | .float value => consistsOf_of_numeral h.numeral (numeral_floatRepr value)
  | .str value => consistsOf_quote h value
  | .arr items => by
    rw [canonicalJson, consistsOf_append, consistsOf_append,
      consistsOf_intercalate (h.mark "," (by simp)), List.all_eq_true.mpr
        (consistsOf_canonicalItems h items), h.mark "[" (by simp), h.mark "]" (by simp)]
    rfl
  | .obj fields => by
    have hfields : (sortFields (canonicalFields fields)).all (fun field =>
        consistsOf keep (quote field.1 ++ ":" ++ field.2)) = true := by
      rw [List.all_eq_true]
      intro field hmem
      have hmem : field ∈ canonicalFields fields := (List.mem_insertionSort _).mp hmem
      rw [consistsOf_append, consistsOf_append, consistsOf_quote h, h.mark ":" (by simp),
        consistsOf_canonicalFields h fields field hmem]
      rfl
    rw [canonicalJson, renderFields, consistsOf_append, consistsOf_append,
      consistsOf_intercalate (h.mark "," (by simp)), List.all_map, h.mark "\x7b" (by simp),
      h.mark "\x7d" (by simp), Bool.true_and, Bool.and_true]
    exact hfields

theorem consistsOf_canonicalItems (h : Writes keep) :
    (items : List Json) → ∀ text ∈ canonicalItems items, consistsOf keep text = true
  | [], _, hmem => nomatch hmem
  | item :: rest, text, hmem => by
    rcases List.mem_cons.mp hmem with rfl | hmem
    · exact consistsOf_canonicalJson h item
    · exact consistsOf_canonicalItems h rest text hmem

theorem consistsOf_canonicalFields (h : Writes keep) :
    (fields : List (String × Json)) →
      ∀ field ∈ canonicalFields fields, consistsOf keep field.2 = true
  | [], _, hmem => nomatch hmem
  | (key, value) :: rest, field, hmem => by
    rcases List.mem_cons.mp hmem with rfl | hmem
    · exact consistsOf_canonicalJson h value
    · exact consistsOf_canonicalFields h rest field hmem

end

end Json

end Characters

/-- Every character below the blank is escaped. -/
def isGraphic (c : Char) : Bool := decide (32 ≤ c.toNat)

theorem writes_isGraphic : Writes isGraphic := by
  constructor
  · intro c hc
    simp only [isNumeral, Char.isDigit, Bool.or_eq_true, Bool.and_eq_true, decide_eq_true_eq,
      beq_iff_eq, ge_iff_le, UInt32.le_iff_toNat_le] at hc
    rcases hc with (((hdigit | rfl) | rfl) | rfl) | rfl
    · have hlow : 48 ≤ c.toNat := hdigit.1
      rw [isGraphic, decide_eq_true_eq]
      omega
    all_goals decide
  · intro c
    by_cases hascii : c.toNat < 128
    · have hall : ∀ n < 128, consistsOf isGraphic (Json.escapeChar (Char.ofNat n)) = true := by
        decide +kernel
      rw [← Char.ofNat_toNat c]
      exact hall c.toNat hascii
    · have hplain : Json.escapeChar c = String.ofList [c] := by
        apply Json.escapeChar_of_not_escaped
        intro hescaped
        have hsmall : ∀ n ∈ Json.escapedCodes, n < 128 := by decide
        exact hascii (hsmall _ hescaped)
      rw [hplain, consistsOf, String.toList_ofList, List.all_cons, List.all_nil, Bool.and_true,
        isGraphic, decide_eq_true_eq]
      omega
  · decide

theorem linesAt_newline (rows : List Json) : linesAt isNewline rows = rows.map some := by
  apply List.map_congr_left
  intro row _
  have hgraphic := Json.consistsOf_canonicalJson writes_isGraphic row
  rw [consistsOf, List.all_eq_true] at hgraphic
  have hnone : row.canonicalJson.toList.any isNewline = false := by
    rw [List.any_eq_false]
    intro c hc hnewline
    have hlow : 32 ≤ c.toNat := by simpa [isGraphic] using hgraphic c hc
    simp only [isNewline, Bool.or_eq_true, beq_iff_eq] at hnewline
    rcases hnewline with rfl | rfl
    · exact absurd hlow (by decide)
    · exact absurd hlow (by decide)
  rw [hnone]
  rfl

theorem linesAt_lineBoundary (rows : List Json) :
    linesAt isLineBoundary rows =
      rows.map fun row => if row.leavesOnOneLine then some row else none := by
  apply List.map_congr_left
  intro row _
  have hany : row.canonicalJson.toList.any isLineBoundary = !row.leavesOnOneLine := by
    rw [← row.onOneLine_canonicalJson, onOneLine, ← List.not_any_eq_all_not, Bool.not_not]
  rw [hany]
  cases row.leavesOnOneLine <;> rfl

/-- How values are written as rows and read from them. -/
structure RowFormat (ε α : Type) where
  encode : α → Json
  decode : Json → Except ε α
  /-- What `json.loads` raises. -/
  undecodable : ε

theorem mapM_decode_encode {β : Type} {encode : α → β} {decode : β → Except ε α} {values : List α}
    (h : ∀ value ∈ values, decode (encode value) = .ok value) :
    (values.map encode).mapM decode = .ok values := by
  induction values with
  | nil => rfl
  | cons value rest ih =>
    have hfirst := h value List.mem_cons_self
    have hrest := ih fun other hother => h other (List.mem_cons_of_mem _ hother)
    rw [List.map_cons, List.mapM_cons, hfirst, hrest]
    rfl

namespace RowFormat

variable (format : RowFormat ε α)

def readLine : Option Json → Except ε α
  | some row => format.decode row
  | none => .error format.undecodable

/-- The values on the lines that a reader finds. -/
def read (boundary : Char → Bool) (rows : List Json) : Except ε (List α) :=
  (linesAt boundary rows).mapM format.readLine

variable {format} {values : List α}

theorem mapM_readLine_of_whole (h : ∀ value ∈ values,
    format.decode (format.encode value) = .ok value) :
    ((values.map format.encode).map some).mapM format.readLine = .ok values := by
  rw [List.map_map]
  exact mapM_decode_encode h

theorem mapM_readLine_none {lines : List (Option Json)} (hnone : none ∈ lines) (result : List α) :
    lines.mapM format.readLine ≠ .ok result := by
  induction lines generalizing result with
  | nil => cases hnone
  | cons line rest ih =>
    intro h
    rw [List.mapM_cons, except_bind_ok_iff] at h
    obtain ⟨value, hvalue, h⟩ := h
    rw [except_bind_ok_iff] at h
    obtain ⟨others, hothers, -⟩ := h
    rcases List.mem_cons.mp hnone with rfl | hrest
    · cases hvalue
    · exact ih hrest others hothers

theorem read_newline (h : ∀ value ∈ values, format.decode (format.encode value) = .ok value) :
    format.read isNewline (values.map format.encode) = .ok values := by
  rw [read, linesAt_newline]
  exact mapM_readLine_of_whole h

theorem read_lineBoundary_iff
    (h : ∀ value ∈ values, format.decode (format.encode value) = .ok value) (result : List α) :
    format.read isLineBoundary (values.map format.encode) = .ok result ↔
      result = values ∧ ∀ value ∈ values, (format.encode value).leavesOnOneLine = true := by
  rw [read, linesAt_lineBoundary, List.map_map]
  by_cases hwhole : ∀ value ∈ values, (format.encode value).leavesOnOneLine = true
  · have hsome : (values.map ((fun row : Json => if row.leavesOnOneLine then some row else none) ∘
        format.encode)) = (values.map format.encode).map some := by
      rw [List.map_map]
      apply List.map_congr_left
      intro value hvalue
      exact if_pos (hwhole value hvalue)
    rw [hsome, mapM_readLine_of_whole h]
    constructor
    · intro heq
      exact ⟨(Except.ok.inj heq).symm, hwhole⟩
    · intro hboth
      rw [hboth.1]
  · constructor
    · intro heq
      push Not at hwhole
      obtain ⟨value, hvalue, hbroken⟩ := hwhole
      refine absurd heq (mapM_readLine_none ?_ result)
      exact List.mem_map.mpr ⟨value, hvalue, if_neg hbroken⟩
    · intro hboth
      exact absurd hboth.2 hwhole

end RowFormat

end JlensEvolve.Library
