import Std.Data.String.ToInt
import JlensEvolve.Library.Json

/-!
What the canonical text of a value says about the value. A number is written
with digits, a sign, a point and an exponent only; a quoted text ends at its
closing mark; so from the text of a value that holds no float, whatever follows
it, the value can be read off up to the order of keys.
-/

namespace JlensEvolve.Library

/-- The characters a number is written with. -/
def isNumeral (c : Char) : Bool :=
  c.isDigit || c == '.' || c == '-' || c == '+' || c == 'e'

def Numeral (text : String) : Prop := ∀ c ∈ text.toList, isNumeral c = true

instance (text : String) : Decidable (Numeral text) :=
  List.decidableBAll (fun c => isNumeral c = true) text.toList

theorem isNumeral_of_isDigit {c : Char} (h : c.isDigit = true) : isNumeral c = true := by
  simp [isNumeral, h]

theorem numeral_of_digits {digits : List Char} (h : ∀ c ∈ digits, c.isDigit = true) :
    Numeral (String.ofList digits) := by
  intro c hc
  rw [String.toList_ofList] at hc
  exact isNumeral_of_isDigit (h c hc)

theorem Numeral.append {first second : String} (hfirst : Numeral first)
    (hsecond : Numeral second) : Numeral (first ++ second) := by
  intro c hc
  rw [String.toList_append, List.mem_append] at hc
  exact hc.elim (hfirst c) (hsecond c)

theorem numeral_ite {P : Prop} [Decidable P] {first second : String} (hfirst : Numeral first)
    (hsecond : Numeral second) : Numeral (if P then first else second) := by
  split
  · exact hfirst
  · exact hsecond

theorem isDigit_of_mem_repr {n : Nat} {c : Char} (h : c ∈ n.repr.toList) : c.isDigit = true := by
  rw [Nat.toList_repr] at h
  exact Nat.isDigit_of_mem_toDigits (by omega) (by omega) h

theorem numeral_natRepr (n : Nat) : Numeral n.repr :=
  fun _ hc => isNumeral_of_isDigit (isDigit_of_mem_repr hc)

theorem isDigit_or_minus_of_mem_intRepr {n : Int} {c : Char} (h : c ∈ n.repr.toList) :
    c.isDigit = true ∨ c = '-' := by
  cases n with
  | ofNat n => exact Or.inl (isDigit_of_mem_repr h)
  | negSucc n =>
    rw [show (Int.negSucc n).repr = "-" ++ (n + 1).repr from rfl, String.toList_append,
      List.mem_append] at h
    rcases h with h | h
    · exact Or.inr (List.mem_singleton.mp h)
    · exact Or.inl (isDigit_of_mem_repr h)

theorem numeral_intRepr (n : Int) : Numeral n.repr := by
  intro c hc
  rcases isDigit_or_minus_of_mem_intRepr hc with hdigit | rfl
  · exact isNumeral_of_isDigit hdigit
  · rfl

namespace Json

section Digits

variable {digits : List Char} (h : ∀ c ∈ digits, c.isDigit = true)

include h

theorem numeral_placePoint (point : Int) : Numeral (placePoint digits point) := by
  have hzeros : ∀ n, ∀ c ∈ List.replicate n '0', c.isDigit = true := by
    intro n c hc
    rw [List.eq_of_mem_replicate hc]
    rfl
  have hdot : Numeral "." := by decide
  have hleading : Numeral "0." := by decide
  have htrailing : Numeral ".0" := by decide
  unfold placePoint
  split
  · apply hleading.append
    apply numeral_of_digits
    intro c hc
    exact (List.mem_append.mp hc).elim (hzeros _ c) (h c)
  · split
    · apply Numeral.append
      · apply Numeral.append _ hdot
        exact numeral_of_digits fun c hc => h c (List.mem_of_mem_take hc)
      · exact numeral_of_digits fun c hc => h c (List.mem_of_mem_drop hc)
    · apply Numeral.append _ htrailing
      apply numeral_of_digits
      intro c hc
      exact (List.mem_append.mp hc).elim (h c) (hzeros _ c)

theorem numeral_scientific (exponent : Int) : Numeral (scientific digits exponent) := by
  have hdot : Numeral "." := by decide
  have hexp : Numeral "e" := by decide
  have hzero : Numeral "0" := by decide
  have hshown : Numeral (toString exponent.natAbs) := numeral_natRepr _
  unfold scientific
  apply Numeral.append
  · apply Numeral.append
    · apply Numeral.append _ hexp
      split
      · exact numeral_of_digits h
      · rename_i d rest _
        apply Numeral.append
        · apply Numeral.append _ hdot
          exact numeral_of_digits fun c hc =>
            h c (List.mem_cons.mpr (Or.inl (List.mem_singleton.mp hc)))
        · exact numeral_of_digits fun c hc => h c (List.mem_cons_of_mem d hc)
      · exact fun c hc => absurd hc List.not_mem_nil
    · exact numeral_ite (by decide) (by decide)
  · exact numeral_ite (hzero.append hshown) hshown

end Digits

theorem isDigit_of_significant (n : Nat) :
    ∀ c ∈ ((toString n).toList.reverse.dropWhile (· = '0')).reverse, c.isDigit = true := by
  intro c hc
  rw [List.mem_reverse] at hc
  exact isDigit_of_mem_repr (List.mem_reverse.mp (List.dropWhile_subset _ hc))

theorem numeral_floatRepr (q : ℚ) : Numeral (floatRepr q) := by
  unfold floatRepr
  split
  · decide
  · extract_lets places scaled digits point significant
    have hdigits : ∀ c ∈ significant, c.isDigit = true := isDigit_of_significant scaled
    apply Numeral.append
    · exact numeral_ite (by decide) (by decide)
    · split
      · exact numeral_placePoint hdigits _
      · exact numeral_scientific hdigits _

theorem point_mem_placePoint (digits : List Char) (point : Int) :
    '.' ∈ (placePoint digits point).toList := by
  unfold placePoint
  split
  · simp
  · split <;> simp

theorem exponent_mem_scientific (digits : List Char) (exponent : Int) :
    'e' ∈ (scientific digits exponent).toList := by
  simp [scientific]

theorem mark_mem_floatRepr (q : ℚ) : '.' ∈ (floatRepr q).toList ∨ 'e' ∈ (floatRepr q).toList := by
  unfold floatRepr
  split
  · left
    decide
  · extract_lets places scaled digits point significant
    simp only [String.toList_append, List.mem_append]
    by_cases hfixed : -4 < point ∧ point ≤ 16
    · rw [if_pos hfixed]
      exact Or.inl (Or.inr (point_mem_placePoint _ _))
    · rw [if_neg hfixed]
      exact Or.inr (Or.inr (exponent_mem_scientific _ _))

theorem floatRepr_ne_intRepr (q : ℚ) (n : Int) : (floatRepr q).toList ≠ n.repr.toList := by
  intro h
  rcases mark_mem_floatRepr q with hmark | hmark
  · rw [h] at hmark
    exact (isDigit_or_minus_of_mem_intRepr hmark).elim (by decide) (by decide)
  · rw [h] at hmark
    exact (isDigit_or_minus_of_mem_intRepr hmark).elim (by decide) (by decide)

/-- What may stand behind a value inside a text. -/
def Ends (rest : List Char) : Prop := ∀ c ∈ rest.head?, c = ',' ∨ c = ']' ∨ c = '\x7d'

theorem Ends.not_numeral {c : Char} {rest : List Char} (h : Ends (c :: rest)) :
    isNumeral c = false := by
  rcases h c rfl with rfl | rfl | rfl <;> rfl

theorem numeral_append_inj {first second rest more : List Char}
    (hfirst : ∀ c ∈ first, isNumeral c = true) (hsecond : ∀ c ∈ second, isNumeral c = true)
    (hrest : Ends rest) (hmore : Ends more) (h : first ++ rest = second ++ more) :
    first = second ∧ rest = more := by
  induction first generalizing second with
  | nil =>
    cases second with
    | nil => exact ⟨rfl, h⟩
    | cons d second =>
      rw [List.nil_append] at h
      subst h
      have hnumeral := hsecond d List.mem_cons_self
      rw [Ends.not_numeral hrest] at hnumeral
      cases hnumeral
  | cons c first ih =>
    cases second with
    | nil =>
      rw [List.nil_append] at h
      subst h
      have hnumeral := hfirst c List.mem_cons_self
      rw [Ends.not_numeral hmore] at hnumeral
      cases hnumeral
    | cons d second =>
      simp only [List.cons_append, List.cons.injEq] at h
      obtain ⟨rfl, h⟩ := h
      obtain ⟨rfl, rfl⟩ := ih (fun c hc => hfirst c (List.mem_cons_of_mem _ hc))
        (fun c hc => hsecond c (List.mem_cons_of_mem _ hc)) h
      exact ⟨rfl, rfl⟩

/-- The characters that quoting replaces, by code point. -/
def escapedCodes : List Nat := 34 :: 92 :: List.range 32

theorem escapeChar_of_not_escaped {c : Char} (h : c.toNat ∉ escapedCodes) :
    escapeChar c = String.ofList [c] := by
  have hne : ∀ d : Char, d.toNat ∈ escapedCodes → c ≠ d := by
    rintro d hd rfl
    exact h hd
  have hcontrol : ¬ c.toNat < 32 := by
    intro hlt
    exact h (by simp [escapedCodes, hlt])
  unfold escapeChar
  rw [if_neg (hne _ (by decide)), if_neg (hne _ (by decide)), if_neg (hne _ (by decide)),
    if_neg (hne _ (by decide)), if_neg (hne _ (by decide)), if_neg (hne _ (by decide)),
    if_neg (hne _ (by decide)), if_neg hcontrol]

theorem head_escapeChar_of_escaped {c : Char} (h : c.toNat ∈ escapedCodes) :
    ∃ rest, (escapeChar c).toList = '\\' :: rest := by
  have hall : ∀ n ∈ escapedCodes, (escapeChar (Char.ofNat n)).toList.head? = some '\\' := by
    decide
  have hhead := hall c.toNat h
  rw [Char.ofNat_toNat] at hhead
  exact ⟨_, (List.eq_cons_of_mem_head? hhead)⟩

theorem escapeChar_append_inj {c d : Char} {rest more : List Char}
    (h : (escapeChar c).toList ++ rest = (escapeChar d).toList ++ more) : c = d ∧ rest = more := by
  have hcodes : ∀ n ∈ escapedCodes, ∀ m ∈ escapedCodes,
      (escapeChar (Char.ofNat n)).toList <+: (escapeChar (Char.ofNat m)).toList → n = m := by
    decide
  have hescaped : ∀ {a b : Char}, a.toNat ∈ escapedCodes → b.toNat ∈ escapedCodes →
      (escapeChar a).toList <+: (escapeChar b).toList → a = b := by
    intro a b ha hb hprefix
    rw [← Char.ofNat_toNat a, ← Char.ofNat_toNat b] at hprefix
    rw [← Char.ofNat_toNat a, ← Char.ofNat_toNat b, hcodes _ ha _ hb hprefix]
  have hbackslash : ∀ {a : Char}, a.toNat ∉ escapedCodes → a ≠ '\\' := by
    rintro a ha rfl
    exact ha (by decide)
  by_cases hc : c.toNat ∈ escapedCodes
  · by_cases hd : d.toNat ∈ escapedCodes
    · have hsame : c = d := by
        rcases List.append_eq_append_iff.mp h with ⟨_, hlonger, -⟩ | ⟨_, hlonger, -⟩
        · exact hescaped hc hd ⟨_, hlonger.symm⟩
        · exact (hescaped hd hc ⟨_, hlonger.symm⟩).symm
      subst hsame
      exact ⟨rfl, List.append_cancel_left h⟩
    · obtain ⟨tail, htail⟩ := head_escapeChar_of_escaped hc
      rw [htail, escapeChar_of_not_escaped hd, String.toList_ofList] at h
      exact absurd (List.cons.inj h).1.symm (hbackslash hd)
  · by_cases hd : d.toNat ∈ escapedCodes
    · obtain ⟨tail, htail⟩ := head_escapeChar_of_escaped hd
      rw [htail, escapeChar_of_not_escaped hc, String.toList_ofList] at h
      exact absurd (List.cons.inj h).1 (hbackslash hc)
    · rw [escapeChar_of_not_escaped hc, escapeChar_of_not_escaped hd, String.toList_ofList,
        String.toList_ofList] at h
      exact List.cons.inj h

theorem head_escapeChar_ne_mark {c : Char} {rest more : List Char} :
    (escapeChar c).toList ++ rest ≠ '"' :: more := by
  by_cases hc : c.toNat ∈ escapedCodes
  · obtain ⟨tail, htail⟩ := head_escapeChar_of_escaped hc
    rw [htail]
    intro h
    exact absurd (List.cons.inj h).1 (by decide)
  · rw [escapeChar_of_not_escaped hc, String.toList_ofList]
    intro h
    obtain ⟨rfl, -⟩ := List.cons.inj h
    exact hc (by decide)

/-- The characters of a quoted text up to the closing mark. -/
def escaped (chars : List Char) : List Char := chars.flatMap fun c => (escapeChar c).toList

theorem toList_quote (text : String) :
    (quote text).toList = '"' :: (escaped text.toList ++ ['"']) := by
  have hjoin : ∀ chars : List Char, (String.join (chars.map escapeChar)).toList = escaped chars := by
    intro chars
    induction chars with
    | nil => rfl
    | cons c rest ih => rw [List.map_cons, String.join_cons, String.toList_append, ih]; rfl
  simp [quote, hjoin]

theorem escaped_append_inj {first second rest more : List Char}
    (h : escaped first ++ '"' :: rest = escaped second ++ '"' :: more) :
    first = second ∧ rest = more := by
  induction first generalizing second with
  | nil =>
    cases second with
    | nil => exact ⟨rfl, (List.cons.inj h).2⟩
    | cons d second =>
      simp only [escaped, List.flatMap_cons, List.append_assoc] at h
      exact absurd h.symm head_escapeChar_ne_mark
  | cons c first ih =>
    cases second with
    | nil =>
      simp only [escaped, List.flatMap_cons, List.append_assoc] at h
      exact absurd h head_escapeChar_ne_mark
    | cons d second =>
      simp only [escaped, List.flatMap_cons, List.append_assoc] at h
      obtain ⟨rfl, htail⟩ := escapeChar_append_inj h
      obtain ⟨rfl, rfl⟩ := ih htail
      exact ⟨rfl, rfl⟩

theorem quote_append_inj {first second : String} {rest more : List Char}
    (h : (quote first).toList ++ rest = (quote second).toList ++ more) :
    first = second ∧ rest = more := by
  rw [toList_quote, toList_quote, List.cons_append, List.cons_append, List.append_assoc,
    List.append_assoc] at h
  obtain ⟨hchars, hrest⟩ := escaped_append_inj (List.cons.inj h).2
  exact ⟨String.toList_inj.mp hchars, hrest⟩

/-- The kinds of value that the first character of a text tells apart. -/
inductive TextKind where
  | null
  | bool
  | number
  | text
  | array
  | object
deriving DecidableEq

def textKind : Json → TextKind
  | .null => .null
  | .bool _ => .bool
  | .int _ => .number
  | .float _ => .number
  | .str _ => .text
  | .arr _ => .array
  | .obj _ => .object

def kindOfChar (c : Char) : Option TextKind :=
  if isNumeral c then some .number
  else match c with
    | 'n' => some .null
    | 't' | 'f' => some .bool
    | '"' => some .text
    | '[' => some .array
    | '\x7b' => some .object
    | _ => none

theorem exists_kind_of_numeral {text : String} (hne : text.toList ≠ []) (h : Numeral text) :
    ∃ c rest, text.toList = c :: rest ∧ kindOfChar c = some .number := by
  obtain ⟨c, rest, hchars⟩ := List.exists_cons_of_ne_nil hne
  exact ⟨c, rest, hchars, if_pos (h c (hchars ▸ List.mem_cons_self))⟩

theorem intRepr_toList_ne_nil (n : Int) : n.repr.toList ≠ [] := by
  cases n with
  | ofNat n =>
    rw [show (Int.ofNat n).repr = n.repr from rfl, Nat.toList_repr]
    exact Nat.toDigits_ne_nil
  | negSucc n =>
    rw [show (Int.negSucc n).repr = "-" ++ (n + 1).repr from rfl, String.toList_append]
    simp

theorem exists_kind (value : Json) :
    ∃ c rest, value.canonicalJson.toList = c :: rest ∧ kindOfChar c = some value.textKind := by
  cases value with
  | null => exact ⟨'n', _, rfl, rfl⟩
  | bool value =>
    cases value
    · exact ⟨'f', _, rfl, rfl⟩
    · exact ⟨'t', _, rfl, rfl⟩
  | int value => exact exists_kind_of_numeral (intRepr_toList_ne_nil value) (numeral_intRepr value)
  | float value =>
    apply exists_kind_of_numeral _ (numeral_floatRepr value)
    intro hempty
    rcases mark_mem_floatRepr value with hmark | hmark
    · rw [hempty] at hmark
      cases hmark
    · rw [hempty] at hmark
      cases hmark
  | str value => exact ⟨'"', _, toList_quote value, rfl⟩
  | arr items =>
    exact ⟨'[', _, by rw [canonicalJson, String.toList_append, String.toList_append]; rfl, rfl⟩
  | obj fields =>
    exact ⟨'\x7b', _, by rw [canonicalJson, String.toList_append, String.toList_append]; rfl, rfl⟩

theorem textKind_eq_of_append {first second : Json} {rest more : List Char}
    (h : first.canonicalJson.toList ++ rest = second.canonicalJson.toList ++ more) :
    first.textKind = second.textKind := by
  obtain ⟨c, tail, hfirst, hkind⟩ := first.exists_kind
  obtain ⟨d, tail', hsecond, hkind'⟩ := second.exists_kind
  rw [hfirst, hsecond] at h
  rw [(List.cons.inj h).1, hkind'] at hkind
  exact (Option.some.inj hkind).symm

theorem canonicalJson_append_ne {close : Char} (hclose : kindOfChar close = none) (value : Json)
    (rest more : List Char) : value.canonicalJson.toList ++ rest ≠ close :: more := by
  intro h
  obtain ⟨c, tail, hchars, hkind⟩ := value.exists_kind
  rw [hchars] at h
  rw [(List.cons.inj h).1, hclose] at hkind
  cases hkind

/-! ### Items between commas -/

section Listed

variable {α β : Type} (close : Char) (text : α → List Char) (meaning : α → β)

/-- Texts separated by commas, the closing mark and what follows it. -/
def listed : List α → List Char → List Char
  | [], rest => close :: rest
  | [item], rest => text item ++ close :: rest
  | item :: next :: items, rest => text item ++ ',' :: listed (next :: items) rest

variable {close text meaning}

theorem intercalate_append (items : List α) (show' : α → String)
    (hshow : ∀ item, (show' item).toList = text item) (rest : List Char) :
    (String.intercalate "," (items.map show')).toList ++ close :: rest =
      listed close text items rest := by
  induction items with
  | nil => rfl
  | cons item items ih =>
    cases items with
    | nil => simp [listed, hshow]
    | cons next items =>
      rw [listed, ← ih, List.map_cons, List.map_cons, String.intercalate_cons_cons,
        String.toList_append, String.toList_append, hshow, List.append_assoc,
        List.append_assoc, ← List.map_cons]
      rfl

/-- Items can be read off one by one when the text of each tells what it means
and where it ends. -/
theorem listed_append_inj (hclose : close = ']' ∨ close = '\x7d')
    (hhead : ∀ item rest, ∀ more, text item ++ rest ≠ close :: more) {first second : List α}
    (hitems : ∀ item ∈ first, ∀ other rest more, Ends rest → Ends more →
      text item ++ rest = text other ++ more → meaning item = meaning other ∧ rest = more)
    {rest more : List Char} (h : listed close text first rest = listed close text second more) :
    first.map meaning = second.map meaning ∧ rest = more := by
  have hcomma : ∀ tail, Ends (',' :: tail) := fun tail c hc => Or.inl (Option.mem_some.mp hc).symm
  have hends : ∀ tail, Ends (close :: tail) := fun tail c hc =>
    Or.inr (Option.mem_some.mp hc ▸ hclose)
  have hne : ',' ≠ close := by
    rcases hclose with rfl | rfl <;> decide
  induction first generalizing second with
  | nil =>
    cases second with
    | nil => exact ⟨rfl, (List.cons.inj h).2⟩
    | cons other second =>
      cases second with
      | nil => exact absurd h.symm (hhead _ _ _)
      | cons next second => exact absurd h.symm (hhead _ _ _)
  | cons item first ih =>
    have hitem := hitems item List.mem_cons_self
    have hfirst := fun other hmem => hitems other (List.mem_cons_of_mem _ hmem)
    cases second with
    | nil =>
      cases first with
      | nil => exact absurd h (hhead _ _ _)
      | cons next first => exact absurd h (hhead _ _ _)
    | cons other second =>
      cases first with
      | nil =>
        cases second with
        | nil =>
          obtain ⟨hmeaning, htail⟩ := hitem other _ _ (hends _) (hends _) h
          exact ⟨by rw [List.map_cons, List.map_cons, hmeaning], (List.cons.inj htail).2⟩
        | cons next second =>
          obtain ⟨-, htail⟩ := hitem other _ _ (hends _) (hcomma _) h
          exact absurd (List.cons.inj htail).1.symm hne
      | cons next first =>
        cases second with
        | nil =>
          obtain ⟨-, htail⟩ := hitem other _ _ (hcomma _) (hends _) h
          exact absurd (List.cons.inj htail).1 hne
        | cons next' second =>
          obtain ⟨hmeaning, htail⟩ := hitem other _ _ (hcomma _) (hcomma _) h
          obtain ⟨hrest, hmore⟩ := ih hfirst (List.cons.inj htail).2
          exact ⟨by rw [List.map_cons, hmeaning, hrest]; rfl, hmore⟩

end Listed

/-! ### Reading a value off -/

mutual

def floatFree : Json → Bool
  | .float _ => false
  | .arr items => itemsFloatFree items
  | .obj fields => fieldsFloatFree fields
  | _ => true

def itemsFloatFree : List Json → Bool
  | [] => true
  | item :: rest => item.floatFree && itemsFloatFree rest

def fieldsFloatFree : List (String × Json) → Bool
  | [] => true
  | (_, value) :: rest => value.floatFree && fieldsFloatFree rest

end

/-- The text of the value, whatever follows it, tells the value up to the order
of keys and where it ends. -/
def Readable (value : Json) : Prop :=
  ∀ other : Json, ∀ rest more, Ends rest → Ends more →
    value.canonicalJson.toList ++ rest = other.canonicalJson.toList ++ more →
      value.sorted = other.sorted ∧ rest = more

theorem canonicalItems_eq_map (items : List Json) :
    canonicalItems items = items.map canonicalJson := by
  induction items with
  | nil => rfl
  | cons item rest ih => rw [canonicalItems, ih]; rfl

theorem canonicalFields_eq_map (fields : List (String × Json)) :
    canonicalFields fields = fields.map fun field => (field.1, field.2.canonicalJson) := by
  induction fields with
  | nil => rfl
  | cons field rest ih =>
    obtain ⟨key, value⟩ := field
    rw [canonicalFields, ih]
    rfl

theorem sortedItems_eq_map (items : List Json) : sortedItems items = items.map sorted := by
  induction items with
  | nil => rfl
  | cons item rest ih => rw [sortedItems, ih]; rfl

theorem sortedFields_eq_map (fields : List (String × Json)) :
    sortedFields fields = fields.map fun field => (field.1, field.2.sorted) := by
  induction fields with
  | nil => rfl
  | cons field rest ih =>
    obtain ⟨key, value⟩ := field
    rw [sortedFields, ih]
    rfl

theorem sortFields_map {α β : Type} (f : α → β) (fields : List (String × α)) :
    sortFields (fields.map fun field => (field.1, f field.2)) =
      (sortFields fields).map fun field => (field.1, f field.2) :=
  (List.map_insertionSort _ _ (fun field : String × α => (field.1, f field.2)) fields
    fun _ _ _ _ => Iff.rfl).symm

def fieldText (field : String × Json) : List Char :=
  (quote field.1).toList ++ ':' :: field.2.canonicalJson.toList

theorem toList_arr (items : List Json) (rest : List Char) :
    (Json.arr items).canonicalJson.toList ++ rest =
      '[' :: listed ']' (fun item => item.canonicalJson.toList) items rest := by
  rw [← intercalate_append items canonicalJson (fun _ => rfl), ← canonicalItems_eq_map,
    canonicalJson]
  simp

theorem toList_obj (fields : List (String × Json)) (rest : List Char) :
    (Json.obj fields).canonicalJson.toList ++ rest =
      '\x7b' :: listed '\x7d' fieldText (sortFields fields) rest := by
  rw [← intercalate_append (sortFields fields)
    (fun field => quote field.1 ++ ":" ++ field.2.canonicalJson)
    (fun field => by simp [fieldText]), canonicalJson, canonicalFields_eq_map, sortFields_map,
    renderFields, List.map_map]
  simp [Function.comp_def]

theorem readable_int (value : Int) : Readable (.int value) := by
  intro other rest more hrest hmore h
  have hkind := textKind_eq_of_append h
  cases other with
  | int other =>
    obtain ⟨hsame, hend⟩ := numeral_append_inj (numeral_intRepr value) (numeral_intRepr other)
      hrest hmore h
    rw [Int.repr_injective (String.toList_inj.mp hsame)]
    exact ⟨rfl, hend⟩
  | float other =>
    have hsame := (numeral_append_inj (numeral_intRepr value) (numeral_floatRepr other)
      hrest hmore h).1
    exact absurd hsame.symm (floatRepr_ne_intRepr other value)
  | null => cases hkind
  | bool other => cases hkind
  | str other => cases hkind
  | arr others => cases hkind
  | obj others => cases hkind

theorem readable_str (value : String) : Readable (.str value) := by
  intro other rest more hrest hmore h
  have hkind := textKind_eq_of_append h
  cases other with
  | str other =>
    obtain ⟨rfl, hend⟩ := quote_append_inj h
    exact ⟨rfl, hend⟩
  | null => cases hkind
  | bool other => cases hkind
  | int other => cases hkind
  | float other => cases hkind
  | arr others => cases hkind
  | obj others => cases hkind

theorem readable_bool (value : Bool) : Readable (.bool value) := by
  intro other rest more hrest hmore h
  have hkind := textKind_eq_of_append h
  cases other with
  | bool other =>
    cases value
    · cases other
      · exact ⟨rfl, List.append_cancel_left h⟩
      · exact absurd (List.cons.inj h).1 (by decide)
    · cases other
      · exact absurd (List.cons.inj h).1 (by decide)
      · exact ⟨rfl, List.append_cancel_left h⟩
  | null => cases hkind
  | str other => cases hkind
  | int other => cases hkind
  | float other => cases hkind
  | arr others => cases hkind
  | obj others => cases hkind

theorem readable_null : Readable .null := by
  intro other rest more hrest hmore h
  have hkind := textKind_eq_of_append h
  cases other with
  | null => exact ⟨rfl, List.append_cancel_left h⟩
  | bool other => cases hkind
  | str other => cases hkind
  | int other => cases hkind
  | float other => cases hkind
  | arr others => cases hkind
  | obj others => cases hkind

theorem readable_arr {items : List Json} (hitems : ∀ item ∈ items, Readable item) :
    Readable (.arr items) := by
  intro other rest more hrest hmore h
  have hkind := textKind_eq_of_append h
  cases other with
  | arr others =>
    rw [toList_arr, toList_arr] at h
    obtain ⟨hsame, hend⟩ := listed_append_inj (Or.inl rfl)
      (fun item _ _ => canonicalJson_append_ne rfl item _ _) hitems (List.cons.inj h).2
    rw [sorted, sorted, sortedItems_eq_map, sortedItems_eq_map, hsame]
    exact ⟨rfl, hend⟩
  | null => cases hkind
  | bool other => cases hkind
  | str other => cases hkind
  | int other => cases hkind
  | float other => cases hkind
  | obj others => cases hkind

theorem readable_obj {fields : List (String × Json)}
    (hfields : ∀ field ∈ fields, Readable field.2) : Readable (.obj fields) := by
  intro other rest more hrest hmore h
  have hkind := textKind_eq_of_append h
  cases other with
  | obj others =>
    rw [toList_obj, toList_obj] at h
    have hitems : ∀ field ∈ sortFields fields, ∀ another rest more, Ends rest → Ends more →
        fieldText field ++ rest = fieldText another ++ more →
          (field.1, field.2.sorted) = (another.1, another.2.sorted) ∧ rest = more := by
      intro field hmem another rest more hrest hmore hsame
      simp only [fieldText, List.append_assoc, List.cons_append] at hsame
      obtain ⟨hkey, htail⟩ := quote_append_inj hsame
      have hmem := (List.mem_insertionSort _).mp hmem
      obtain ⟨hvalue, hend⟩ := hfields field hmem another.2 rest more hrest hmore
        (List.cons.inj htail).2
      exact ⟨by rw [hkey, hvalue], hend⟩
    obtain ⟨hsame, hend⟩ := listed_append_inj (Or.inr rfl)
      (fun field rest more hclose => by
        rw [fieldText, toList_quote] at hclose
        exact absurd (List.cons.inj hclose).1 (by decide)) hitems (List.cons.inj h).2
    rw [sorted, sorted, sortedFields_eq_map, sortedFields_eq_map, sortFields_map sorted,
      sortFields_map sorted, hsame]
    exact ⟨rfl, hend⟩
  | null => cases hkind
  | bool other => cases hkind
  | str other => cases hkind
  | int other => cases hkind
  | float other => cases hkind
  | arr others => cases hkind

mutual

theorem readable_of_floatFree : (value : Json) → value.floatFree = true → Readable value
  | .null, _ => readable_null
  | .bool value, _ => readable_bool value
  | .int value, _ => readable_int value
  | .str value, _ => readable_str value
  | .arr items, h => readable_arr (readable_of_itemsFloatFree items h)
  | .obj fields, h => readable_obj (readable_of_fieldsFloatFree fields h)

theorem readable_of_itemsFloatFree : (items : List Json) → itemsFloatFree items = true →
    ∀ item ∈ items, Readable item
  | [], _ => fun _ hitem => absurd hitem List.not_mem_nil
  | first :: rest, h => by
    rw [itemsFloatFree, Bool.and_eq_true] at h
    intro item hitem
    rcases List.mem_cons.mp hitem with hfirst | hitem
    · rw [hfirst]
      exact readable_of_floatFree first h.1
    · exact readable_of_itemsFloatFree rest h.2 item hitem

theorem readable_of_fieldsFloatFree : (fields : List (String × Json)) →
    fieldsFloatFree fields = true → ∀ field ∈ fields, Readable field.2
  | [], _ => fun _ hfield => absurd hfield List.not_mem_nil
  | (key, value) :: rest, h => by
    rw [fieldsFloatFree, Bool.and_eq_true] at h
    intro field hfield
    rcases List.mem_cons.mp hfield with hfirst | hfield
    · rw [hfirst]
      exact readable_of_floatFree value h.1
    · exact readable_of_fieldsFloatFree rest h.2 field hfield

end

/-- The canonical text of a value without floats is that of no other value, up
to the order of keys. -/
theorem sorted_eq_of_canonicalJson_eq {value other : Json} (hfree : value.floatFree = true)
    (h : value.canonicalJson = other.canonicalJson) : value.sorted = other.sorted :=
  (readable_of_floatFree value hfree other [] [] (fun _ hc => absurd hc (by simp))
    (fun _ hc => absurd hc (by simp)) (by rw [h])).1

theorem utf8_injective {first second : String} (h : utf8 first = utf8 second) : first = second := by
  unfold utf8 at h
  rw [← List.map_flatMap, ← List.map_flatMap] at h
  have hbytes := List.map_injective_iff.mpr (fun _ _ => UInt8.toNat_inj.mp) h
  have hencoded : first.toList.utf8Encode = second.toList.utf8Encode := by
    rw [List.utf8Encode, List.utf8Encode, hbytes]
  have hdecoded : first.toList.toArray = second.toList.toArray := by
    apply Option.some.inj
    rw [← List.utf8Decode?_utf8Encode, ← List.utf8Decode?_utf8Encode, hencoded]
  exact String.toList_inj.mp (List.toArray_inj hdecoded)

end Json

end JlensEvolve.Library
