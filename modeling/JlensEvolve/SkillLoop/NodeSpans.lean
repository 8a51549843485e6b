import JlensEvolve.SkillLoop.BlockRewrite

/-!
The spans of `operator_rewrite.py`. A node of the syntax tree is numbered by
Python's parser, by lines and by bytes of UTF-8 in a line; the spans are counted
in the lines of `str.splitlines`, which breaks lines at more characters.
-/

namespace JlensEvolve.SkillLoop.OperatorRewrite

open Library Contracts SearchReplace BlockRewrite TextLines

structure NodePosition where
  lineno : Option Nat
  colOffset : Nat
  endLineno : Option Nat
  endColOffset : Option Nat

/-- `len(line.encode("utf-8")[:byte_column].decode("utf-8"))`: `none` for a
`UnicodeDecodeError`. -/
def decodedLength : List Char → Nat → Option Nat
  | [], _ => some 0
  | c :: rest, bytes =>
    if bytes = 0 then some 0
    else if bytes < c.utf8Size then none
    else (decodedLength rest (bytes - c.utf8Size)).map (· + 1)

def lineOffset (lines : List (List Char)) (lineNumber byteColumn : Nat) : Except String Nat :=
  match lines[lineNumber - 1]? with
  | none => .error "list index out of range"
  | some line =>
    match decodedLength line byteColumn with
    | none => .error "operator selector splits a UTF-8 character"
    | some characterColumn =>
      .ok ((lines.take (lineNumber - 1)).flatten.length + characterColumn)

def nodeSpan (source : String) (node : NodePosition) : Except String (Nat × Nat) :=
  match node.lineno, node.endLineno, node.endColOffset with
  | some lineno, some endLineno, some endColOffset => do
      let start ← lineOffset (keepLines source) lineno node.colOffset
      let stop ← lineOffset (keepLines source) endLineno endColOffset
      return (start, stop)
  | _, _, _ => .error "operator selector has no concrete source span"

def statementSpan (source : String) (node : NodePosition) : Except String (Nat × Nat) :=
  match node.lineno, node.endLineno with
  | some lineno, some endLineno =>
    .ok (((keepLines source).take (lineno - 1)).flatten.length,
      ((keepLines source).take endLineno).flatten.length)
  | _, _ => .error "operator statement has no concrete source span"

def utf8Length (text : List Char) : Nat := (text.map Char.utf8Size).sum

theorem decodedLength_zero (line : List Char) : decodedLength line 0 = some 0 := by
  cases line with
  | nil => rfl
  | cons c rest => rw [decodedLength, if_pos rfl]

theorem decodedLength_utf8Length (line : List Char) {k : Nat} (hk : k ≤ line.length) :
    decodedLength line (utf8Length (line.take k)) = some k := by
  induction line generalizing k with
  | nil =>
    obtain rfl : k = 0 := Nat.le_zero.mp hk
    rfl
  | cons c rest ih =>
    cases k with
    | zero => exact decodedLength_zero _
    | succ k =>
      have hpos := Char.utf8Size_pos c
      have hbytes : utf8Length ((c :: rest).take (k + 1)) =
          c.utf8Size + utf8Length (rest.take k) := by
        rw [List.take_succ_cons, utf8Length, List.map_cons, List.sum_cons]
        rfl
      rw [hbytes, decodedLength, if_neg (by omega), if_neg (by omega), Nat.add_sub_cancel_left,
        ih (Nat.le_of_succ_le_succ hk)]
      rfl

/-- The parser counts a place in a text as so many lines and so many bytes of the last one. -/
structure Numbered (source : String) (lineno byteColumn column place : Nat) : Prop where
  pos : 1 ≤ lineno
  line : ∃ line, (parserLines source)[lineno - 1]? = some line ∧ column ≤ line.length ∧
    byteColumn = utf8Length (line.take column)
  place : place = ((parserLines source).take (lineno - 1)).flatten.length + column

/-- A node whose text goes from one place up to another: its last character is on its last line. -/
structure Located (source : String) (node : NodePosition) (first next : Nat) : Prop where
  nonempty : first < next
  start : ∃ lineno column, node.lineno = some lineno ∧
    Numbered source lineno node.colOffset column first
  stop : ∃ endLineno byteColumn column, node.endLineno = some endLineno ∧
    node.endColOffset = some byteColumn ∧ 1 ≤ column ∧
      Numbered source endLineno byteColumn column next

/-- The texts of both readers' first lines are the same. -/
def SameLines (source : String) (count : Nat) : Prop :=
  ((keepLines source).take count).flatten = ((parserLines source).take count).flatten

def LineEnd (source : String) (place : Nat) : Prop :=
  ∃ count, place = ((parserLines source).take count).flatten.length

variable {source : String} {node : NodePosition} {first next : Nat}

theorem flatten_take_le (lines : List (List Char)) {m n : Nat} (h : m ≤ n) :
    (lines.take m).flatten.length ≤ (lines.take n).flatten.length := by
  obtain ⟨more, hmore⟩ := List.take_prefix_take_left (l := lines) h
  rw [← hmore, List.flatten_append, List.length_append]
  exact Nat.le_add_right _ _

theorem flatten_take_succ {lines : List (List Char)} {n : Nat} {line : List Char}
    (h : lines[n]? = some line) :
    (lines.take (n + 1)).flatten.length = (lines.take n).flatten.length + line.length := by
  rw [List.take_add_one, h, List.flatten_append, List.length_append]
  simp

theorem take_eq_of_sameLines {count : Nat} (h : SameLines source count)
    (hcount : count ≤ (parserLines source).length) :
    (keepLines source).take count = (parserLines source).take count := by
  have hfine := @splitKeep_flatten_take isLineBoundary source.toList count
  have hcoarse := @splitKeep_flatten_take isNewline source.toList count
  rw [SameLines, keepLines, parserLines] at h
  rw [keepLines, parserLines]
  rw [parserLines] at hcount
  rw [h] at hfine
  have hlength : (splitKeep isLineBoundary
      ((splitKeep isNewline source.toList).take count).flatten).length ≤
        (splitKeep isNewline ((splitKeep isNewline source.toList).take count).flatten).length := by
    rw [hfine, hcoarse, List.length_take, List.length_take]
    omega
  calc (splitKeep isLineBoundary source.toList).take count
      = splitKeep isLineBoundary ((splitKeep isNewline source.toList).take count).flatten :=
        hfine.symm
    _ = splitKeep isNewline ((splitKeep isNewline source.toList).take count).flatten :=
        splitKeep_eq_of_length finer_isLineBoundary hlength
    _ = (splitKeep isNewline source.toList).take count := hcoarse

theorem Numbered.le_length {lineno byteColumn column place : Nat}
    (h : Numbered source lineno byteColumn column place) :
    lineno ≤ (parserLines source).length := by
  obtain ⟨line, hline, -⟩ := h.line
  have hlt := (List.getElem?_eq_some_iff.mp hline).1
  have hpos := h.pos
  omega

theorem Numbered.place_le {lineno byteColumn column place : Nat}
    (h : Numbered source lineno byteColumn column place) :
    place ≤ ((parserLines source).take lineno).flatten.length := by
  obtain ⟨line, hline, hcolumn, -⟩ := h.line
  have hsucc := flatten_take_succ hline
  have hpos := h.pos
  rw [Nat.sub_add_cancel hpos] at hsucc
  have hplace := h.place
  omega

theorem lineOffset_of_sameLines {count lineno byteColumn column place : Nat}
    (hsame : (keepLines source).take count = (parserLines source).take count)
    (h : Numbered source lineno byteColumn column place) (hlineno : lineno ≤ count) :
    lineOffset (keepLines source) lineno byteColumn = .ok place := by
  obtain ⟨line, hline, hcolumn, hbytes⟩ := h.line
  have hpos := h.pos
  have hlookup : (keepLines source)[lineno - 1]? = some line := by
    rw [← List.getElem?_take_of_lt (by omega : lineno - 1 < count), hsame,
      List.getElem?_take_of_lt (by omega), hline]
  have hbefore : (keepLines source).take (lineno - 1) = (parserLines source).take (lineno - 1) := by
    have htake := congrArg (List.take (lineno - 1)) hsame
    rw [List.take_take, List.take_take, Nat.min_eq_left (by omega)] at htake
    exact htake
  rw [lineOffset, hlookup, hbytes]
  simp only [decodedLength_utf8Length line hcolumn]
  rw [hbefore, ← h.place]

theorem Located.spans_of_sameLines (h : Located source node first next) {endLineno : Nat}
    (hend : node.endLineno = some endLineno) (hsame : SameLines source endLineno) :
    nodeSpan source node = .ok (first, next) ∧
      ∃ start stop, statementSpan source node = .ok (start, stop) ∧ LineEnd source start ∧
        LineEnd source stop ∧ start ≤ first ∧ next ≤ stop := by
  obtain ⟨lineno, column, hlineno, hstart⟩ := h.start
  obtain ⟨found, byteColumn, endColumn, hfound, hbytes, hcolumn, hstop⟩ := h.stop
  obtain rfl : endLineno = found := Option.some.inj (hend.symm.trans hfound)
  have hlines := take_eq_of_sameLines hsame hstop.le_length
  have hplace := hstart.place
  have hnonempty := h.nonempty
  have horder : lineno ≤ endLineno := by
    -- a node that starts behind its last line would be empty
    by_contra hbehind
    have hle := flatten_take_le (parserLines source) (by omega : endLineno ≤ lineno - 1)
    have hnext := hstop.place_le
    omega
  have hbefore : ((keepLines source).take (lineno - 1)).flatten =
      ((parserLines source).take (lineno - 1)).flatten := by
    have hpos := hstart.pos
    have htake := congrArg (List.take (lineno - 1)) hlines
    rw [List.take_take, List.take_take, Nat.min_eq_left (by omega)] at htake
    rw [htake]
  constructor
  · rw [nodeSpan, hlineno, hend, hbytes]
    simp only [lineOffset_of_sameLines hlines hstart horder,
      lineOffset_of_sameLines hlines hstop (Nat.le_refl _)]
    rfl
  · refine ⟨_, _, by rw [statementSpan, hlineno, hend], ⟨lineno - 1, by rw [hbefore]⟩,
      ⟨endLineno, by rw [hsame]⟩, ?_, ?_⟩
    · rw [hbefore]
      omega
    · rw [hsame]
      exact hstop.place_le

theorem Located.sameLines_of_spans (h : Located source node first next) {endLineno start stop : Nat}
    (hend : node.endLineno = some endLineno)
    (hspan : statementSpan source node = .ok (start, stop)) (hwhole : LineEnd source stop)
    (hnext : next ≤ stop) : SameLines source endLineno := by
  obtain ⟨lineno, column, hlineno, -⟩ := h.start
  obtain ⟨found, byteColumn, endColumn, hfound, -, hcolumn, hstop⟩ := h.stop
  obtain rfl : endLineno = found := Option.some.inj (hend.symm.trans hfound)
  have hplace := hstop.place
  have hprefix : ((keepLines source).take endLineno).flatten <+:
      ((parserLines source).take endLineno).flatten :=
    isPrefix_flatten_take finer_isLineBoundary source.toList endLineno
  rw [statementSpan, hlineno, hend] at hspan
  have hstopLength : ((keepLines source).take endLineno).flatten.length = stop :=
    (Prod.mk.inj (Except.ok.inj hspan)).2
  obtain ⟨count, hcount⟩ := hwhole
  -- the end of a line behind the node's last character is not in front of its last line's end
  have hreached : endLineno ≤ count := by
    by_contra hshort
    have hle := flatten_take_le (parserLines source) (by omega : count ≤ endLineno - 1)
    omega
  have hlength := flatten_take_le (parserLines source) hreached
  exact hprefix.eq_of_length (Nat.le_antisymm hprefix.length_le (by omega))

/-- The span of a node is its text and that of its statement is whole lines around it exactly
when `splitlines` and the parser make up the same text of the lines up to the node's last. -/
theorem node_spans_iff (h : Located source node first next) :
    (nodeSpan source node = .ok (first, next) ∧
        ∃ start stop, statementSpan source node = .ok (start, stop) ∧ LineEnd source start ∧
          LineEnd source stop ∧ start ≤ first ∧ next ≤ stop) ↔
      ∀ endLineno, node.endLineno = some endLineno → SameLines source endLineno := by
  constructor
  · rintro ⟨-, start, stop, hspan, -, hwhole, -, hnext⟩ endLineno hend
    exact h.sameLines_of_spans hend hspan hwhole hnext
  · intro hsame
    obtain ⟨endLineno, -, -, hend, -⟩ := h.stop
    exact h.spans_of_sameLines hend (hsame endLineno hend)

def pagedSource : String := "\x0c\nx = 1\n"

/-- The assignment, as the parser numbers it. -/
def pagedNode : NodePosition := ⟨some 2, 0, some 2, some 5⟩

theorem located_paged : Located pagedSource pagedNode 2 7 where
  nonempty := by omega
  start := ⟨2, 0, rfl, by omega, ⟨_, rfl, by decide, rfl⟩, by rfl⟩
  stop := ⟨2, 5, 5, rfl, rfl, by omega, by omega, ⟨_, rfl, by decide, by rfl⟩, by rfl⟩

/-- The form feed counts as a line, so the span ends in front of the statement. -/
theorem paged_statement_missed :
    ¬∀ (source : String) (node : NodePosition) (first next : Nat),
      Located source node first next →
      nodeSpan source node = .ok (first, next) ∧
        ∃ start stop, statementSpan source node = .ok (start, stop) ∧ LineEnd source start ∧
          LineEnd source stop ∧ start ≤ first ∧ next ≤ stop := by
  intro hall
  obtain ⟨-, start, stop, hspan, -, -, -, hnext⟩ := hall _ _ _ _ located_paged
  have hstatement : statementSpan pagedSource pagedNode = .ok (1, 2) := by rfl
  obtain ⟨-, hstop⟩ := Prod.mk.inj (Except.ok.inj (hstatement.symm.trans hspan))
  omega

theorem node_spans_iff_paged :
    (nodeSpan pagedSource pagedNode = .ok (2, 7) ∧
        ∃ start stop, statementSpan pagedSource pagedNode = .ok (start, stop) ∧
          LineEnd pagedSource start ∧ LineEnd pagedSource stop ∧ start ≤ 2 ∧ 7 ≤ stop) ↔
      ∀ endLineno, pagedNode.endLineno = some endLineno → SameLines pagedSource endLineno :=
  node_spans_iff located_paged

end JlensEvolve.SkillLoop.OperatorRewrite
