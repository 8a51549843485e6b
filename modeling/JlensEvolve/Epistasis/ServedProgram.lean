import Mathlib.Data.List.DropRight
import JlensEvolve.Epistasis.Search

/-!
The program the structured proposer serves. A deterministic scaffold, or the
current program as a last resort, goes into a markdown fence of the coder's
response, the digest of the selected text goes into the audit, and the search
engine reads the longest fenced block of the response again.
-/

namespace JlensEvolve.Epistasis

open Library Contracts

variable {Records Output : Type}

/-- `str.strip`. -/
def stripText (text : String) : String := String.ofList (stripped text.toList)

def currentProgramLabel : List Char := "current program:".toList

/-- The label in front of the fence, in any case. -/
def afterLabel (chars : List Char) : Option (List Char) :=
  if (chars.take currentProgramLabel.length).map Char.toLower = currentProgramLabel then
    some (chars.drop currentProgramLabel.length)
  else none

/-- One match of `_CURRENT_PROGRAM` at the head of a text: its block, and what
follows the closing fence. -/
def labelledBlock (chars : List Char) : Option (List Char × List Char) := do
  let opened := (← afterLabel chars).dropWhile isSpace
  if fence.isPrefixOf opened then
    match (opened.drop 3).dropWhile (· ≠ '\n') with
    | [] => none
    | _ :: body => untilFence body
  else none

/-- `_CURRENT_PROGRAM.findall`. -/
def labelledBlocks : Nat → List Char → List (List Char)
  | 0, _ => []
  | _, [] => []
  | fuel + 1, c :: rest =>
    match labelledBlock (c :: rest) with
    | some (block, after) => block :: labelledBlocks fuel after
    | none => labelledBlocks fuel rest

/-- `extract_current_program` of the joined message texts. -/
def extractCurrentProgram (messageText : String) : Option String :=
  (labelledBlocks messageText.toList.length messageText.toList).getLast?.map fun block =>
    String.ofList (stripped block)

/-- `MutationPlan`, as far as the selection reads it. -/
structure MutationPlan where
  operatorId : String

def MutationPlan.structured (plan : MutationPlan) : Bool := plan.operatorId ≠ "free_form_rewrite"

structure MutationResult where
  source : String
  changed : Bool
  operatorId : String
  postconditionValid : Bool
  error : Option String

def postconditionSatisfied (sandbox : Sandbox Records Output) (source : String)
    (plan : MutationPlan) : Bool :=
  match sandbox.dump source with
  | none => false
  | some dump =>
    if plan.operatorId = "free_form_rewrite" then true
    else if plan.operatorId = "canonicalize_before_predicate" then
      contains dump "attr='strip'" && contains dump "attr='lower'" &&
        contains dump "value='status'"
    else if plan.operatorId = "finite_numeric_guard" then
      contains dump "attr='isfinite'" && contains dump "id='math'" &&
        contains dump "id='bool'" && contains dump "id='int'" &&
        contains dump "id='float'"
    else false

/-- The parts outside the text functions: `rewrite` parses a program, applies
the operator of a plan to its tree and gives the number of changes with
`ast.unparse` of the result; `render` is `str` of a content that is no text. -/
structure MutationTools (Records Output : Type) where
  sandbox : Sandbox Records Output
  rewrite : MutationPlan → String → Except String (Nat × String)
  render : Json → String

def MutationTools.applyMutationPlan (tools : MutationTools Records Output) (source : String)
    (plan : MutationPlan) : MutationResult :=
  if plan.structured then
    match tools.rewrite plan source with
    | .ok (changes, unparsed) =>
      let mutated := stripText unparsed ++ "\n"
      { source := mutated
        changed := changes ≠ 0 && stripText mutated ≠ stripText source
        operatorId := plan.operatorId
        postconditionValid := postconditionSatisfied tools.sandbox mutated plan
        error := none }
    | .error raised => ⟨source, false, plan.operatorId, false, some raised⟩
  else ⟨source, false, plan.operatorId, true, none⟩

def extractCandidateSource (text : String) : Option String := extractFencedSource text

/-- `response["choices"][0]["message"]["content"]`. -/
def assistantContent (response : Json) : Option Json :=
  match response.get? "choices" with
  | some (.arr (choice :: _)) => (choice.get? "message").bind (Json.get? "content")
  | _ => none

def MutationTools.responseContent (tools : MutationTools Records Output) (response : Json) :
    Except String String :=
  match assistantContent response with
  | some (.str text) => .ok text
  | some other => .ok (tools.render other)
  | none => .error "upstream response has no assistant content"

/-- `value[key] = held`, of an object. -/
def assign (value : Json) (key : String) (held : Json) : Json :=
  match value with
  | .obj fields => .obj (Dict.setEntries key held fields)
  | other => other

/-- The content of the first choice replaced. -/
def withContent (choice : Json) (content : String) : Json :=
  assign choice "message" (assign ((choice.get? "message").getD .null) "content" (.str content))

def fencedProgram (source : String) : String := "```python\n" ++ stripText source ++ "\n```"

/-- `_response_with_source`, of a response whose content was read before. -/
def responseWithSource (response : Json) (source : String) : Json :=
  match response.get? "choices" with
  | some (.arr (choice :: others)) =>
    assign response "choices" (.arr (withContent choice (fencedProgram source) :: others))
  | _ => response

inductive SelectedOrigin where
  | freeCoder
  | currentProgramFallback
  | invalidCoder
  | modelRepair
  | deterministicScaffold
deriving DecidableEq

/-- What is sent on, and what the audit says about it. -/
structure SelectedProgram where
  response : Json
  source : Option String
  origin : SelectedOrigin
  sourceSha256 : Option String
  astSha256 : Option String

def MutationTools.selected (tools : MutationTools Records Output) (response : Json)
    (source : Option String) (origin : SelectedOrigin) : SelectedProgram :=
  let hashes := source.map (sourceFingerprints tools.sandbox)
  ⟨response, source, origin, hashes.map Prod.fst, hashes.map Prod.snd⟩

/-- The last three branches: the coder's program, else the current one. -/
def MutationTools.freeSelection (tools : MutationTools Records Output) (coderResponse : Json)
    (coderSource currentSource : Option String) : SelectedProgram :=
  match coderSource, currentSource with
  | some source, _ => tools.selected coderResponse (some source) .freeCoder
  | none, some source =>
    tools.selected (responseWithSource coderResponse source) (some source)
      .currentProgramFallback
  | none, none => tools.selected coderResponse none .invalidCoder

/-- The scaffold: what the operator of the plan made of the current program,
when it changed the program and its postcondition holds. -/
def MutationTools.scaffold (tools : MutationTools Records Output) (structured : Bool)
    (messageText : String) (plan : MutationPlan) : Option String :=
  let mutation := if structured then
    (extractCurrentProgram messageText).map (tools.applyMutationPlan · plan) else none
  mutation.bind fun result =>
    if result.changed && result.postconditionValid then some result.source else none

/-- `process_chat` from the coder's response on: `structured` is the mode,
`plan` what the planner's response was read as. -/
def MutationTools.processChat (tools : MutationTools Records Output) (structured : Bool)
    (messageText : String) (plan : MutationPlan) (coderResponse : Json) :
    Except String SelectedProgram := do
  let currentSource := extractCurrentProgram messageText
  let scaffold := tools.scaffold structured messageText plan
  let coderSource := extractCandidateSource (← tools.responseContent coderResponse)
  let currentAst := (currentSource.filter (· ≠ "")).map fun source =>
    (sourceFingerprints tools.sandbox source).2
  let repairPostconditionValid := coderSource.any fun source =>
    postconditionSatisfied tools.sandbox source plan &&
      (!plan.structured || some (sourceFingerprints tools.sandbox source).2 ≠ currentAst)
  if !structured then return tools.freeSelection coderResponse coderSource currentSource
  if repairPostconditionValid then
    return tools.selected coderResponse coderSource .modelRepair
  match scaffold with
  | some source =>
    return tools.selected (responseWithSource coderResponse source) (some source)
      .deterministicScaffold
  | none => return tools.freeSelection coderResponse coderSource currentSource

/-- Neither end of the text is a blank. -/
structure Trimmed (chars : List Char) : Prop where
  first : ∀ c, chars.head? = some c → isSpace c = false
  last : ∀ c, chars.getLast? = some c → isSpace c = false

theorem stripped_eq (chars : List Char) :
    stripped chars = (chars.dropWhile isSpace).rdropWhile isSpace := rfl

theorem Trimmed.dropWhile_append {chars : List Char} (h : Trimmed chars) (hne : chars ≠ [])
    (more : List Char) : (chars ++ more).dropWhile isSpace = chars ++ more := by
  cases chars with
  | nil => exact absurd rfl hne
  | cons c rest =>
    have hc := h.first c rfl
    rw [List.cons_append, List.dropWhile_cons_of_neg (by rw [hc]; exact Bool.false_ne_true)]

theorem Trimmed.rdropWhile_eq {chars : List Char} (h : Trimmed chars) :
    chars.rdropWhile isSpace = chars := by
  rw [List.rdropWhile_eq_self_iff]
  intro hne hspace
  rw [h.last _ (List.getLast?_eq_some_getLast hne)] at hspace
  exact Bool.false_ne_true hspace

theorem Trimmed.stripped_eq {chars : List Char} (h : Trimmed chars) : stripped chars = chars := by
  by_cases hne : chars = []
  · rw [hne]
    rfl
  · have hleft := h.dropWhile_append hne []
    rw [List.append_nil] at hleft
    rw [Epistasis.stripped_eq, hleft, h.rdropWhile_eq]

theorem trimmed_stripped (chars : List Char) : Trimmed (stripped chars) := by
  rw [stripped_eq]
  constructor
  · intro c hc
    obtain ⟨after, hafter⟩ : (chars.dropWhile isSpace).rdropWhile isSpace <+:
        chars.dropWhile isSpace := List.rdropWhile_prefix _ _
    have hhead : (chars.dropWhile isSpace).head? = some c := by
      rw [← hafter, List.head?_append, hc]
      rfl
    have hnot := List.head?_dropWhile_not isSpace chars
    rw [hhead] at hnot
    simpa using hnot
  · intro c hc
    have hne : (chars.dropWhile isSpace).rdropWhile isSpace ≠ [] := by
      intro hnil
      rw [hnil] at hc
      cases hc
    have hnot := List.rdropWhile_last_not isSpace _ hne
    rw [List.getLast?_eq_some_getLast hne, Option.some.injEq] at hc
    rw [hc] at hnot
    simpa using hnot

theorem stripped_stripped (chars : List Char) : stripped (stripped chars) = stripped chars :=
  (trimmed_stripped chars).stripped_eq

theorem infix_stripped (chars : List Char) : stripped chars <:+: chars :=
  (List.rdropWhile_prefix _ _).isInfix.trans (List.dropWhile_suffix _).isInfix

theorem length_stripped_le (chars : List Char) : (stripped chars).length ≤ chars.length :=
  (infix_stripped chars).length_le

theorem Trimmed.stripped_newline {chars : List Char} (h : Trimmed chars) (hne : chars ≠ []) :
    stripped (chars ++ ['\n']) = chars := by
  rw [Epistasis.stripped_eq, h.dropWhile_append hne, List.rdropWhile_concat_pos _ _ _ rfl,
    h.rdropWhile_eq]

theorem toList_stripText (text : String) : (stripText text).toList = stripped text.toList :=
  String.toList_ofList

theorem fence_eq : fence = ['\x60', '\x60', '\x60'] := rfl

theorem fence_prefix_of_newline {chars more : List Char}
    (h : fence <+: chars ++ '\n' :: more) : fence <+: chars := by
  rw [fence_eq] at h ⊢
  match chars with
  | [] => simp at h
  | [a] => simp at h
  | [a, b] => simp at h
  | a :: b :: c :: rest => simpa using h

theorem untilFence_of_free {chars : List Char} (hfree : ¬fence <:+: chars) :
    untilFence (chars ++ '\n' :: fence) = some (chars ++ ['\n'], []) := by
  induction chars with
  | nil => rfl
  | cons c rest ih =>
    have hrest : ¬fence <:+: rest := fun h => hfree (h.trans (List.suffix_cons c rest).isInfix)
    have hhead : fence.isPrefixOf (c :: (rest ++ '\n' :: fence)) = false := by
      rw [Bool.eq_false_iff, Ne, List.isPrefixOf_iff_prefix]
      exact fun h => hfree (@fence_prefix_of_newline (c :: rest) _ h).isInfix
    rw [List.cons_append, untilFence, if_neg (by rw [hhead]; exact Bool.false_ne_true), ih hrest]
    rfl

theorem untilFence_of_fence {chars : List Char} (hfence : fence <:+: chars) (more : List Char) :
    ∃ block after, untilFence (chars ++ more) = some (block, after ++ more) ∧
      chars.length = block.length + 3 + after.length := by
  induction chars with
  | nil => simp [fence_eq] at hfence
  | cons c rest ih =>
    by_cases hhead : fence <+: c :: rest
    · obtain ⟨after, hafter⟩ := hhead
      refine ⟨[], after, ?_, by rw [← hafter, List.length_append]; simp [fence_eq]⟩
      have hopens : fence.isPrefixOf (c :: (rest ++ more)) = true := by
        rw [List.isPrefixOf_iff_prefix, ← List.cons_append, ← hafter, List.append_assoc]
        exact List.prefix_append _ _
      rw [List.cons_append, untilFence, if_pos hopens, ← List.cons_append, ← hafter]
      rfl
    · have hrest : fence <:+: rest := (List.infix_cons_iff.mp hfence).resolve_left hhead
      obtain ⟨block, after, huntil, hlength⟩ := ih hrest
      have hopens : fence.isPrefixOf (c :: (rest ++ more)) = false := by
        rw [Bool.eq_false_iff, Ne, List.isPrefixOf_iff_prefix]
        intro h
        refine hhead ?_
        have hthree : fence.length ≤ (c :: rest).length :=
          hrest.length_le.trans (Nat.le_succ _)
        exact List.prefix_of_prefix_length_le h (List.prefix_append (c :: rest) more) hthree
      refine ⟨c :: block, after, ?_, by simp [hlength]; omega⟩
      rw [List.cons_append, untilFence, if_neg (by rw [hopens]; exact Bool.false_ne_true),
        huntil]
      rfl

theorem untilFence_some {chars block after : List Char}
    (h : untilFence chars = some (block, after)) :
    chars = block ++ fence ++ after ∧ ¬fence <:+: block := by
  induction chars generalizing block with
  | nil => cases h
  | cons c rest ih =>
    rw [untilFence] at h
    split at h
    · rename_i hhead
      obtain ⟨rest', hrest'⟩ := List.isPrefixOf_iff_prefix.mp hhead
      obtain ⟨rfl, rfl⟩ := Prod.mk.inj (Option.some.inj h)
      refine ⟨?_, by simp [fence_eq]⟩
      rw [← hrest']
      rfl
    · rename_i hhead
      rw [Option.map_eq_some_iff] at h
      obtain ⟨⟨found, others⟩, hfound, heq⟩ := h
      obtain ⟨rfl, rfl⟩ := Prod.mk.inj heq
      obtain ⟨hrest, hfree⟩ := ih hfound
      refine ⟨by rw [hrest]; rfl, ?_⟩
      intro hinfix
      rcases List.infix_cons_iff.mp hinfix with hstart | hlater
      · refine hhead (List.isPrefixOf_iff_prefix.mpr (hstart.trans ?_))
        rw [hrest, List.append_assoc]
        exact List.prefix_append (c :: found) _
      · exact hfree hlater

theorem length_fencedBlocks {fuel : Nat} {chars block : List Char}
    (h : block ∈ fencedBlocks fuel chars) : block.length + 7 ≤ chars.length := by
  induction fuel generalizing chars with
  | zero => cases h
  | succ fuel ih =>
    cases chars with
    | nil => cases h
    | cons c rest =>
      have hlater : ∀ {others}, block ∈ fencedBlocks fuel others →
          others.length ≤ (c :: rest).length → block.length + 7 ≤ (c :: rest).length :=
        fun hblock hothers => (ih hblock).trans hothers
      rw [fencedBlocks] at h
      split at h
      · rename_i hhead
        obtain ⟨inner, hinner⟩ := List.isPrefixOf_iff_prefix.mp hhead
        have hdrop : (c :: rest).drop 3 = inner := by rw [← hinner]; rfl
        have htotal : (c :: rest).length = inner.length + 3 := by
          rw [← hinner, List.length_append, Nat.add_comm]
          rfl
        rw [hdrop] at h
        split at h
        · exact hlater h (Nat.le_succ _)
        · rename_i body hbody
          have hsuffix : body.length + 1 ≤ inner.length := by
            have := (List.dropWhile_suffix (fun d => d ≠ '\n') (l := inner)).length_le
            rw [hbody] at this
            exact this
          split at h
          · exact hlater h (Nat.le_succ _)
          · rename_i found after huntil
            obtain ⟨hbody', -⟩ := untilFence_some huntil
            have hparts : body.length = found.length + 3 + after.length := by
              rw [hbody', List.length_append, List.length_append]
              rfl
            rcases List.mem_cons.mp h with rfl | hblock
            · omega
            · exact hlater hblock (by omega)
      · exact hlater h (Nat.le_succ _)

theorem longest_mem (first : List Char) (rest : List (List Char)) :
    longest first rest ∈ first :: rest := by
  induction rest generalizing first with
  | nil => exact List.mem_singleton_self _
  | cons block others ih =>
    have hmem := ih (if first.length < block.length then block else first)
    rw [longest, List.foldl_cons]
    rcases List.mem_cons.mp hmem with heq | hothers
    · rw [← longest, heq]
      split
      · exact List.mem_cons_of_mem _ List.mem_cons_self
      · exact List.mem_cons_self
    · exact List.mem_cons_of_mem _ (List.mem_cons_of_mem _ hothers)

def fenceOpening : List Char := "```python\n".toList

theorem fenceOpening_eq : fenceOpening =
    ['\x60', '\x60', '\x60', 'p', 'y', 't', 'h', 'o', 'n', '\n'] := rfl

theorem toList_fencedProgram (source : String) :
    (fencedProgram source).toList =
      fenceOpening ++ (stripped source.toList ++ '\n' :: fence) := by
  rw [fencedProgram, String.toList_append, String.toList_append, toList_stripText,
    List.append_assoc]
  rfl

theorem fencedBlocks_opening {body block after : List Char} (fuel : Nat)
    (h : untilFence body = some (block, after)) :
    fencedBlocks (fuel + 1) (fenceOpening ++ body) = block :: fencedBlocks fuel after := by
  have hopen : fence.isPrefixOf (fenceOpening ++ body) = true :=
    List.isPrefixOf_iff_prefix.mpr ⟨fenceOpening.drop 3 ++ body, rfl⟩
  have hline : ((fenceOpening ++ body).drop 3).dropWhile (· ≠ '\n') = '\n' :: body := by
    rw [fenceOpening_eq]
    rfl
  rw [fenceOpening_eq] at hopen hline ⊢
  simp only [List.cons_append, List.nil_append] at hopen hline ⊢
  rw [fencedBlocks, if_pos hopen, hline]
  simp only [h]

theorem fencedBlocks_fencedProgram {source : String} {block after : List Char}
    (h : untilFence (stripped source.toList ++ '\n' :: fence) = some (block, after)) :
    ∃ fuel, fencedBlocks (fencedProgram source).toList.length (fencedProgram source).toList =
      block :: fencedBlocks fuel after := by
  rw [toList_fencedProgram]
  exact ⟨_, fencedBlocks_opening _ h⟩

theorem extractCandidateSource_of_free {source : String} (hne : stripped source.toList ≠ [])
    (hfree : ¬fence <:+: stripped source.toList) :
    extractCandidateSource (fencedProgram source) = some (stripText source) := by
  obtain ⟨fuel, hblocks⟩ := fencedBlocks_fencedProgram (untilFence_of_free hfree)
  have hnone : fencedBlocks fuel [] = [] := by cases fuel <;> rfl
  have hblock : stripped (stripped source.toList ++ ['\n']) = stripped source.toList :=
    (trimmed_stripped _).stripped_newline hne
  have hkept : ([stripped source.toList]).filter (!·.isEmpty) = [stripped source.toList] := by
    rw [List.filter_cons_of_pos (by simpa using hne), List.filter_nil]
  rw [extractCandidateSource, extractFencedSource]
  simp only [hblocks, hnone, List.map_cons, List.map_nil, hblock, hkept]
  rfl

theorem trimmed_fencedProgram (source : String) : Trimmed (fencedProgram source).toList := by
  rw [toList_fencedProgram]
  constructor
  · intro c hc
    obtain rfl : '\x60' = c := Option.some.inj hc
    rfl
  · intro c hc
    rw [List.getLast?_append, List.getLast?_append] at hc
    obtain rfl : '\x60' = c := Option.some.inj hc
    rfl

theorem extractCandidateSource_of_fence {source : String}
    (hfence : fence <:+: stripped source.toList) :
    extractCandidateSource (fencedProgram source) ≠ some (stripText source) := by
  intro hextract
  obtain ⟨block, after, huntil, hlength⟩ := untilFence_of_fence hfence ('\n' :: fence)
  obtain ⟨fuel, hblocks⟩ := fencedBlocks_fencedProgram huntil
  have hshort : ∀ found ∈ (fencedBlocks (fencedProgram source).toList.length
      (fencedProgram source).toList).map stripped,
      found.length < (stripped source.toList).length := by
    intro found hfound
    rw [hblocks] at hfound
    obtain ⟨whole, hwhole, rfl⟩ := List.mem_map.mp hfound
    have hstripped := length_stripped_le whole
    rcases List.mem_cons.mp hwhole with rfl | hlater
    · omega
    · have hseven := length_fencedBlocks hlater
      rw [List.length_append, List.length_cons] at hseven
      have hthree : fence.length = 3 := rfl
      omega
  rw [extractCandidateSource, extractFencedSource] at hextract
  split at hextract
  · rename_i first rest hkept
    have hmem := longest_mem first rest
    rw [← hkept] at hmem
    have hlt := hshort _ (List.mem_of_mem_filter hmem)
    rw [stripText] at hextract
    rw [String.ofList_inj.mp (Option.some.inj hextract)] at hlt
    exact Nat.lt_irrefl _ hlt
  · split at hextract
    · rw [stripText] at hextract
      have heq := String.ofList_inj.mp (Option.some.inj hextract)
      rw [(trimmed_fencedProgram source).stripped_eq, toList_fencedProgram] at heq
      have hlengths := congrArg List.length heq
      rw [List.length_append, List.length_append, List.length_cons] at hlengths
      omega
    · cases hextract

theorem extractCandidateSource_iff {source : String} (hne : stripped source.toList ≠ []) :
    extractCandidateSource (fencedProgram source) = some (stripText source) ↔
      ¬fence <:+: stripped source.toList := by
  constructor
  · intro hextract hfence
    exact extractCandidateSource_of_fence hfence hextract
  · exact extractCandidateSource_of_free hne

theorem get?_assign {value old : Json} {key : String} (h : value.get? key = some old)
    (held : Json) : (assign value key held).get? key = some held := by
  cases value with
  | obj fields =>
    rw [assign, Json.get?_obj, Json.field?, Dict.lookup_setEntries, if_pos rfl]
  | _ => cases h

theorem assistantContent_responseWithSource {response content : Json}
    (h : assistantContent response = some content) (source : String) :
    assistantContent (responseWithSource response source) =
      some (.str (fencedProgram source)) := by
  rw [assistantContent] at h
  split at h
  · rename_i choice others hchoices
    rw [Option.bind_eq_some_iff] at h
    obtain ⟨message, hmessage, hcontent⟩ := h
    have hassigned : assistantContent (responseWithSource response source) =
        ((withContent choice (fencedProgram source)).get? "message").bind (Json.get? "content") := by
      rw [responseWithSource]
      simp only [hchoices]
      rw [assistantContent, get?_assign hchoices]
    rw [hassigned, withContent, get?_assign hmessage, Option.bind_some, hmessage,
      Option.getD_some, get?_assign hcontent]
  · cases h

variable {tools : MutationTools Records Output} {structured : Bool} {messageText : String}
  {plan : MutationPlan} {coderResponse : Json} {selection : SelectedProgram}

theorem responseContent_ok_iff {response : Json} {text : String}
    (h : tools.responseContent response = .ok text) :
    ∃ content, assistantContent response = some content := by
  rw [MutationTools.responseContent] at h
  cases hcontent : assistantContent response with
  | none => rw [hcontent] at h; cases h
  | some content => exact ⟨content, rfl⟩

/-- A program of the controller's own: the scaffold, or the current program when there is none. -/
theorem selection_of_processChat
    (h : tools.processChat structured messageText plan coderResponse = .ok selection)
    (horigin : selection.origin = .deterministicScaffold ∨
      selection.origin = .currentProgramFallback) :
    (∃ content, assistantContent coderResponse = some content) ∧
      ∃ source, selection =
          tools.selected (responseWithSource coderResponse source) (some source)
            selection.origin ∧
        (tools.scaffold structured messageText plan = some source ∨
          (tools.scaffold structured messageText plan = none ∧
            extractCurrentProgram messageText = some source)) := by
  rw [MutationTools.processChat] at h
  rw [except_bind_ok_iff] at h
  obtain ⟨text, htext, h⟩ := h
  refine ⟨responseContent_ok_iff htext, ?_⟩
  -- the free branches serve the current program when there is no scaffold
  have hfree : tools.scaffold structured messageText plan = none →
      selection = tools.freeSelection coderResponse (extractCandidateSource text)
        (extractCurrentProgram messageText) → ∃ source, selection =
          tools.selected (responseWithSource coderResponse source) (some source)
            selection.origin ∧
        (tools.scaffold structured messageText plan = some source ∨
          (tools.scaffold structured messageText plan = none ∧
            extractCurrentProgram messageText = some source)) := by
    rintro hnone rfl
    cases hcoder : extractCandidateSource text with
    | some source =>
      rw [hcoder] at horigin
      rcases horigin with horigin | horigin <;> cases horigin
    | none =>
      cases hcurrent : extractCurrentProgram messageText with
      | some source => exact ⟨source, rfl, Or.inr ⟨hnone, rfl⟩⟩
      | none =>
        rw [hcoder, hcurrent] at horigin
        rcases horigin with horigin | horigin <;> cases horigin
  cases structured with
  | false =>
    have hnone : tools.scaffold false messageText plan = none := rfl
    simp only [Bool.not_false, if_true] at h
    exact hfree hnone (Except.ok.inj h).symm
  | true =>
    simp only [Bool.not_true, Bool.false_eq_true, if_false] at h
    split at h
    · obtain rfl := Except.ok.inj h
      rcases horigin with horigin | horigin <;> cases horigin
    · cases hscaffold : tools.scaffold true messageText plan with
      | some source =>
        simp only [hscaffold] at h
        obtain rfl := Except.ok.inj h
        exact ⟨source, rfl, Or.inl rfl⟩
      | none =>
        simp only [hscaffold] at h
        exact hscaffold ▸ hfree hscaffold (Except.ok.inj h).symm

theorem free_of_labelledBlock {chars block after : List Char}
    (h : labelledBlock chars = some (block, after)) : ¬fence <:+: block := by
  rw [labelledBlock, Option.bind_eq_bind, Option.bind_eq_some_iff] at h
  obtain ⟨opened, -, h⟩ := h
  dsimp only at h
  split at h
  · split at h
    · cases h
    · exact (untilFence_some h).2
  · cases h

theorem free_of_labelledBlocks {fuel : Nat} {chars block : List Char}
    (h : block ∈ labelledBlocks fuel chars) : ¬fence <:+: block := by
  induction fuel generalizing chars with
  | zero => cases h
  | succ fuel ih =>
    cases chars with
    | nil => cases h
    | cons c rest =>
      rw [labelledBlocks] at h
      split at h
      · rename_i found after hfound
        rcases List.mem_cons.mp h with rfl | hlater
        · exact free_of_labelledBlock hfound
        · exact ih hlater
      · exact ih h

theorem free_of_extractCurrentProgram {source : String}
    (h : extractCurrentProgram messageText = some source) :
    stripText source = source ∧ ¬fence <:+: stripped source.toList := by
  rw [extractCurrentProgram, Option.map_eq_some_iff] at h
  obtain ⟨block, hblock, rfl⟩ := h
  have hfree := free_of_labelledBlocks (List.mem_of_getLast? hblock)
  rw [stripText, String.toList_ofList, stripped_stripped]
  exact ⟨rfl, fun hfence => hfree (hfence.trans (infix_stripped block))⟩

theorem stripText_scaffold_ne {source : String}
    (h : tools.scaffold structured messageText plan = some source) : source ≠ stripText source := by
  rw [MutationTools.scaffold, Option.bind_eq_some_iff] at h
  obtain ⟨result, hresult, h⟩ := h
  split at h
  · rename_i hvalid
    obtain rfl := Option.some.inj h
    cases structured with
    | false => cases hresult
    | true =>
      rw [if_pos rfl, Option.map_eq_some_iff] at hresult
      obtain ⟨current, -, rfl⟩ := hresult
      rw [MutationTools.applyMutationPlan] at hvalid ⊢
      split
      · rename_i hstructured
        rw [if_pos hstructured] at hvalid
        split
        · rename_i changes unparsed hrewrite
          intro heq
          have hlast := (trimmed_stripped (stripText unparsed ++ "\n").toList).last '\n'
          rw [← toList_stripText, ← heq, String.toList_append] at hlast
          exact absurd (hlast (by rw [List.getLast?_append]; rfl)) (by decide)
        · rename_i raised hrewrite
          rw [hrewrite] at hvalid
          cases hvalid
      · rename_i hfree
        rw [if_neg hfree] at hvalid
        cases hvalid
  · cases h

/-- The engine reads the selected program, stripped, out of the response. -/
def ReadsBack (tools : MutationTools Records Output) (selection : SelectedProgram)
    (source : String) : Prop :=
  ∃ content, tools.responseContent selection.response = .ok content ∧
    extractCandidateSource content = some (stripText source)

/-- What the engine reads is the program whose digest is in the audit. -/
def ServesAudited (tools : MutationTools Records Output) (selection : SelectedProgram)
    (source : String) : Prop :=
  ReadsBack tools selection source ∧
    selection.sourceSha256 = some (sha256 (stripText source))

/-- Two texts that SHA-256 does not tell apart. -/
def Collision (first second : String) : Prop := first ≠ second ∧ sha256 first = sha256 second

theorem selected_readsBack_iff {response content : Json} {source : String} {origin : SelectedOrigin}
    (hcontent : assistantContent response = some content)
    (hne : stripText source ≠ "") :
    ReadsBack tools (tools.selected (responseWithSource response source) (some source) origin)
      source ↔ ¬fence <:+: stripped source.toList := by
  have htext : tools.responseContent (responseWithSource response source) =
      .ok (fencedProgram source) := by
    rw [MutationTools.responseContent, assistantContent_responseWithSource hcontent]
  have hstripped : stripped source.toList ≠ [] := by
    intro hnil
    refine hne ?_
    rw [stripText, hnil]
  rw [← extractCandidateSource_iff hstripped]
  constructor
  · rintro ⟨served, hserved, hextract⟩
    obtain rfl := Except.ok.inj (htext.symm.trans hserved)
    exact hextract
  · exact fun hextract => ⟨_, htext, hextract⟩

/-- A program of the controller's own is read back exactly when the scaffold, if there is
one, holds no fence; and it is the audited program exactly when moreover the digest of the
scaffold, which ends with a newline, is that of its stripped text. -/
theorem served_program_audited_iff {source : String}
    (h : tools.processChat structured messageText plan coderResponse = .ok selection)
    (horigin : selection.origin = .deterministicScaffold ∨
      selection.origin = .currentProgramFallback)
    (hsource : selection.source = some source) (hne : stripText source ≠ "") :
    (ReadsBack tools selection source ↔
        ∀ scaffold, tools.scaffold structured messageText plan = some scaffold →
          ¬fence <:+: stripped scaffold.toList) ∧
      (ServesAudited tools selection source ↔
        ∀ scaffold, tools.scaffold structured messageText plan = some scaffold →
          ¬fence <:+: stripped scaffold.toList ∧ Collision scaffold (stripText scaffold)) := by
  obtain ⟨⟨content, hcontent⟩, selected, hselection, hcases⟩ := selection_of_processChat h horigin
  have hdigest : selection.sourceSha256 = some (sha256 selected) := by
    rw [hselection]
    rfl
  have hsame : selected = source := by
    rw [hselection] at hsource
    exact Option.some.inj hsource
  subst hsame
  have hreads : ReadsBack tools selection selected ↔ ¬fence <:+: stripped selected.toList := by
    rw [hselection]
    exact selected_readsBack_iff hcontent hne
  rw [ServesAudited, hreads, hdigest, Option.some.injEq]
  rcases hcases with hscaffold | ⟨hnone, hcurrent⟩
  · rw [hscaffold]
    have hdiffer := stripText_scaffold_ne hscaffold
    constructor
    · exact ⟨fun hfree _ heq => Option.some.inj heq ▸ hfree, fun hfree => hfree _ rfl⟩
    · constructor
      · rintro ⟨hfree, hsha⟩ scaffold heq
        obtain rfl := Option.some.inj heq
        exact ⟨hfree, hdiffer, hsha⟩
      · intro hall
        obtain ⟨hfree, -, hsha⟩ := hall _ rfl
        exact ⟨hfree, hsha⟩
  · obtain ⟨hstrip, hfree⟩ := free_of_extractCurrentProgram hcurrent
    rw [hnone, hstrip]
    have hvacuous : ∀ (P : String → Prop) scaffold, (none : Option String) = some scaffold →
        P scaffold := by
      intro P scaffold heq
      cases heq
    exact ⟨⟨fun _ => hvacuous _, fun _ => hfree⟩, ⟨fun _ => hvacuous _, fun _ => ⟨hfree, rfl⟩⟩⟩

/-- The coder writes no program, so the scaffold is served. -/
theorem processChat_of_scaffold {text source : String}
    (hcontent : tools.responseContent coderResponse = .ok text)
    (hcoder : extractCandidateSource text = none)
    (hscaffold : tools.scaffold true messageText plan = some source) :
    tools.processChat true messageText plan coderResponse =
      .ok (tools.selected (responseWithSource coderResponse source) (some source)
        .deterministicScaffold) := by
  rw [MutationTools.processChat, hcontent]
  simp only [bind, Except.bind, hcoder, hscaffold, Option.any_none]
  rfl

/-- A program that spells three backticks as escapes. -/
def markedProgram : String :=
  "def solve(r):\n    m = '\\x60\\x60\\x60'\n    return r['status'] == 'paid'"

/-- The program behind the operator; `ast.unparse` writes the backticks out. -/
def markedScaffold : String :=
  "def solve(r):\n    m = '```'\n    return str(r['status']).strip().lower() == 'paid'"

/-- `ast.dump` of the scaffold, up to the operator's calls. -/
def markedDumpStart : String :=
  "Module(body=[FunctionDef(name='solve', args=arguments(posonlyargs=[], args=[arg(arg='r')], " ++
  "kwonlyargs=[], kw_defaults=[], defaults=[]), body=[Assign(targets=[Name(id='m', " ++
  "ctx=Store())], value=Constant(value='```')), Return(value=Compare(left=Call(func=Attribute(" ++
  "value=Call(func=Attribute(value=Call(func=Name(id='str', ctx=Load()), args=[Subscript(" ++
  "value=Name(id='r', ctx=Load()), slice=Constant("

def markedDump : String :=
  markedDumpStart ++ "value='status'" ++ "), ctx=Load())], keywords=[]), " ++ "attr='strip'" ++
    ", ctx=Load()), args=[], keywords=[]), " ++ "attr='lower'" ++
    (", ctx=Load()), args=[], keywords=[]), ops=[Eq()], comparators=[Constant(value='paid')]))], " ++
      "decorator_list=[], type_params=[])], type_ignores=[])")

def markedTools : MutationTools Unit Unit where
  sandbox :=
    { load := fun _ => none
      dump := fun source => if source = markedScaffold ++ "\n" then some markedDump else none
      transform := fun id source _ => ⟨id, source, false, false, none⟩ }
  rewrite := fun _ source =>
    if source = markedProgram then .ok (1, markedScaffold) else .error "SyntaxError"
  render := fun _ => ""

def markedPlan : MutationPlan := ⟨"canonicalize_before_predicate"⟩

def markedRequest : String := "Current program:\n```python\n" ++ markedProgram ++ "\n```"

/-- The coder writes no program. -/
def refusal : Json :=
  .obj [("choices", .arr [.obj [("message", .obj [("content", .str "I cannot do that.")])]])]

theorem extractCurrentProgram_marked :
    extractCurrentProgram markedRequest = some markedProgram := by decide

theorem postconditionSatisfied_marked :
    postconditionSatisfied markedTools.sandbox (markedScaffold ++ "\n") markedPlan = true := by
  have hdump : markedTools.sandbox.dump (markedScaffold ++ "\n") = some markedDump := by
    simp only [markedTools, if_true]
  have hstatus : contains markedDump "value='status'" = true :=
    contains_append_left (contains_append_left (contains_append_left (contains_append_left
      (contains_append_left (contains_append_right markedDumpStart _)))))
  have hstrip : contains markedDump "attr='strip'" = true :=
    contains_append_left (contains_append_left (contains_append_left
      (contains_append_right _ _)))
  have hlower : contains markedDump "attr='lower'" = true :=
    contains_append_left (contains_append_right _ _)
  rw [postconditionSatisfied, hdump]
  simp only [hstatus, hstrip, hlower]
  decide

theorem applyMutationPlan_marked :
    markedTools.applyMutationPlan markedProgram markedPlan =
      ⟨markedScaffold ++ "\n", true, "canonicalize_before_predicate", true, none⟩ := by
  have hstrip : stripText markedScaffold = markedScaffold := by decide
  have hchanged : stripText (markedScaffold ++ "\n") ≠ stripText markedProgram := by decide
  have hrewrite : markedTools.rewrite markedPlan markedProgram = .ok (1, markedScaffold) := by
    simp only [markedTools, if_true]
  rw [MutationTools.applyMutationPlan, if_pos (by decide)]
  simp only [hrewrite, hstrip, postconditionSatisfied_marked, decide_eq_true hchanged]
  rfl

theorem scaffold_marked :
    markedTools.scaffold true markedRequest markedPlan = some (markedScaffold ++ "\n") := by
  rw [MutationTools.scaffold, if_pos rfl, extractCurrentProgram_marked, Option.map_some,
    applyMutationPlan_marked]
  rfl

def markedSelection : SelectedProgram :=
  markedTools.selected (responseWithSource refusal (markedScaffold ++ "\n"))
    (some (markedScaffold ++ "\n")) .deterministicScaffold

theorem processChat_marked :
    markedTools.processChat true markedRequest markedPlan refusal = .ok markedSelection := by
  have hcontent : markedTools.responseContent refusal = .ok "I cannot do that." := by rfl
  have hcoder : extractCandidateSource "I cannot do that." = none := by decide
  exact processChat_of_scaffold hcontent hcoder scaffold_marked

/-- The engine reads the scaffold up to the backticks in it. -/
theorem scaffold_cut_off :
    ¬∀ (tools : MutationTools Unit Unit) (structured : Bool) (messageText : String)
      (plan : MutationPlan) (coderResponse : Json) (selection : SelectedProgram)
      (source : String),
      tools.processChat structured messageText plan coderResponse = .ok selection →
      selection.origin = .deterministicScaffold ∨
        selection.origin = .currentProgramFallback →
      selection.source = some source → stripText source ≠ "" →
      ServesAudited tools selection source := by
  intro hall
  obtain ⟨hreads, -⟩ := hall markedTools true markedRequest markedPlan refusal markedSelection
    (markedScaffold ++ "\n") processChat_marked (Or.inl rfl) rfl (by decide)
  have hcontent : assistantContent refusal = some (.str "I cannot do that.") := by rfl
  exact (selected_readsBack_iff hcontent (by decide)).mp hreads (by decide)

theorem served_program_audited_iff_marked :
    (ReadsBack markedTools markedSelection (markedScaffold ++ "\n") ↔
        ∀ scaffold, markedTools.scaffold true markedRequest markedPlan = some scaffold →
          ¬fence <:+: stripped scaffold.toList) ∧
      (ServesAudited markedTools markedSelection (markedScaffold ++ "\n") ↔
        ∀ scaffold, markedTools.scaffold true markedRequest markedPlan = some scaffold →
          ¬fence <:+: stripped scaffold.toList ∧ Collision scaffold (stripText scaffold)) :=
  served_program_audited_iff processChat_marked (Or.inl rfl) rfl (by decide)

end JlensEvolve.Epistasis
