import JlensEvolve.Autonomous.HashChainIndex
import JlensEvolve.Library.Transition

/-!
The rows an index reads form one chain, whatever the file holds; and what a
sequence of appends leaves in the file is such a chain.
-/

namespace JlensEvolve.Autonomous

open Library

namespace HashChainIndex

variable {index : HashChainIndex}

/-- Every row follows the rows before it, under an event id of its own. -/
def Chained (index : HashChainIndex) (rows : List Row) : Prop :=
  ∀ before row after, rows = before ++ row :: after → index.Follows before row ∧ Fresh before row

theorem chained_nil : index.Chained [] := by
  intro before row after h
  simp at h

theorem chained_concat {rows : List Row} {row : Row} :
    index.Chained (rows ++ [row]) ↔
      index.Chained rows ∧ index.Follows rows row ∧ Fresh rows row := by
  constructor
  · intro h
    constructor
    · rintro before first after rfl
      apply h before first (after ++ [row])
      simp
    · exact h rows row [] rfl
  · rintro ⟨hrows, hrow⟩ before first after heq
    rcases List.eq_nil_or_concat after with rfl | ⟨rest, last, rfl⟩
    · obtain ⟨rfl, hlast⟩ := List.append_inj' heq rfl
      obtain rfl : row = first := List.singleton_inj.mp hlast
      exact hrow
    · rw [List.concat_eq_append, ← List.cons_append, ← List.append_assoc] at heq
      exact hrows before first rest (List.append_inj' heq rfl).1

theorem readRows_concat (lines : List (Option Json)) (line : Option Json) :
    index.readRows (lines ++ [line]) = (do
      let rows ← index.readRows lines
      let row ← index.readRow rows line
      pure (rows ++ [row])) := by
  rw [readRows, List.foldlM_append]
  simp [readRows]

theorem readRow_ok_iff {rows : List Row} {line : Option Json} {row : Row} :
    index.readRow rows line = .ok row ↔
      line = some (.obj row) ∧ index.Follows rows row ∧ Fresh rows row := by
  unfold readRow
  split
  next => simp
  next found =>
    simp only [except_bind_ok_iff, require_ok_iff, exists_const]
    constructor
    · rintro ⟨hfollows, hfresh, hrow⟩
      cases hrow
      exact ⟨rfl, hfollows, hfresh⟩
    · rintro ⟨hline, hfollows, hfresh⟩
      cases hline
      exact ⟨hfollows, hfresh, rfl⟩
  next value hvalue =>
    constructor
    · intro h
      cases h
    · rintro ⟨hline, -⟩
      cases hline
      exact absurd rfl (hvalue row)

theorem readRows_ok_iff {lines : List (Option Json)} {rows : List Row} :
    index.readRows lines = .ok rows ↔
      lines = rows.map (fun row => some (.obj row)) ∧ index.Chained rows := by
  induction lines using List.reverseRecOn generalizing rows with
  | nil =>
    constructor
    · intro h
      cases h
      exact ⟨rfl, chained_nil⟩
    · rintro ⟨hlines, -⟩
      rw [List.map_eq_nil_iff.mp hlines.symm]
      rfl
  | append_singleton lines line ih =>
    simp only [readRows_concat, except_bind_ok_iff, ih, readRow_ok_iff]
    constructor
    · rintro ⟨before, ⟨rfl, hbefore⟩, row, ⟨rfl, hrow⟩, hrows⟩
      cases hrows
      exact ⟨by simp, chained_concat.mpr ⟨hbefore, hrow⟩⟩
    · rintro ⟨hlines, hchained⟩
      rcases List.eq_nil_or_concat rows with rfl | ⟨before, row, rfl⟩
      · simp at hlines
      · rw [List.concat_eq_append] at hlines hchained ⊢
        rw [List.map_append, List.map_singleton] at hlines
        obtain ⟨rfl, hline⟩ := List.append_inj' hlines rfl
        obtain ⟨hbefore, hrow⟩ := chained_concat.mp hchained
        exact ⟨before, ⟨rfl, hbefore⟩, row, ⟨List.singleton_inj.mp hline, hrow⟩, rfl⟩

theorem rows_ok_iff {file : IndexFile} {rows : List Row} :
    index.rows file = .ok rows ↔ file.terminated = true ∧
      file.lines = rows.map (fun row => some (.obj row)) ∧ index.Chained rows := by
  simp only [HashChainIndex.rows, except_bind_ok_iff, require_ok_iff, exists_const,
    readRows_ok_iff]

theorem eventOf_event_concat (rows : List Row) (id sha256 : String) (payload : Row) :
    eventOf (index.event rows id payload ++ [("event_sha256", .str sha256)]) =
      index.event rows id payload := by
  simp [eventOf, event]

theorem eventOf_stored (rows : List Row) (id : String) (payload : Row) :
    eventOf (index.stored rows id payload) = index.event rows id payload :=
  eventOf_event_concat rows id _ payload

theorem field?_stored (rows : List Row) (id : String) (payload : Row) {name : String}
    (h : name ≠ "event_sha256") : Json.field? (index.stored rows id payload) name =
      Json.field? (index.event rows id payload) name :=
  Json.field?_concat_of_ne _ h _

@[simp] theorem eventId_stored (rows : List Row) (id : String) (payload : Row) :
    eventId (index.stored rows id payload) = id := by
  rw [eventId, textField, field?_stored _ _ _ (by decide)]
  rfl

theorem follows_stored (rows : List Row) (id : String) (payload : Row) :
    index.Follows rows (index.stored rows id payload) where
  indexId := by
    rw [eventOf_stored]
    rfl
  sequence := by
    rw [eventOf_stored]
    exact Json.pyEq_self _
  previous := by
    rw [eventOf_stored]
    rfl
  eventSha256 := by
    rw [eventOf_stored]
    rfl

theorem fresh_stored_iff (rows : List Row) (id : String) (payload : Row) :
    Fresh rows (index.stored rows id payload) ↔ id ≠ "" ∧ id ∉ rows.map eventId := by
  have hid : Json.field? (index.event rows id payload) "event_id" = some (.str id) := rfl
  rw [Fresh, eventOf_stored, hid]
  constructor
  · rintro ⟨other, hother, hfresh⟩
    cases hother
    exact hfresh
  · exact fun hfresh => ⟨id, rfl, hfresh⟩

theorem hasPayload_stored (rows : List Row) (id : String) (payload : Row) :
    HasPayload (index.stored rows id payload) payload := by
  rw [HasPayload, field?_stored _ _ _ (by decide)]
  exact Json.pyEq_self _

theorem previousSha256_isSha256 {rows : List Row} (h : index.Chained rows) :
    Sha256.isSha256 (previousSha256 rows) = true := by
  rcases List.eq_nil_or_concat rows with rfl | ⟨before, row, rfl⟩
  · decide
  · rw [List.concat_eq_append] at h ⊢
    have hfield := (chained_concat.mp h).2.1.eventSha256
    rw [previousSha256, List.getLast?_concat, Option.map_some, Option.getD_some, eventSha256,
      textField, hfield]
    exact Json.contentSha256_isSha256 _

theorem fieldsOnOneLine_event (indexId previous id sha256 : String) (sequence : Int)
    (payload : Row) (hprevious : Sha256.isSha256 previous = true)
    (hsha256 : Sha256.isSha256 sha256 = true) :
    Json.fieldsOnOneLine [("index_id", .str indexId), ("sequence", .int sequence),
        ("previous_event_sha256", .str previous), ("event_id", .str id),
        ("payload", .obj payload), ("event_sha256", .str sha256)] =
      (lineFree indexId && lineFree id && (Json.obj payload).leavesOnOneLine) := by
  have hnames : ∀ name ∈ ["index_id", "sequence", "previous_event_sha256", "event_id", "payload",
      "event_sha256"], onOneLine (Json.quote name) = true := by
    decide
  simp only [List.forall_mem_cons, List.not_mem_nil, false_imp_iff, implies_true, and_true]
    at hnames
  obtain ⟨h1, h2, h3, h4, h5, h6⟩ := hnames
  have hnumber : onOneLine (toString sequence) = true := onOneLine_intRepr sequence
  simp only [Json.fieldsOnOneLine, Json.leavesOnOneLine, h1, h2, h3, h4, h5, h6, hnumber,
    Json.onOneLine_quote_eq_lineFree, Json.lineFree_sha256 hprevious,
    Json.lineFree_sha256 hsha256, Bool.true_and, Bool.and_true, Bool.and_assoc]

theorem leavesOnOneLine_stored {rows : List Row} (h : index.Chained rows) (id : String)
    (payload : Row) : (Json.obj (index.stored rows id payload)).leavesOnOneLine =
      (lineFree index.indexId && lineFree id && (Json.obj payload).leavesOnOneLine) :=
  fieldsOnOneLine_event index.indexId (previousSha256 rows) id _ rows.length payload
    (previousSha256_isSha256 h) (Json.contentSha256_isSha256 _)

namespace Call

variable {call : Call} {file : IndexFile} {rows : List Row}

/-- The call comes to the write of a row behind these. -/
structure Grows (index : HashChainIndex) (call : Call) (file : IndexFile) (rows : List Row) :
    Prop where
  named : call.eventId ≠ ""
  free : file.lease = false
  read : index.rows file = .ok rows
  new : call.eventId ∉ rows.map Autonomous.eventId

/-- The row the call writes behind these. -/
def row (index : HashChainIndex) (call : Call) (rows : List Row) : Row :=
  index.stored rows call.eventId call.payload

end Call

/-- The file with the line of one more row. -/
def withRow (file : IndexFile) (row : Row) : IndexFile :=
  { file with lines := file.lines ++ AppendLog.written (.obj row) }

section Calls

variable {call : Call} {file : IndexFile} {rows : List Row}

theorem run_underWriter {α : Type} (body : EStateM String IndexFile α)
    (hfree : file.lease = false) : (underWriter body).run file =
      match body.run { file with lease := true } with
      | .ok a after => .ok a { after with lease := false }
      | .error e after => .error e { after with lease := false } := by
  obtain ⟨lines, terminated, lease⟩ := file
  obtain rfl : lease = false := hfree
  simp only [underWriter, EStateM.run_bind, EStateM.run_get, run_raiseIf_false,
    EStateM.run_modify, run_withCleanup]
  cases body.run ⟨lines, terminated, true⟩ <;> rfl

theorem find?_eq_none_of_new {id : String} (h : id ∉ rows.map eventId) :
    rows.find? (fun row => eventId row = id) = none := by
  rw [List.find?_eq_none]
  intro row hrow hid
  exact h (List.mem_map.mpr ⟨row, hrow, by simpa using hid⟩)

theorem run_of_grows (h : call.Grows index file rows) : (call.apply index).run file =
    match call.outcome with
    | .whole => .ok true (withRow file (call.row index rows))
    | .unsynced => .error "fsync failed" (withRow file (call.row index rows))
    | .torn => .error "partial autonomous index append" { file with terminated := false }
    | .refused => .error "autonomous index was not written" file := by
  obtain ⟨lines, terminated, lease⟩ := file
  obtain rfl : lease = false := h.free
  have hread : index.rows ⟨lines, terminated, true⟩ = .ok rows := h.read
  have hnamed : decide (call.eventId = "") = false := decide_eq_false h.named
  simp only [Call.apply, append, EStateM.run_bind, hnamed, run_raiseIf_false]
  rw [run_underWriter _ rfl]
  simp only [EStateM.run_bind, EStateM.run_get, hread, run_check_ok, find?_eq_none_of_new h.new]
  cases call.outcome <;> rfl

/-- A call that comes to no write leaves the file as it is; it returns only to
say that a row with its payload is there. -/
theorem run_of_not_grows (h : ∀ rows, ¬ call.Grows index file rows) :
    afterCall index file call = file ∧
      ∀ written after, (call.apply index).run file = .ok written after →
        written = false ∧ ∃ rows prior, index.rows file = .ok rows ∧ prior ∈ rows ∧
          eventId prior = call.eventId ∧ HasPayload prior call.payload := by
  unfold afterCall
  by_cases hnamed : call.eventId = ""
  · have hrun : (call.apply index).run file =
        .error "autonomous index event_id is empty" file := by
      simp [Call.apply, append, EStateM.run_bind, hnamed]
    rw [hrun]
    exact ⟨rfl, nofun⟩
  · obtain ⟨lines, terminated, lease⟩ := file
    have hpass : decide (call.eventId = "") = false := decide_eq_false hnamed
    simp only [Call.apply, append, EStateM.run_bind, hpass, run_raiseIf_false]
    cases lease with
    | true => exact ⟨rfl, nofun⟩
    | false =>
      rw [run_underWriter _ rfl]
      have hsame : index.rows ⟨lines, terminated, true⟩ = index.rows ⟨lines, terminated, false⟩ :=
        rfl
      simp only [EStateM.run_bind, EStateM.run_get, hsame]
      cases hread : index.rows ⟨lines, terminated, false⟩ with
      | error e => exact ⟨rfl, nofun⟩
      | ok rows =>
        simp only [run_check_ok]
        cases hprior : rows.find? (fun row => eventId row = call.eventId) with
        | none =>
          have hnew : call.eventId ∉ rows.map eventId := by
            intro hmem
            obtain ⟨row, hrow, hid⟩ := List.mem_map.mp hmem
            simpa [hid] using List.find?_eq_none.mp hprior row hrow
          exact absurd ⟨hnamed, rfl, hread, hnew⟩ (h rows)
        | some prior =>
          have hmem := List.mem_of_find?_eq_some hprior
          have hid : eventId prior = call.eventId := by
            simpa using List.find?_some hprior
          by_cases hpayload : HasPayload prior call.payload
          · simp only [EStateM.run_bind, require, hpayload, if_true, run_check_ok]
            refine ⟨rfl, ?_⟩
            rintro written after ⟨⟩
            exact ⟨rfl, rows, prior, rfl, hmem, hid, hpayload⟩
          · simp only [EStateM.run_bind, require, hpayload, if_false, run_check_error]
            exact ⟨rfl, nofun⟩

end Calls

/-- What the lines of a chain look like to a reader. -/
def linesOf (chain : List Row) : List (Option Json) :=
  chain.flatMap fun row => AppendLog.written (.obj row)

theorem linesOf_concat (chain : List Row) (row : Row) :
    linesOf (chain ++ [row]) = linesOf chain ++ AppendLog.written (.obj row) := by
  simp [linesOf]

theorem written_cases (row : Row) :
    AppendLog.written (.obj row) = [some (.obj row)] ∨ AppendLog.written (.obj row) = [none] := by
  unfold AppendLog.written
  split
  · exact Or.inr rfl
  · exact Or.inl rfl

theorem eq_of_linesOf {chain rows : List Row}
    (h : linesOf chain = rows.map fun row => some (.obj row)) : chain = rows := by
  induction chain generalizing rows with
  | nil => exact (List.map_eq_nil_iff.mp h.symm).symm
  | cons row chain ih =>
    rw [linesOf, List.flatMap_cons] at h
    rcases written_cases row with hwritten | hwritten
    · rw [hwritten] at h
      cases rows with
      | nil => cases h
      | cons other rows =>
        obtain ⟨hrow, hrest⟩ := List.cons.inj h
        cases hrow
        rw [ih hrest]
    · rw [hwritten] at h
      cases rows with
      | nil => cases h
      | cons other rows => cases (List.cons.inj h).1

/-- The rows that were written to the file form this chain. -/
structure Records (index : HashChainIndex) (file : IndexFile) (chain : List Row) : Prop where
  lines : file.lines = linesOf chain
  chained : index.Chained chain
  free : file.lease = false

theorem Records.eq_rows {file : IndexFile} {chain rows : List Row}
    (h : index.Records file chain) (hrows : index.rows file = .ok rows) : chain = rows := by
  obtain ⟨-, hlines, -⟩ := rows_ok_iff.mp hrows
  exact eq_of_linesOf (h.lines.symm.trans hlines)

theorem chained_row {call : Call} {file : IndexFile} {rows : List Row}
    (h : call.Grows index file rows) : index.Chained (rows ++ [call.row index rows]) :=
  chained_concat.mpr ⟨(rows_ok_iff.mp h.read).2.2, follows_stored _ _ _,
    (fresh_stored_iff _ _ _).mpr ⟨h.named, h.new⟩⟩

theorem Records.afterCall {file : IndexFile} {chain : List Row} (h : index.Records file chain)
    (call : Call) : index.Records (afterCall index file call) chain ∨
      index.Records (afterCall index file call) (chain ++ [call.row index chain]) := by
  by_cases hgrows : ∃ rows, call.Grows index file rows
  · obtain ⟨rows, hgrows⟩ := hgrows
    obtain rfl := h.eq_rows hgrows.read
    have hlonger : index.Records (withRow file (call.row index chain))
        (chain ++ [call.row index chain]) := by
      refine ⟨?_, chained_row hgrows, h.free⟩
      rw [linesOf_concat, ← h.lines]
      rfl
    unfold HashChainIndex.afterCall
    rw [run_of_grows hgrows]
    cases call.outcome with
    | whole => exact Or.inr hlonger
    | unsynced => exact Or.inr hlonger
    | torn => exact Or.inl ⟨h.lines, h.chained, h.free⟩
    | refused => exact Or.inl h
  · rw [(run_of_not_grows (not_exists.mp hgrows)).1]
    exact Or.inl h

/-- The file after calls of `append`, from a missing one. -/
def afterCalls (index : HashChainIndex) (calls : List Call) : IndexFile :=
  run (afterCall index) IndexFile.missing calls

/-- The same stored row, up to the order of its keys. -/
structure Same (first second : Row) : Prop where
  event : (Json.obj (eventOf first)).sorted = (Json.obj (eventOf second)).sorted
  eventSha256 : Autonomous.eventSha256 first = Autonomous.eventSha256 second

/-- No two of the hashed events collide. -/
def CollisionFree (first second : List Row) : Prop :=
  ∀ x ∈ first, ∀ y ∈ second,
    (Json.obj (eventOf x)).contentSha256 = (Json.obj (eventOf y)).contentSha256 →
      (Json.obj (eventOf x)).sorted = (Json.obj (eventOf y)).sorted

/-- The sequence of the row is this number. -/
def Placed (row : Row) (n : ℕ) : Prop :=
  (Json.field? (eventOf row) "sequence").any
    (fun sequence => Json.pyEq sequence (.int n)) = true

def previousOf (row : Row) : String := textField "previous_event_sha256" (eventOf row)

theorem Chained.linked {rows : List Row} (h : index.Chained rows) :
    Linked Autonomous.eventSha256 previousOf Placed rows where
  placed := by
    intro before row after heq
    exact (h before row after heq).1.sequence
  linked := by
    intro before first second after heq
    have hsecond := (h (before ++ [first]) second after (by rw [heq]; simp)).1.previous
    rw [previousOf, textField, hsecond, previousSha256]
    simp

theorem Same.previous {first second : Row} (h : Same first second) :
    previousOf first = previousOf second := by
  have hsame := Json.field?_map_sorted_eq h.event "previous_event_sha256"
  unfold previousOf textField
  cases hfirst : Json.field? (eventOf first) "previous_event_sha256" <;>
    cases hsecond : Json.field? (eventOf second) "previous_event_sha256" <;>
    rw [hfirst, hsecond] at hsame
  · cases hsame
  · cases hsame
  · next value other =>
    rw [Option.map_some, Option.map_some, Option.some.injEq] at hsame
    cases value <;> cases other <;> simp_all [Json.sorted]

theorem comparable_of_sorted_eq {value other : Json} {q r : ℚ} (h : value.sorted = other.sorted)
    (hvalue : value.comparable = .float q) (hother : other.comparable = .float r) : q = r := by
  cases value <;> cases other <;> simp_all [Json.comparable, Json.sorted]

theorem Same.placed {first second : Row} {m n : ℕ} (h : Same first second)
    (hm : Placed first m) (hn : Placed second n) : m = n := by
  obtain ⟨value, hvalue, hfirst⟩ := Option.any_eq_true _ _ |>.mp hm
  obtain ⟨other, hother, hsecond⟩ := Option.any_eq_true _ _ |>.mp hn
  have hsame := Json.field?_map_sorted_eq h.event "sequence"
  rw [hvalue, hother, Option.map_some, Option.map_some, Option.some.injEq] at hsame
  have hequal := comparable_of_sorted_eq hsame (of_decide_eq_true hfirst)
    (of_decide_eq_true hsecond)
  exact_mod_cast hequal

theorem Chained.of_append {before after : List Row} (h : index.Chained (before ++ after)) :
    index.Chained before := by
  rintro first row rest rfl
  apply h first row (rest ++ after)
  simp

section Known

variable {call : Call} {file : IndexFile} {rows : List Row} {prior : Row}

end Known

end HashChainIndex

end JlensEvolve.Autonomous
