import JlensEvolve.Autonomous.IndexChain

/-!
What `rows()` gives back once an append has returned. The row comes back on
every later read exactly when the row and every row written after it stay on
one line, and no later write is torn.
-/

namespace JlensEvolve.Autonomous

open Library

namespace HashChainIndex

variable {index : HashChainIndex} {call : Call} {file : IndexFile} {rows : List Row}

/-- None of the texts of the row breaks a line. -/
def Call.plain (index : HashChainIndex) (call : Call) : Bool :=
  lineFree index.indexId && lineFree call.eventId && (Json.obj call.payload).leavesOnOneLine

/-- Where the call comes to a write: the write is not torn, and a row that
reaches the file is plain. -/
def Call.WritesReadably (index : HashChainIndex) (file : IndexFile) (call : Call) : Prop :=
  ∀ rows, call.Grows index file rows →
    call.outcome ≠ .torn ∧ (call.outcome ≠ .refused → call.plain index = true)

/-- `rows()` returns these rows and perhaps more. -/
def ReadsFrom (index : HashChainIndex) (rows : List Row) (file : IndexFile) : Prop :=
  ∃ read, index.rows file = .ok read ∧ rows <+: read

/-- With the line of one more row the file is read, and then with that row, if
the row is plain. -/
theorem rows_withRow_iff (h : call.Grows index file rows) {read : List Row} :
    index.rows (withRow file (call.row index rows)) = .ok read ↔
      call.plain index = true ∧ read = rows ++ [call.row index rows] := by
  obtain ⟨hterminated, hlines, hchained⟩ := rows_ok_iff.mp h.read
  have hplain : (Json.obj (call.row index rows)).leavesOnOneLine = call.plain index :=
    leavesOnOneLine_stored hchained _ _
  have hlonger : (withRow file (call.row index rows)).lines =
      rows.map (fun row => some (.obj row)) ++ AppendLog.written (.obj (call.row index rows)) := by
    rw [← hlines]
    rfl
  rw [rows_ok_iff, hlonger, AppendLog.written_eq, hplain]
  cases hcase : call.plain index with
  | true =>
    have hread : rows.map (fun row => some (Json.obj row)) ++
        [some (.obj (call.row index rows))] =
          (rows ++ [call.row index rows]).map fun row => some (.obj row) := by
      simp
    constructor
    · rintro ⟨-, hsame, -⟩
      rw [if_pos rfl, hread] at hsame
      have hinjective : Function.Injective fun row : Row => some (Json.obj row) := by
        intro first second heq
        exact Json.obj.inj (Option.some.inj heq)
      exact ⟨rfl, (hinjective.list_map hsame).symm⟩
    · rintro ⟨-, rfl⟩
      exact ⟨hterminated, by rw [if_pos rfl, hread], chained_row h⟩
  | false =>
    constructor
    · rintro ⟨-, hsame, -⟩
      have hnone : none ∈ read.map fun row => some (Json.obj row) := by
        rw [← hsame]
        simp
      simp at hnone
    · rintro ⟨hplainRow, -⟩
      cases hplainRow

theorem rows_unterminated (file : IndexFile) (read : List Row) :
    index.rows { file with terminated := false } ≠ .ok read := by
  intro h
  cases (rows_ok_iff.mp h).1

theorem readsFrom_afterCall_iff (h : ReadsFrom index rows file) :
    ReadsFrom index rows (afterCall index file call) ↔ call.WritesReadably index file := by
  obtain ⟨read, hread, hextends⟩ := h
  by_cases hgrows : ∃ rows, call.Grows index file rows
  · obtain ⟨found, hgrows⟩ := hgrows
    obtain rfl : read = found := Except.ok.inj (hread.symm.trans hgrows.read)
    have hlonger : ReadsFrom index rows (withRow file (call.row index read)) ↔
        call.plain index = true := by
      constructor
      · rintro ⟨other, hother, -⟩
        exact ((rows_withRow_iff hgrows).mp hother).1
      · intro hplain
        exact ⟨_, (rows_withRow_iff hgrows).mpr ⟨hplain, rfl⟩,
          hextends.trans (List.prefix_append _ _)⟩
    have hwrites : call.WritesReadably index file ↔
        call.outcome ≠ .torn ∧ (call.outcome ≠ .refused → call.plain index = true) :=
      ⟨fun hall => hall read hgrows, fun hone _ _ => hone⟩
    rw [hwrites]
    unfold afterCall
    rw [run_of_grows hgrows]
    cases call.outcome with
    | whole => simpa using hlonger
    | unsynced => simpa using hlonger
    | torn =>
      constructor
      · rintro ⟨other, hother, -⟩
        exact absurd hother (rows_unterminated file other)
      · exact fun hne => absurd rfl hne.1
    | refused => simpa using ⟨read, hread, hextends⟩
  · rw [(run_of_not_grows (not_exists.mp hgrows)).1]
    have hreads : ReadsFrom index rows file := ⟨read, hread, hextends⟩
    exact iff_of_true hreads fun other hother => absurd ⟨other, hother⟩ hgrows

/-- The earlier rows, and behind them the row of the call unless it is among
them, with the payload of the call, are what every later read begins with,
whatever calls come in between. -/
def ReadsBack (index : HashChainIndex) (file : IndexFile) (call : Call) (written : Bool)
    (after : IndexFile) (later : List Call) : Prop :=
  ∃ earlier row, index.rows file = .ok earlier ∧ eventId row = call.eventId ∧
    HasPayload row call.payload ∧
    if written then Along (ReadsFrom index (earlier ++ [row])) (afterCall index) after later
    else row ∈ earlier ∧ Along (ReadsFrom index earlier) (afterCall index) after later

theorem along_readsFrom_iff {rows : List Row} (h : ReadsFrom index rows file)
    (later : List Call) : Along (ReadsFrom index rows) (afterCall index) file later ↔
      Guarded (fun file call => call.WritesReadably index file) (afterCall index) file later := by
  have hkeeps : ∀ file call, ReadsFrom index rows file → call.WritesReadably index file →
      ReadsFrom index rows (afterCall index file call) :=
    fun _ _ hreads hguard => (readsFrom_afterCall_iff hreads).mpr hguard
  have hneeds : ∀ file call, ReadsFrom index rows file →
      ReadsFrom index rows (afterCall index file call) → call.WritesReadably index file :=
    fun _ _ hreads hnext => (readsFrom_afterCall_iff hreads).mp hnext
  exact along_iff_guarded (fun _ hreads => hreads) hkeeps hneeds file later h

/-- Once an append has returned, `rows()` gives back the earlier rows and its
row on every later read, exactly when a row it has written is plain and every
later call writes readably. -/
theorem index_readsBack_iff (index : HashChainIndex) (file : IndexFile) (call : Call) (written : Bool)
    (after : IndexFile) (later : List Call)
    (h : (call.apply index).run file = .ok written after) :
    ReadsBack index file call written after later ↔
      (written = true → call.plain index = true) ∧
        Guarded (fun file call => call.WritesReadably index file) (afterCall index) after
          later := by
  by_cases hgrows : ∃ rows, call.Grows index file rows
  · obtain ⟨rows, hgrows⟩ := hgrows
    obtain ⟨rfl, rfl⟩ : written = true ∧ after = withRow file (call.row index rows) := by
      rw [run_of_grows hgrows] at h
      cases houtcome : call.outcome <;> rw [houtcome] at h <;> cases h
      exact ⟨rfl, rfl⟩
    constructor
    · rintro ⟨earlier, row, hearlier, -, -, halong⟩
      rw [if_pos rfl] at halong
      obtain rfl : earlier = rows := Except.ok.inj (hearlier.symm.trans hgrows.read)
      have hreads := halong.start
      obtain ⟨read, hread, -⟩ := hreads
      exact ⟨fun _ => ((rows_withRow_iff hgrows).mp hread).1,
        (along_readsFrom_iff halong.start later).mp halong⟩
    · rintro ⟨hplain, hguarded⟩
      have hread := (rows_withRow_iff hgrows).mpr ⟨hplain rfl, rfl⟩
      refine ⟨rows, call.row index rows, hgrows.read, eventId_stored _ _ _,
        hasPayload_stored _ _ _, ?_⟩
      rw [if_pos rfl]
      exact (along_readsFrom_iff ⟨_, hread, List.prefix_rfl⟩ later).mpr hguarded
  · obtain ⟨hafter, hreturned⟩ := run_of_not_grows (not_exists.mp hgrows)
    obtain ⟨rfl, rows, prior, hread, hprior, hid, hpayload⟩ := hreturned written after h
    obtain rfl : after = file := by
      rw [afterCall, h] at hafter
      exact hafter
    constructor
    · rintro ⟨earlier, row, hearlier, -, -, halong⟩
      rw [if_neg (by decide)] at halong
      refine ⟨fun hwritten => absurd hwritten (by decide), ?_⟩
      exact (along_readsFrom_iff halong.2.start later).mp halong.2
    · rintro ⟨-, hguarded⟩
      refine ⟨rows, prior, hread, hid, hpayload, ?_⟩
      rw [if_neg (by decide)]
      exact ⟨hprior, (along_readsFrom_iff ⟨rows, hread, List.prefix_rfl⟩ later).mpr hguarded⟩

theorem run_missing (eventId : String) (payload : Row) (h : eventId ≠ "") :
    (Call.apply ⟨"i"⟩ ⟨eventId, payload, .whole⟩).run IndexFile.missing =
      .ok true (withRow IndexFile.missing
        ((⟨"i"⟩ : HashChainIndex).stored [] eventId payload)) := by
  have hgrows : Call.Grows ⟨"i"⟩ ⟨eventId, payload, .whole⟩ IndexFile.missing [] :=
    ⟨h, rfl, rfl, List.not_mem_nil⟩
  rw [run_of_grows hgrows]
  rfl

theorem index_readsBack_round :
    ReadsBack ⟨"i"⟩ IndexFile.missing ⟨"round-1", [("task", .str "t")], .whole⟩ true
      (withRow IndexFile.missing
        ((⟨"i"⟩ : HashChainIndex).stored [] "round-1" [("task", .str "t")])) [] :=
  (index_readsBack_iff ⟨"i"⟩ IndexFile.missing ⟨"round-1", [("task", .str "t")], .whole⟩ true _ []
    (run_missing "round-1" _ (by decide))).mpr ⟨fun _ => by decide, trivial⟩

/-- An instruction with U+2028 in it is appended, and the index is unreadable
from then on. -/
theorem separator_unreadable :
    (Call.apply ⟨"i"⟩ ⟨"round-1", [("instruction", .str "a\u2028b")], .whole⟩).run
        IndexFile.missing =
        .ok true (withRow IndexFile.missing
          ((⟨"i"⟩ : HashChainIndex).stored [] "round-1" [("instruction", .str "a\u2028b")])) ∧
      ∀ rows, (⟨"i"⟩ : HashChainIndex).rows (withRow IndexFile.missing
        ((⟨"i"⟩ : HashChainIndex).stored [] "round-1" [("instruction", .str "a\u2028b")])) ≠
          .ok rows := by
  refine ⟨run_missing "round-1" _ (by decide), ?_⟩
  intro rows hrows
  have hgrows : Call.Grows ⟨"i"⟩ ⟨"round-1", [("instruction", .str "a\u2028b")], .whole⟩
      IndexFile.missing [] := ⟨show "round-1" ≠ "" by decide, rfl, rfl, List.not_mem_nil⟩
  have hplain := ((rows_withRow_iff hgrows).mp hrows).1
  revert hplain
  decide

end HashChainIndex

end JlensEvolve.Autonomous
