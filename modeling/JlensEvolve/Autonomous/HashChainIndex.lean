import JlensEvolve.Library.AppendLog

/-!
`HashChainIndex` of `autonomous/state.py`. A file that is not UTF-8 is a line
that does not decode here; an operating-system error at any place but the write
of the row is a raise that leaves the rows as they were.
-/

namespace JlensEvolve.Autonomous

open Library

/-- A stored row: the fields of the object its line decodes to. -/
abbrev Row := List (String × Json)

structure IndexFile where
  lines : List (Option Json)
  /-- The file is empty or missing, or ends with a newline. -/
  terminated : Bool
  /-- The lease file of a writer exists. -/
  lease : Bool

def IndexFile.missing : IndexFile := ⟨[], true, false⟩

structure HashChainIndex where
  indexId : String

def genesis : String := "0000000000000000000000000000000000000000000000000000000000000000"

/-- The row without its digest. -/
def eventOf (row : Row) : Row := row.filter (·.1 ≠ "event_sha256")

def textField (name : String) (row : Row) : String :=
  match Json.field? row name with
  | some (.str text) => text
  | _ => ""

def eventSha256 (row : Row) : String := textField "event_sha256" row

def eventId (row : Row) : String := textField "event_id" row

/-- `rows[-1]["event_sha256"] if rows else _GENESIS`. -/
def previousSha256 (rows : List Row) : String := (rows.getLast?.map eventSha256).getD genesis

namespace HashChainIndex

variable (index : HashChainIndex)

/-- The row is the next one of these. -/
structure Follows (rows : List Row) (row : Row) : Prop where
  indexId : Json.field? (eventOf row) "index_id" = some (.str index.indexId)
  sequence : (Json.field? (eventOf row) "sequence").any
    (fun sequence => Json.pyEq sequence (.int rows.length)) = true
  previous : Json.field? (eventOf row) "previous_event_sha256" = some (.str (previousSha256 rows))
  eventSha256 : Json.field? row "event_sha256" = some (.str (Json.obj (eventOf row)).contentSha256)

instance (rows : List Row) (row : Row) : Decidable (index.Follows rows row) :=
  decidable_of_iff
    (Json.field? (eventOf row) "index_id" = some (.str index.indexId) ∧
      (Json.field? (eventOf row) "sequence").any
        (fun sequence => Json.pyEq sequence (.int rows.length)) = true ∧
      Json.field? (eventOf row) "previous_event_sha256" = some (.str (previousSha256 rows)) ∧
      Json.field? row "event_sha256" = some (.str (Json.obj (eventOf row)).contentSha256))
    ⟨fun ⟨hindex, hsequence, hprevious, hsha256⟩ => ⟨hindex, hsequence, hprevious, hsha256⟩,
      fun h => ⟨h.indexId, h.sequence, h.previous, h.eventSha256⟩⟩

/-- The row has an event id that none of the rows has. -/
def Fresh (rows : List Row) (row : Row) : Prop :=
  ∃ id, Json.field? (eventOf row) "event_id" = some (.str id) ∧ id ≠ "" ∧
    id ∉ rows.map Autonomous.eventId

instance (rows : List Row) (row : Row) : Decidable (Fresh rows row) :=
  match h : Json.field? (eventOf row) "event_id" with
  | some (.str id) =>
    decidable_of_iff (id ≠ "" ∧ id ∉ rows.map Autonomous.eventId) <| by
      unfold Fresh
      rw [h]
      constructor
      · exact fun hid => ⟨id, rfl, hid⟩
      · rintro ⟨other, hother, hid⟩
        cases hother
        exact hid
  | none | some .null | some (.bool _) | some (.int _) | some (.float _) | some (.arr _)
  | some (.obj _) =>
    isFalse <| by
      rintro ⟨id, hid, -⟩
      rw [h] at hid
      cases hid

def readRow (rows : List Row) (line : Option Json) : Except String Row :=
  match line with
  | none => .error ("autonomous index line " ++ toString (rows.length + 1) ++ " is invalid")
  | some (.obj row) => do
      require (index.Follows rows row)
        ("autonomous index chain mismatch at line " ++ toString (rows.length + 1))
      require (Fresh rows row) "autonomous index event identity conflict"
      pure row
  | some _ => .error "autonomous index row must be an object"

def readRows (lines : List (Option Json)) : Except String (List Row) :=
  lines.foldlM (fun rows line => do
    let row ← index.readRow rows line
    pure (rows ++ [row])) []

def rows (file : IndexFile) : Except String (List Row) := do
  require (file.terminated = true) "autonomous index has a partial tail"
  index.readRows file.lines

/-- What becomes of the one write of a row. -/
inductive WriteOutcome where
  | whole
  /-- The whole line is in the file, and `fsync` raises. -/
  | unsynced
  /-- A part of the line is in the file, without its newline. -/
  | torn
  /-- Nothing of the line is in the file. -/
  | refused
deriving DecidableEq, Repr

/-- The event of a row that is next after these. -/
def event (rows : List Row) (eventId : String) (payload : Row) : Row :=
  [("index_id", .str index.indexId), ("sequence", .int rows.length),
    ("previous_event_sha256", .str (previousSha256 rows)), ("event_id", .str eventId),
    ("payload", .obj payload)]

def stored (rows : List Row) (eventId : String) (payload : Row) : Row :=
  index.event rows eventId payload ++
    [("event_sha256", .str (Json.obj (index.event rows eventId payload)).contentSha256)]

def writeRow (row : Row) : WriteOutcome → EStateM String IndexFile Unit
  | .whole => modify fun file => { file with lines := file.lines ++ AppendLog.written (.obj row) }
  | .unsynced => do
      modify fun file => { file with lines := file.lines ++ AppendLog.written (.obj row) }
      throw "fsync failed"
  | .torn => do
      modify fun file => { file with terminated := false }
      throw "partial autonomous index append"
  | .refused => throw "autonomous index was not written"

/-- `_writer`: refused while the lease file exists; it is removed on every exit. -/
def underWriter {α : Type} (body : EStateM String IndexFile α) : EStateM String IndexFile α := do
  let file ← get
  raiseIf file.lease "autonomous index writer is already active"
  modify fun file => { file with lease := true }
  withCleanup (fun file => { file with lease := false }) body

/-- `prior.get("payload") == dict(payload)`. -/
def HasPayload (row payload : Row) : Prop :=
  (Json.field? row "payload").any (fun prior => Json.pyEq prior (.obj payload)) = true

instance (row payload : Row) : Decidable (HasPayload row payload) :=
  inferInstanceAs (Decidable (_ = _))

def append (eventId : String) (payload : Row) (outcome : WriteOutcome) :
    EStateM String IndexFile Bool := do
  raiseIf (eventId = "") "autonomous index event_id is empty"
  underWriter do
    let file ← get
    let rows ← check (index.rows file)
    match rows.find? (fun row => Autonomous.eventId row = eventId) with
    | some prior => do
        check (require (HasPayload prior payload) "autonomous index immutable event conflict")
        pure false
    | none => do
        writeRow (index.stored rows eventId payload) outcome
        pure true

/-- A call of `append`, and what becomes of its write. -/
structure Call where
  eventId : String
  payload : Row
  outcome : WriteOutcome

def Call.apply (index : HashChainIndex) (call : Call) : EStateM String IndexFile Bool :=
  index.append call.eventId call.payload call.outcome

/-- What a call leaves of the file, returned or raised. -/
def afterCall (file : IndexFile) (call : Call) : IndexFile :=
  finalState ((call.apply index).run file)

end HashChainIndex

end JlensEvolve.Autonomous
