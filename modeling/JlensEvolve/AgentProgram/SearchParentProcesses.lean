import JlensEvolve.AgentProgram.SearchParent
import JlensEvolve.Library.Lease

/-!
Processes that append to one search-parent log, one step of `append` at a time.
Whatever the order of their steps, and wherever they raise or are killed, the
log is one line of descent.
-/

namespace JlensEvolve.AgentProgram

open Library SearchParentEvent SearchParentLog

/-- Where in `append` a process is. -/
inductive AppendStage where
  /-- No append is running; the answer of the last one, if it gave any. -/
  | ready (answer : Option (Except String Bool))
  | begun (log : SearchParentLog) (decision : TournamentDecision)
  /-- These events were read, and the decision is not among them. -/
  | acquiring (log : SearchParentLog) (decision : TournamentDecision)
      (events : List SearchParentEvent)
  | rechecking (log : SearchParentLog) (decision : TournamentDecision)
      (events : List SearchParentEvent)
  | writing (log : SearchParentLog) (decision : TournamentDecision)
      (events : List SearchParentEvent)
  | syncing
  /-- The lease file is about to be removed. -/
  | releasing (answer : Except String Bool)

namespace AppendStage

def holdsLease : AppendStage → Bool
  | .rechecking _ _ _ => true
  | .writing _ _ _ => true
  | .syncing => true
  | .releasing _ => true
  | _ => false

/-- The next step of `append`; what becomes of the write matters where the row
is written. -/
def advance (file : LogFile) (free : Bool) (outcome : WriteOutcome) :
    AppendStage → LeasedTurn LogFile AppendStage
  | .ready answer => ⟨file, .ready answer, .keep⟩
  | .begun log decision =>
    match (do
      log.checkDecision decision
      let events ← log.read file.lines
      let isRecorded ← recorded decision events
      pure (events, isRecorded)) with
    | .error e => ⟨file, .ready (some (.error e)), .keep⟩
    | .ok (_, true) => ⟨file, .ready (some (.ok false)), .keep⟩
    | .ok (events, false) => ⟨file, .acquiring log decision events, .keep⟩
  | .acquiring log decision events =>
    if free then ⟨file, .rechecking log decision events, .take⟩
    else ⟨file, .ready (some (.error "search-parent writer lease is busy")), .keep⟩
  | .rechecking log decision events =>
    match log.read file.lines with
    | .error e => ⟨file, .releasing (.error e), .keep⟩
    | .ok found =>
      if sameEvents found events then ⟨file, .writing log decision events, .keep⟩
      else ⟨file, .releasing (.error "search-parent changed during append"), .keep⟩
  | .writing log decision events =>
    ⟨file.write (log.nextEvent events decision).payload outcome, .syncing, .keep⟩
  | .syncing => ⟨file, .releasing (.ok true), .keep⟩
  | .releasing answer => ⟨file, .ready (some answer), .drop⟩

end AppendStage

/-- Everything that can happen to a process. -/
inductive AppendInput where
  | begin (log : SearchParentLog) (decision : TournamentDecision)
  | advance (outcome : WriteOutcome)
  /-- The operating system refuses the step. -/
  | fail
  | crash

def appendTurn (file : LogFile) (free : Bool) (stage : AppendStage) :
    AppendInput → LeasedTurn LogFile AppendStage
  | .begin log decision =>
    match stage with
    | .ready _ => ⟨file, .begun log decision, .keep⟩
    | stage => ⟨file, stage, .keep⟩
  | .advance outcome => stage.advance file free outcome
  | .fail =>
    match stage with
    | .rechecking _ _ _ | .writing _ _ _ | .syncing =>
      ⟨file, .releasing (.error "operating-system error"), .keep⟩
    | .begun _ _ | .acquiring _ _ _ | .releasing _ =>
      ⟨file, .ready (some (.error "operating-system error")), .keep⟩
    | .ready answer => ⟨file, .ready answer, .keep⟩
  | .crash => ⟨file, .ready none, .keep⟩

abbrev LogSystem := LeasedSystem LogFile AppendStage

abbrev LogEvent := LeasedEvent AppendInput

/-- No file, no lease, no append. -/
def LogSystem.start : LogSystem := ⟨.missing, none, fun _ => .ready none⟩

def LogSystem.step : LogSystem → LogEvent → LogSystem :=
  LeasedSystem.step AppendStage.holdsLease appendTurn

def LogSystem.after (events : List LogEvent) : LogSystem := run LogSystem.step LogSystem.start events

theorem appendTurn_respectsLease : RespectsLease AppendStage.holdsLease appendTurn := by
  constructor
  · intro file free stage input htake
    cases input with
    | begin log decision => cases stage <;> cases htake
    | fail => cases stage <;> cases htake
    | crash => cases htake
    | advance outcome =>
      cases stage with
      | acquiring log decision events =>
        cases free with
        | true => rfl
        | false => cases htake
      | begun log decision =>
        simp only [appendTurn, AppendStage.advance] at htake
        split at htake <;> cases htake
      | rechecking log decision events =>
        simp only [appendTurn, AppendStage.advance] at htake
        split at htake
        · cases htake
        · split at htake <;> cases htake
      | ready answer => cases htake
      | writing log decision events => cases htake
      | syncing => cases htake
      | releasing answer => cases htake
  · intro file free stage input hholds
    cases input with
    | begin log decision =>
      cases stage <;> first | exact Or.inr ⟨rfl, rfl⟩ | cases hholds
    | fail => cases stage <;> first | exact Or.inr ⟨rfl, rfl⟩ | cases hholds
    | crash => cases hholds
    | advance outcome =>
      cases stage with
      | acquiring log decision events =>
        cases free with
        | true => exact Or.inl rfl
        | false => cases hholds
      | begun log decision =>
        simp only [appendTurn, AppendStage.advance] at hholds
        split at hholds <;> cases hholds
      | rechecking log decision events =>
        refine Or.inr ⟨rfl, ?_⟩
        simp only [appendTurn, AppendStage.advance]
        split
        · rfl
        · split <;> rfl
      | ready answer => cases hholds
      | writing log decision events => exact Or.inr ⟨rfl, rfl⟩
      | syncing => exact Or.inr ⟨rfl, rfl⟩
      | releasing answer => cases hholds
  · intro file free stage input hholds
    cases input with
    | begin log decision => cases stage <;> exact ⟨rfl, nofun⟩
    | fail => cases stage <;> exact ⟨rfl, nofun⟩
    | crash => exact ⟨rfl, nofun⟩
    | advance outcome =>
      cases stage with
      | acquiring log decision events => cases free <;> exact ⟨rfl, nofun⟩
      | begun log decision =>
        simp only [appendTurn, AppendStage.advance]
        split <;> exact ⟨rfl, nofun⟩
      | ready answer => exact ⟨rfl, nofun⟩
      | rechecking log decision events => cases hholds
      | writing log decision events => cases hholds
      | syncing => cases hholds
      | releasing answer => cases hholds

section Reading

variable {log other : SearchParentLog} {events found : List SearchParentEvent}

theorem read_concat (lines : List (Option Json)) (line : Option Json) :
    log.read (lines ++ [line]) = (do
      let events ← log.read lines
      let event ← log.readEvent events line
      pure (events ++ [event])) := by
  rw [SearchParentLog.read, List.foldlM_append]
  simp [SearchParentLog.read]

theorem read_concat_ok_iff {lines : List (Option Json)} {line : Option Json} :
    log.read (lines ++ [line]) = .ok found ↔
      ∃ events event, log.read lines = .ok events ∧ log.readEvent events line = .ok event ∧
        found = events ++ [event] := by
  simp only [read_concat, except_bind_ok_iff]
  constructor
  · intro h
    obtain ⟨events, hevents, event, hevent, hfound⟩ := h
    exact ⟨events, event, hevents, hevent, (Except.ok.inj hfound).symm⟩
  · intro h
    obtain ⟨events, event, hevents, hevent, hfound⟩ := h
    exact ⟨events, hevents, event, hevent, by rw [hfound]; rfl⟩

theorem decode_of_readEvent {line : Option Json} {event : SearchParentEvent}
    (h : log.readEvent events line = .ok event) :
    decode line = some event ∧ Descends events event := by
  unfold readEvent at h
  split at h
  · cases h
  · rename_i decoded hdecoded
    simp only [except_bind_ok_iff, require_ok_iff, exists_const] at h
    obtain ⟨-, -, -, -, -, hdescends, hevent⟩ := h
    obtain rfl : decoded = event := Except.ok.inj hevent
    exact ⟨hdecoded, hdescends⟩

theorem not_read_undecodable (lines : List (Option Json)) :
    log.read (lines ++ [none]) ≠ .ok found := by
  intro h
  obtain ⟨events, event, -, hevent, -⟩ := read_concat_ok_iff.mp h
  obtain ⟨hdecode, -⟩ := decode_of_readEvent hevent
  cases hdecode

theorem map_decode_of_read {lines : List (Option Json)} (h : log.read lines = .ok events) :
    lines.map decode = events.map some := by
  induction lines using List.reverseRecOn generalizing events with
  | nil =>
    obtain rfl := Except.ok.inj h
    rfl
  | append_singleton lines line ih =>
    obtain ⟨before, event, hbefore, hevent, rfl⟩ := read_concat_ok_iff.mp h
    rw [List.map_append, List.map_append, ih hbefore, List.map_singleton, List.map_singleton,
      (decode_of_readEvent hevent).1]

theorem read_unique {lines : List (Option Json)} (h : log.read lines = .ok events)
    (hother : other.read lines = .ok found) : events = found := by
  apply List.map_injective_iff.mpr (Option.some_injective _)
  rw [← map_decode_of_read h, ← map_decode_of_read hother]

/-- Each event is of a tournament of its own, and names as its parent what the
event before it selected. -/
structure LineOfDescent (events : List SearchParentEvent) : Prop where
  distinct : events.Pairwise fun first second =>
    Json.pyEq first.tournamentId second.tournamentId = false
  descends : ∀ before first second after, events = before ++ first :: second :: after →
    Json.pyEq second.previousParentRevisionId first.selectedRevisionId = true

theorem descends_of_read {lines : List (Option Json)} (h : log.read lines = .ok events) :
    ∀ before first second after, events = before ++ first :: second :: after →
      Json.pyEq second.previousParentRevisionId first.selectedRevisionId = true := by
  induction lines using List.reverseRecOn generalizing events with
  | nil =>
    obtain rfl := Except.ok.inj h
    intro before first second after heq
    simp at heq
  | append_singleton lines line ih =>
    obtain ⟨earlier, event, hearlier, hevent, rfl⟩ := read_concat_ok_iff.mp h
    intro before first second after heq
    rcases List.eq_nil_or_concat after with rfl | ⟨rest, last, rfl⟩
    · have hsplit : earlier ++ [event] = (before ++ [first]) ++ [second] := by
        rw [heq]
        simp
      obtain ⟨rfl, hlast⟩ := List.append_inj' hsplit rfl
      obtain rfl : event = second := List.singleton_inj.mp hlast
      apply (decode_of_readEvent hevent).2 first
      simp
    · have hsplit : earlier ++ [event] = (before ++ first :: second :: rest) ++ [last] := by
        rw [heq]
        simp
      exact ih hearlier before first second rest (List.append_inj' hsplit rfl).1

end Reading

section Fitting

variable {log : SearchParentLog} {decision : TournamentDecision}
  {events found : List SearchParentEvent}

/-- The tournament of the decision is not on record, and its parent is the
current one. -/
structure Fits (events : List SearchParentEvent) (decision : TournamentDecision) : Prop where
  unrecorded : matching decision events = []
  current : Current events decision

theorem fits_of_recorded (h : recorded decision events = .ok false) : Fits events decision := by
  unfold recorded at h
  split at h
  · rename_i hmatching
    simp only [except_bind_ok_iff, require_ok_iff, exists_const] at h
    exact ⟨hmatching, h.1⟩
  · simp only [except_bind_ok_iff, require_ok_iff, exists_const] at h
    cases h.2
  · cases h

theorem getLast?_of_same (h : List.Forall₂ Same found events) {last : SearchParentEvent}
    (hlast : last ∈ found.getLast?) : ∃ other ∈ events.getLast?, Same last other := by
  have hreverse := List.forall₂_reverse_iff.mpr h
  rw [List.getLast?_eq_head?_reverse] at hlast ⊢
  generalize found.reverse = firsts at hreverse hlast
  generalize events.reverse = seconds at hreverse
  cases hreverse with
  | nil => cases hlast
  | cons hsame _ =>
    cases hlast
    exact ⟨_, rfl, hsame⟩

theorem Fits.of_same (hfits : Fits events decision) (h : List.Forall₂ Same found events) :
    Fits found decision := by
  constructor
  · have hnew := hfits.unrecorded
    unfold matching at hnew ⊢
    clear hfits
    induction h with
    | nil => rfl
    | cons hsame _ ih =>
      rw [List.filter_cons] at hnew ⊢
      rw [Json.pyEq_congr hsame.tournamentId]
      split at hnew
      · cases hnew
      · rename_i hother
        rw [if_neg hother]
        exact ih hnew
  · intro last hlast
    obtain ⟨other, hother, hsame⟩ := getLast?_of_same h hlast
    rw [Json.pyEq_congr hsame.selectedRevisionId]
    exact hfits.current other hother

theorem decode_payload (event : SearchParentEvent) : decode (some event.payload) = some event :=
  rfl

/-- Whatever becomes of its write, the row of a decision that fits keeps the log
one line of descent. -/
theorem lineOfDescent_write {file : LogFile}
    (hfile : ∀ (log : SearchParentLog) events, log.read file.lines = .ok events →
      LineOfDescent events)
    (hread : log.read file.lines = .ok found) (hfits : Fits found decision)
    (outcome : WriteOutcome) (reader : SearchParentLog) (next : List SearchParentEvent)
    (hnext : reader.read (file.write (log.nextEvent events decision).payload outcome).lines =
      .ok next) : LineOfDescent next := by
  have hjoined (written : List (Option Json))
      (hwritten : written = [none] ∨
        written = [some (log.nextEvent events decision).payload])
      (h : reader.read (file.joined written) = .ok next) : LineOfDescent next := by
    unfold LogFile.joined at h
    split at h
    · rcases hwritten with rfl | rfl
      · exact absurd h (not_read_undecodable _)
      · refine ⟨?_, descends_of_read h⟩
        obtain ⟨before, event, hbefore, hevent, rfl⟩ := read_concat_ok_iff.mp h
        obtain rfl := read_unique hread hbefore
        obtain ⟨hdecode, -⟩ := decode_of_readEvent hevent
        obtain rfl := Option.some.inj ((decode_payload _).symm.trans hdecode)
        apply List.pairwise_append.mpr
        refine ⟨(hfile reader found hbefore).distinct, List.pairwise_singleton _ _, ?_⟩
        intro first hfirst second hsecond
        obtain rfl := List.mem_singleton.mp hsecond
        have hother := List.filter_eq_nil_iff.mp hfits.unrecorded first hfirst
        exact Bool.eq_false_iff.mpr hother
    · exact absurd h (not_read_undecodable _)
  have hpayload : ∀ payload : Json, AppendLog.written payload = [none] ∨
      AppendLog.written payload = [some payload] := by
    intro payload
    rw [AppendLog.written_eq]
    split
    · exact Or.inr rfl
    · exact Or.inl rfl
  cases outcome with
  | nothing => exact hfile reader next hnext
  | torn => exact hjoined [none] (Or.inl rfl) hnext
  | whole => exact hjoined _ (hpayload _) hnext
  | unterminated => exact hjoined _ (hpayload _) hnext

end Fitting

/-- Whoever reads the file finds one line of descent. -/
def ReadsDescent (file : LogFile) : Prop :=
  ∀ (log : SearchParentLog) (events : List SearchParentEvent),
    log.read file.lines = .ok events → LineOfDescent events

def AppendStage.Relies (file : LogFile) : AppendStage → Prop
  | .acquiring _ decision events => Fits events decision
  | .rechecking _ decision events => Fits events decision
  | .writing log decision _ => ∃ found, log.read file.lines = .ok found ∧ Fits found decision
  | _ => True

theorem relies_of_free {stage : AppendStage} (h : stage.holdsLease = false) (file other : LogFile)
    (hrelies : stage.Relies file) : stage.Relies other := by
  cases stage with
  | ready answer => trivial
  | begun log decision => trivial
  | acquiring log decision events => exact hrelies
  | rechecking log decision events => cases h
  | writing log decision events => cases h
  | syncing => cases h
  | releasing answer => cases h

theorem appendTurn_sound (file : LogFile) (free : Bool) (stage : AppendStage)
    (input : AppendInput) (hfile : ReadsDescent file) (hstage : stage.Relies file) :
    ReadsDescent (appendTurn file free stage input).data ∧
      (appendTurn file free stage input).stage.Relies
        (appendTurn file free stage input).data := by
  cases input with
  | begin log decision => cases stage <;> exact ⟨hfile, hstage⟩
  | fail => cases stage <;> exact ⟨hfile, trivial⟩
  | crash => exact ⟨hfile, trivial⟩
  | advance outcome =>
    cases stage with
    | ready answer => exact ⟨hfile, trivial⟩
    | begun log decision =>
      simp only [appendTurn, AppendStage.advance]
      split
      · exact ⟨hfile, trivial⟩
      · exact ⟨hfile, trivial⟩
      · rename_i events hevents
        simp only [except_bind_ok_iff] at hevents
        obtain ⟨-, -, read, -, isRecorded, hrecorded, hpair⟩ := hevents
        cases hpair
        exact ⟨hfile, fits_of_recorded hrecorded⟩
    | acquiring log decision events =>
      cases free with
      | true => exact ⟨hfile, hstage⟩
      | false => exact ⟨hfile, trivial⟩
    | rechecking log decision events =>
      simp only [appendTurn, AppendStage.advance]
      split
      · exact ⟨hfile, trivial⟩
      · rename_i found hfound
        split
        · rename_i hsame
          exact ⟨hfile, found, hfound, Fits.of_same hstage (sameEvents_iff.mp hsame)⟩
        · exact ⟨hfile, trivial⟩
    | writing log decision events =>
      obtain ⟨found, hfound, hfits⟩ := hstage
      exact ⟨lineOfDescent_write hfile hfound hfits outcome, trivial⟩
    | syncing => exact ⟨hfile, trivial⟩
    | releasing answer => exact ⟨hfile, trivial⟩

theorem leaseSound_after (events : List LogEvent) :
    LeaseSound AppendStage.holdsLease ReadsDescent AppendStage.Relies (LogSystem.after events) := by
  apply LeaseSound.run appendTurn_respectsLease appendTurn_sound
  · exact fun file other stage hfree hrelies => relies_of_free hfree file other hrelies
  · refine ⟨?_, fun _ => trivial, ?_⟩
    · intro log found hread
      obtain rfl := Except.ok.inj hread
      exact ⟨List.Pairwise.nil, descends_of_read hread⟩
    · intro process hholds
      cases hholds

/-- The append raises, at once or when it has removed the lease file. -/
def AppendStage.Refused (stage : AppendStage) : Prop :=
  ∃ e, stage = .ready (some (.error e)) ∨ stage = .releasing (.error e)

/-- A tournament that is not on record, decided from a parent that is not the
current one. -/
def Stale (events : List SearchParentEvent) (decision : TournamentDecision) : Prop :=
  matching decision events = [] ∧ ¬ Current events decision

/-- An append that reads the log, for the first time or under the lease, and
finds its parent to be stale is refused. -/
theorem refused_of_stale {file : LogFile} {free : Bool} {stage : AppendStage}
    {log : SearchParentLog} {decision : TournamentDecision} {read : List SearchParentEvent}
    (outcome : WriteOutcome) (hrelies : stage.Relies file)
    (hstage : stage = .begun log decision ∨ ∃ events, stage = .rechecking log decision events)
    (hread : log.read file.lines = .ok read) (hstale : Stale read decision) :
    (appendTurn file free stage (.advance outcome)).stage.Refused := by
  rcases hstage with rfl | ⟨events, rfl⟩
  · simp only [appendTurn, AppendStage.advance]
    have hrecorded : recorded decision read = .error "search-parent fork detected" := by
      simp [recorded, hstale.1, require, hstale.2]
    cases hcheck : log.checkDecision decision with
    | error e => exact ⟨e, Or.inl rfl⟩
    | ok u =>
      refine ⟨"search-parent fork detected", Or.inl ?_⟩
      simp [hread, hrecorded, bind, Except.bind]
  · simp only [appendTurn, AppendStage.advance, hread]
    split
    · rename_i hsame
      exact absurd (Fits.of_same hrelies (sameEvents_iff.mp hsame)).current hstale.2
    · exact ⟨_, Or.inr rfl⟩

/-- The file changes only by the write of an append whose tournament is not on
record and whose parent is the current one. -/
theorem data_step (events : List LogEvent) (event : LogEvent) :
    ((LogSystem.after events).step event).data = (LogSystem.after events).data ∨
      ∃ process log decision known read,
        (LogSystem.after events).stage process = .writing log decision known ∧
          log.read (LogSystem.after events).data.lines = .ok read ∧ Fits read decision := by
  have hsound := leaseSound_after events
  cases event with
  | clearLease => exact Or.inl (clearLease_eq _).1
  | act process input =>
    have hrelies := hsound.stages process
    cases hholds : ((LogSystem.after events).stage process).holdsLease with
    | false => exact Or.inl (appendTurn_respectsLease.quiet _ _ _ input hholds).1
    | true =>
      cases hstage : (LogSystem.after events).stage process with
      | writing log decision known =>
        rw [hstage] at hrelies
        obtain ⟨read, hread, hfits⟩ := hrelies
        exact Or.inr ⟨process, log, decision, known, read, hstage, hread, hfits⟩
      | rechecking log decision known =>
        apply Or.inl
        simp only [LogSystem.step, LeasedSystem.step, LeasedSystem.turnOf, hstage]
        cases input with
        | advance outcome =>
          simp only [appendTurn, AppendStage.advance]
          split
          · rfl
          · split <;> rfl
        | begin log decision => rfl
        | fail => rfl
        | crash => rfl
      | syncing =>
        apply Or.inl
        simp only [LogSystem.step, LeasedSystem.step, LeasedSystem.turnOf, hstage]
        cases input <;> rfl
      | releasing answer =>
        apply Or.inl
        simp only [LogSystem.step, LeasedSystem.step, LeasedSystem.turnOf, hstage]
        cases input <;> rfl
      | ready answer =>
        rw [hstage] at hholds
        cases hholds
      | begun log decision =>
        rw [hstage] at hholds
        cases hholds
      | acquiring log decision known =>
        rw [hstage] at hholds
        cases hholds

/-- After any steps of any processes, whoever reads the log finds one line of
descent; its file changes only by an append whose tournament is new and whose
parent is the current one; and an append that finds its parent stale is
refused. -/
theorem searchParentLog_lineOfDescent (events : List LogEvent) :
    (∀ (log : SearchParentLog) read, log.read (LogSystem.after events).data.lines = .ok read →
      LineOfDescent read) ∧
    (∀ event, ((LogSystem.after events).step event).data = (LogSystem.after events).data ∨
      ∃ process log decision known read,
        (LogSystem.after events).stage process = .writing log decision known ∧
          log.read (LogSystem.after events).data.lines = .ok read ∧ Fits read decision) ∧
    ∀ process (log : SearchParentLog) decision read outcome,
      ((LogSystem.after events).stage process = .begun log decision ∨
        ∃ known, (LogSystem.after events).stage process = .rechecking log decision known) →
      log.read (LogSystem.after events).data.lines = .ok read → Stale read decision →
        (((LogSystem.after events).step (.act process (.advance outcome))).stage
          process).Refused := by
  have hsound := leaseSound_after events
  refine ⟨hsound.data, data_step events, ?_⟩
  intro process log decision read outcome hstage hread hstale
  rw [LogSystem.step, stage_step_self]
  exact refused_of_stale outcome (hsound.stages process) hstage hread hstale

end JlensEvolve.AgentProgram
