import JlensEvolve.Kernel.LedgerRecovery

/-!
`events()` and `snapshot()` against a concurrent writer. The reader takes no
lease: it reads the log and then the head, and the writer, which appends a line
and then replaces the head, may take any of its steps in between, or have part
of a line written. What the reader makes of the two samples is decided by how
far the writer has come between them.
-/

namespace JlensEvolve.Kernel

open Library Contracts

/-- Process 0 reads, process 1 writes. -/
structure Race where
  system : System
  /-- So far the writer's `os.write` has written only part of its line. -/
  torn : Bool

inductive RaceStep where
  /-- The reader calls `events()` or `snapshot()`. -/
  | asks
  | reads
  /-- The writer calls `reserve` or `record`. -/
  | calls (call : LedgerCall)
  | writes
  | writesPart

def Race.start (files : LedgerFiles) : Race := ⟨System.start files, false⟩

/-- The files as they are found: a line that is half written ends the log
without a newline. -/
def Race.seen (race : Race) : LedgerFiles :=
  if race.torn then
    { race.system.files with log := some (tornLog race.system.files.log [none]) }
  else race.system.files

/-- The message of the `LedgerIntegrityError` that the next file step raises. -/
def Stage.integrityError? (ledger : DurableCostLedger) (files : LedgerFiles) :
    Stage → Option String
  | .scanning | .loading _ =>
    match loadEvents ledger files with
    | .error (.ledgerIntegrity message) => some message
    | _ => none
  | .comparing events | .inspecting _ events =>
    match inspectHead ledger files.head events with
    | .error (.ledgerIntegrity message) => some message
    | .ok .mismatch => some "durable cost ledger head mismatch"
    | _ => none
  | _ => none

def Race.readerError? (ledger : DurableCostLedger) (race : Race) : Option String :=
  (race.system.stage 0).integrityError? ledger race.seen

/-- A step of the reader that raises ends its call. -/
def Race.step (ledger : DurableCostLedger) (race : Race) : RaceStep → Race
  | .asks => { race with system := race.system.step (fun _ => ledger) (.act 0 (.begin .read)) }
  | .reads =>
    { race with
      system := race.system.step (fun _ => ledger)
        (.act 0 (if (race.readerError? ledger).isSome then .fail else .advance)) }
  | .calls call =>
    { race with system := race.system.step (fun _ => ledger) (.act 1 (.begin (.mutate call))) }
  | .writes => ⟨race.system.step (fun _ => ledger) (.act 1 .advance), false⟩
  | .writesPart =>
    match race.system.stage 1 with
    | .appending _ _ _ => { race with torn := true }
    | _ => race

/-- The ledger reads as these events, and its head is the one of all of them or
of all but the last. -/
structure ValidLedger (ledger : DurableCostLedger) (files : LedgerFiles)
    (events : List StoredEvent) : Prop where
  loaded : loadEvents ledger files = .ok events
  head : files.head = some (headFile ledger events) ∨
    ∃ before last, before ≠ [] ∧ events = before ++ [last] ∧
      files.head = some (headFile ledger before)

/-- An append keeps the log readable. -/
def Stage.Sustains (ledger : DurableCostLedger) (files : LedgerFiles) : Stage → Prop
  | .appending purpose _ _ => purpose.Recoverable ledger files
  | _ => True

/-- Every line the writer has appended keeps the log readable. -/
def Sustained (ledger : DurableCostLedger) (files : LedgerFiles) (trace : List RaceStep) : Prop :=
  Guarded (fun race step => step = .writes →
    (race.system.stage 1).Sustains ledger race.system.files)
    (Race.step ledger) (Race.start files) trace

/-- The `event_count` of a head. -/
def headCount? (head : Option HeadFile) : Option Int :=
  match head.bind HeadFile.decoded with
  | some (.obj stored) =>
    match Json.field? stored "event_count" with
    | some (.int count) => some count
    | _ => none
  | _ => none

/-- Where the reader is about to read the log, no line is half written and every
line appended so far keeps the log readable; where it is about to read the head,
the head counts no event beyond the ones it has read. -/
def Race.Settled (ledger : DurableCostLedger) (files : LedgerFiles) (trace : List RaceStep)
    (race : Race) : Prop :=
  match race.system.stage 0 with
  | .scanning => race.torn = false ∧ Sustained ledger files trace
  | .loading _ => Sustained ledger files trace
  | .comparing read => ∀ count, headCount? race.system.files.head = some count →
      count ≤ read.length
  | _ => True

/-! ## What reading can raise -/

section Errors

variable {ledger : DurableCostLedger} {e : LedgerError}

theorem readLine_error {lineNumber : Nat} {events : List StoredEvent} {line : Option Json}
    (h : readLine ledger lineNumber events line = .error e) : ∃ message, e = .ledgerIntegrity message := by
  unfold readLine at h
  split at h
  · split at h
    · split at h
      · cases h
        exact ⟨_, rfl⟩
      · split at h
        · cases h
          exact ⟨_, rfl⟩
        · split at h
          · cases h
            exact ⟨_, rfl⟩
          · split at h
            · cases h
              exact ⟨_, rfl⟩
            · cases h
    · cases h
      exact ⟨_, rfl⟩
  · cases h
    exact ⟨_, rfl⟩

theorem readLines_error {lineNumber : Nat} {events : List StoredEvent} {lines : List (Option Json)}
    (h : readLines ledger lineNumber events lines = .error e) :
    ∃ message, e = .ledgerIntegrity message := by
  induction lines generalizing lineNumber events with
  | nil => cases h
  | cons line rest ih =>
    rw [readLines] at h
    cases hline : readLine ledger lineNumber events line with
    | error e' =>
      rw [hline] at h
      cases h
      exact readLine_error hline
    | ok event =>
      rw [hline] at h
      exact ih h

theorem validateHeader_error {events : List StoredEvent}
    (h : validateHeader ledger events = .error e) : ∃ message, e = .ledgerIntegrity message := by
  unfold validateHeader at h
  split at h
  · split at h
    · cases h
    · cases h
      exact ⟨_, rfl⟩
  · cases h
    exact ⟨_, rfl⟩

theorem account_error {replay : Replay} {lineNumber : Nat} {event : StoredEvent}
    (h : replay.account lineNumber event = .error e) : ∃ message, e = .ledgerIntegrity message := by
  unfold Replay.account at h
  split at h
  · cases h
    exact ⟨_, rfl⟩
  · cases h
  · split at h
    · cases h
      exact ⟨_, rfl⟩
    · split at h
      · cases h
        exact ⟨_, rfl⟩
      · cases h

theorem withinAuthorization_error {replay : Replay} {lineNumber : Nat}
    (h : replay.withinAuthorization ledger lineNumber = .error e) :
    ∃ message, e = .ledgerIntegrity message := by
  unfold Replay.withinAuthorization at h
  split at h
  · cases h
    exact ⟨_, rfl⟩
  · split at h
    · cases h
      exact ⟨_, rfl⟩
    · cases h

theorem replayLines_error {lineNumber : Nat} {replay : Replay} {events : List StoredEvent}
    (h : replayLines ledger lineNumber replay events = .error e) :
    ∃ message, e = .ledgerIntegrity message := by
  induction events generalizing lineNumber replay with
  | nil => cases h
  | cons event rest ih =>
    rw [replayLines] at h
    cases haccount : replay.account lineNumber event with
    | error e' =>
      rw [haccount] at h
      cases h
      exact account_error haccount
    | ok next =>
      rw [haccount] at h
      simp only [Except.bind] at h
      cases hwithin : next.withinAuthorization ledger lineNumber with
      | error e' =>
        rw [hwithin] at h
        cases h
        exact withinAuthorization_error hwithin
      | ok last =>
        rw [hwithin] at h
        exact ih h

theorem loadEvents_error {files : LedgerFiles} (h : loadEvents ledger files = .error e) :
    ∃ message, e = .ledgerIntegrity message := by
  unfold loadEvents at h
  split at h
  · cases h
    exact ⟨_, rfl⟩
  · split at h
    · cases h
      exact ⟨_, rfl⟩
    · split at h
      · rename_i hlines
        cases h
        exact readLines_error hlines
      · split at h
        · cases h
          exact ⟨_, rfl⟩
        · split at h
          · cases h
            exact ⟨_, rfl⟩
          · split at h
            · rename_i hreplay
              cases h
              unfold validateReplay at hreplay
              split at hreplay
              · rename_i hheader
                cases hreplay
                exact validateHeader_error hheader
              · exact replayLines_error hreplay
            · cases h

theorem loadEvents_torn (ledger : DurableCostLedger) (files : LedgerFiles) :
    loadEvents ledger { files with log := some (tornLog files.log [none]) } =
      .error (.ledgerIntegrity "durable cost ledger has a partial final event") := by
  simp [loadEvents, tornLog]

theorem integrityError_scanning_eq_none_iff {files : LedgerFiles} :
    Stage.scanning.integrityError? ledger files = none ↔
      ∃ events, loadEvents ledger files = .ok events := by
  unfold Stage.integrityError?
  cases hload : loadEvents ledger files with
  | ok events => simp
  | error e =>
    obtain ⟨message, rfl⟩ := loadEvents_error hload
    simp

end Errors

/-! ## Heads against shorter and longer logs -/

section Heads

variable {ledger : DurableCostLedger} {anchored read events : List StoredEvent}

theorem headCount_headFile :
    headCount? (some (headFile ledger anchored)) = some (anchored.length : Int) := by
  simp [headCount?, headFile, headStored, headPayload]

theorem inspectHead_ahead (ledger : DurableCostLedger) (h : read.length < anchored.length) :
    inspectHead ledger (some (headFile ledger anchored)) read = .ok .mismatch := by
  have hstatus : headStatus (.obj (headPayload ledger anchored.length (previousSha256 anchored)))
      read = .mismatch := by
    have hcount : (Json.obj (headPayload ledger anchored.length (previousSha256 anchored))).get?
        "event_count" = some (.int anchored.length) := by simp [headPayload]
    unfold headStatus
    rw [hcount]
    simp only
    rw [if_neg, if_neg]
    · rintro ⟨-, hone, -⟩
      omega
    · rintro ⟨hsame, -⟩
      simp only [Option.any_some, Json.pyEq, Json.comparable, decide_eq_true_eq,
        Json.float.injEq] at hsame
      have hlength : (read.length : Int) = anchored.length := by exact_mod_cast hsame
      omega
  simpa [inspectHead, headFile, headStored, headPayload, isSha256] using hstatus

variable (ledger) in
/-- Against the head of some first events of a log, some first events of it, no
more than one ahead, pass exactly when the head is not ahead of them. -/
theorem inspectHead_of_prefixes (hanchored : anchored <+: events) (hread : read <+: events)
    (hne : anchored ≠ []) (hclose : read.length ≤ anchored.length + 1) :
    inspectHead ledger (some (headFile ledger anchored)) read = .ok .current ∧ read = anchored ∨
      inspectHead ledger (some (headFile ledger anchored)) read = .ok .oneEventBehind ∧
        read.length = anchored.length + 1 ∨
      inspectHead ledger (some (headFile ledger anchored)) read = .ok .mismatch ∧
        read.length < anchored.length := by
  rcases Nat.lt_trichotomy read.length anchored.length with hlt | heq | hgt
  · exact Or.inr (Or.inr ⟨inspectHead_ahead ledger hlt, hlt⟩)
  · have hsame : read = anchored :=
      (List.prefix_of_prefix_length_le hread hanchored heq.le).eq_of_length heq
    rw [hsame]
    exact Or.inl ⟨inspectHead_current hne, rfl⟩
  · have hlength : read.length = anchored.length + 1 := by omega
    obtain ⟨tail, rfl⟩ := List.prefix_of_prefix_length_le hanchored hread (by omega)
    rw [List.length_append] at hlength
    obtain ⟨last, rfl⟩ := List.length_eq_one_iff.mp (show tail.length = 1 by omega)
    exact Or.inr (Or.inl ⟨inspectHead_behind hne last, by simp⟩)

end Heads

/-! ## How far the writer is -/

/-- What a stage remembers agrees with the events appended so far and the ones
the head counts. -/
def Stage.Agrees (events anchored : List StoredEvent) : Stage → Prop
  | .comparing read => read ≠ [] ∧ read <+: events ∧ read.length ≤ anchored.length + 1
  | .anchoring _ event before => events = before ++ [event.toStored before] ∧ anchored = before
  | _ => True

/-- `events` have been appended, the head counts `anchored`, and while every
append so far has kept the log readable, it reads as the events. -/
structure System.Tracks (ledger : DurableCostLedger) (system : System)
    (events anchored : List StoredEvent) (intact : Prop) : Prop where
  log : system.files.log.isSome = true
  loads : ∀ all, loadEvents ledger system.files = .ok all ↔ intact ∧ all = events
  head : system.files.head = some (headFile ledger anchored)
  nonempty : anchored ≠ []
  within : anchored <+: events
  close : events.length ≤ anchored.length + 1
  agrees : ∀ process, (system.stage process).Agrees events anchored

section Tracks

variable {ledger : DurableCostLedger} {system : System} {events anchored : List StoredEvent}
  {intact : Prop}

theorem System.Tracks.of_iff {other : Prop} (h : system.Tracks ledger events anchored intact)
    (hiff : intact ↔ other) : system.Tracks ledger events anchored other := by
  obtain ⟨hlog, hloads, hhead, hne, hwithin, hclose, hagrees⟩ := h
  exact ⟨hlog, fun all => (hloads all).trans (and_congr_left fun _ => hiff), hhead, hne, hwithin,
    hclose, hagrees⟩

theorem System.Tracks.take (h : system.Tracks ledger events anchored intact) {process : Nat}
    {turn : Turn} (hlog : turn.files.log = system.files.log)
    (hhead : turn.files.head = system.files.head) (hstage : turn.stage.Agrees events anchored) :
    (system.take process turn).Tracks ledger events anchored intact := by
  have hload : ∀ all, loadEvents ledger turn.files = .ok all ↔
      loadEvents ledger system.files = .ok all := by
    intro all
    rw [loadEvents_ok_iff, loadEvents_ok_iff, hlog]
  constructor
  · exact hlog ▸ h.log
  · exact fun all => (hload all).trans (h.loads all)
  · exact hhead.trans h.head
  · exact h.nonempty
  · exact h.within
  · exact h.close
  · intro other
    by_cases hsame : other = process
    · rw [hsame, take_stage_self]
      exact hstage
    · rw [take_stage_of_ne _ _ hsame]
      exact h.agrees other

theorem System.Tracks.anchor (h : system.Tracks ledger events anchored intact)
    (hsound : system.Sound fun _ => ledger) {process : Nat}
    (hholds : (system.stage process).holdsLease = true) {turn : Turn}
    (hlog : turn.files.log = system.files.log)
    (hhead : turn.files.head = some (headFile ledger events))
    (hstage : turn.stage.Agrees events events) :
    (system.take process turn).Tracks ledger events events intact := by
  have hload : ∀ all, loadEvents ledger turn.files = .ok all ↔
      loadEvents ledger system.files = .ok all := by
    intro all
    rw [loadEvents_ok_iff, loadEvents_ok_iff, hlog]
  have hne : events ≠ [] := by
    intro hnil
    apply h.nonempty
    exact List.prefix_nil.mp (hnil ▸ h.within)
  constructor
  · exact hlog ▸ h.log
  · exact fun all => (hload all).trans (h.loads all)
  · exact hhead
  · exact hne
  · exact List.prefix_refl _
  · exact Nat.le_succ _
  · intro other
    by_cases hsame : other = process
    · rw [hsame, take_stage_self]
      exact hstage
    · rw [take_stage_of_ne _ _ hsame]
      have hagrees := h.agrees other
      have hlength := h.within.length_le
      cases hother : system.stage other with
      | comparing read =>
        rw [hother] at hagrees
        obtain ⟨hread, hprefix, hclose⟩ := hagrees
        exact ⟨hread, hprefix, by omega⟩
      | anchoring purpose event before =>
        -- The lease has one holder.
        have howner := (hsound.leased other (by rw [hother]; rfl)).2
        rw [(hsound.leased process hholds).2] at howner
        exact absurd (Option.some.inj howner).symm hsame
      | _ => trivial

theorem System.Tracks.append (h : system.Tracks ledger events anchored intact)
    (hsound : system.Sound fun _ => ledger) {process : Nat} {purpose : Purpose} {event : Event}
    {before : List StoredEvent} (hstage : system.stage process = .appending purpose event before) :
    (system.step (fun _ => ledger) (.act process .advance)).Tracks ledger
      (events ++ [event.toStored events]) anchored
      (intact ∧ (system.stage process).Sustains ledger system.files) := by
  have hfits := hsound.fits process
  rw [hstage] at hfits
  cases purpose with
  | recover => exact hfits.elim
  | create =>
    obtain ⟨-, -, hnone⟩ := hfits
    have hlog := h.log
    rw [hnone] at hlog
    cases hlog
  | mutate call dispatches =>
    obtain ⟨rfl, hload, hadmitted, hcurrent⟩ := hfits
    obtain ⟨hintact, rfl⟩ := (h.loads before).mp hload
    have hne : before ≠ [] := (loadEvents_ok_iff.mp hload).2.nonempty
    have hanchored : anchored = before := by
      rw [h.head] at hcurrent
      rcases inspectHead_of_prefixes ledger h.within (List.prefix_refl _) h.nonempty h.close with
        ⟨-, hsame⟩ | ⟨hbehind, -⟩ | ⟨hmismatch, -⟩
      · exact hsame.symm
      · rw [hbehind] at hcurrent
        cases hcurrent
      · rw [hmismatch] at hcurrent
        cases hcurrent
    simp only [System.step, Action.turn, hstage, Stage.turn, Stage.Sustains]
    constructor
    · rfl
    · intro all
      refine (loadEvents_withLine_iff hload hadmitted.admissible hadmitted.new all).trans ?_
      rw [grown_iff hload hadmitted]
      constructor
      · intro h
        exact ⟨⟨hintact, h.2⟩, h.1⟩
      · intro h
        exact ⟨h.2, h.1.2⟩
    · exact h.head
    · exact h.nonempty
    · exact h.within.trans (List.prefix_append _ _)
    · rw [hanchored, List.length_append]
      exact Nat.le_refl _
    · intro other
      by_cases hsame : other = process
      · rw [hsame, take_stage_self]
        exact ⟨rfl, hanchored⟩
      · rw [take_stage_of_ne _ _ hsame]
        have hagrees := h.agrees other
        cases hother : system.stage other with
        | comparing read =>
          rw [hother] at hagrees
          exact ⟨hagrees.1, hagrees.2.1.trans (List.prefix_append _ _), hagrees.2.2⟩
        | anchoring purpose' event' before' =>
          have howner := (hsound.leased other (by rw [hother]; rfl)).2
          rw [(hsound.leased process (by rw [hstage]; rfl)).2] at howner
          exact absurd (Option.some.inj howner).symm hsame
        | _ => trivial

theorem agrees_proceed (purpose : Purpose) (read : List StoredEvent) :
    (purpose.proceed ledger read).Agrees events anchored := by
  rcases proceed_cases ledger purpose read with hnone | ⟨_, _, _, hproceed, _⟩
  · rw [hnone]
    trivial
  · rw [hproceed]
    trivial

theorem agrees_comparing (h : system.Tracks ledger events anchored intact)
    {read : List StoredEvent} (hload : loadEvents ledger system.files = .ok read) :
    (Stage.comparing read).Agrees events anchored := by
  obtain ⟨-, rfl⟩ := (h.loads read).mp hload
  exact ⟨(loadEvents_ok_iff.mp hload).2.nonempty, List.prefix_refl _, h.close⟩

/-- The stages whose step writes the log or the head. -/
def Stage.writes : Stage → Bool
  | .repairing _ _ | .appending _ _ _ | .anchoring _ _ _ => true
  | _ => false

theorem files_turn_of_not_writes {stage : Stage} (h : stage.writes = false) (files : LedgerFiles) :
    (stage.turn ledger files).files.log = files.log ∧
      (stage.turn ledger files).files.head = files.head := by
  cases stage with
  | repairing purpose read => cases h
  | appending purpose event before => cases h
  | anchoring purpose event before => cases h
  | scanning =>
    simp only [Stage.turn]
    split <;> exact ⟨rfl, rfl⟩
  | comparing read =>
    simp only [Stage.turn]
    split <;> exact ⟨rfl, rfl⟩
  | acquiring purpose =>
    simp only [Stage.turn]
    split
    · exact ⟨rfl, rfl⟩
    · split <;> exact ⟨rfl, rfl⟩
  | loading purpose =>
    simp only [Stage.turn]
    split <;> exact ⟨rfl, rfl⟩
  | inspecting purpose read =>
    simp only [Stage.turn]
    split <;> exact ⟨rfl, rfl⟩
  | releasing owed => cases owed <;> exact ⟨rfl, rfl⟩
  | idle => exact ⟨rfl, rfl⟩
  | probing => exact ⟨rfl, rfl⟩
  | probingHead => exact ⟨rfl, rfl⟩
  | probingHeld => exact ⟨rfl, rfl⟩
  | dispatching reservationId => exact ⟨rfl, rfl⟩

theorem agrees_turn_of_not_writes (h : system.Tracks ledger events anchored intact)
    {stage : Stage} (hstage : stage.writes = false) :
    (stage.turn ledger system.files).stage.Agrees events anchored := by
  cases stage with
  | repairing purpose read => cases hstage
  | appending purpose event before => cases hstage
  | anchoring purpose event before => cases hstage
  | scanning =>
    simp only [Stage.turn]
    split
    · trivial
    · rename_i hload
      exact agrees_comparing h hload
  | comparing read =>
    simp only [Stage.turn]
    split <;> trivial
  | acquiring purpose =>
    simp only [Stage.turn]
    split
    · trivial
    · split <;> trivial
  | loading purpose =>
    simp only [Stage.turn]
    split <;> trivial
  | inspecting purpose read =>
    simp only [Stage.turn]
    split
    · exact agrees_proceed purpose read
    · trivial
    · trivial
  | releasing owed => cases owed <;> trivial
  | probing =>
    simp only [Stage.turn]
    split <;> trivial
  | probingHead =>
    simp only [Stage.turn]
    split <;> trivial
  | probingHeld =>
    simp only [Stage.turn]
    split <;> trivial
  | idle => trivial
  | dispatching reservationId => trivial

theorem sustains_of_not_writes {stage : Stage} (h : stage.writes = false) (files : LedgerFiles) :
    stage.Sustains ledger files := by
  cases stage with
  | appending purpose event before => cases h
  | _ => trivial

/-- One file step of a process: the log grows by a line, the head catches up, or
neither changes. -/
theorem System.Tracks.advance (h : system.Tracks ledger events anchored intact)
    (hsound : system.Sound fun _ => ledger) (process : Nat) :
    ∃ events' anchored', (system.step (fun _ => ledger) (.act process .advance)).Tracks ledger
      events' anchored' (intact ∧ (system.stage process).Sustains ledger system.files) := by
  have hsame : (system.stage process).Sustains ledger system.files →
      (intact ↔ intact ∧ (system.stage process).Sustains ledger system.files) :=
    fun hsustains => ⟨fun hintact => ⟨hintact, hsustains⟩, And.left⟩
  cases hwrites : (system.stage process).writes with
  | false =>
    obtain ⟨hlog, hhead⟩ := files_turn_of_not_writes hwrites system.files
    have htracks : (system.take process ((system.stage process).turn ledger system.files)).Tracks
        ledger events anchored intact := h.take hlog hhead (agrees_turn_of_not_writes h hwrites)
    exact ⟨events, anchored, htracks.of_iff (hsame (sustains_of_not_writes hwrites _))⟩
  | true =>
    cases hstage : system.stage process with
    | appending purpose event before =>
      have htracks := h.append hsound hstage
      rw [hstage] at htracks
      exact ⟨_, _, htracks⟩
    | repairing purpose read =>
      have hfits := hsound.fits process
      rw [hstage] at hfits
      obtain ⟨hlog, haccepted⟩ := loadEvents_ok_iff.mp hfits.2
      obtain ⟨-, rfl⟩ := (h.loads read).mp hfits.2
      obtain ⟨last, hlast⟩ : ∃ last, read.getLast? = some last :=
        ⟨_, List.getLast?_eq_some_getLast haccepted.nonempty⟩
      rw [hstage] at hsame
      have htracks : (system.take process ⟨system.files.anchored ledger read,
          purpose.proceed ledger read, none⟩).Tracks ledger read read intact :=
        h.anchor hsound (by rw [hstage]; rfl) rfl rfl (agrees_proceed purpose read)
      refine ⟨read, read, ?_⟩
      simp only [System.step, Action.turn, hstage, Stage.turn, hlast,
        withHead_last system.files haccepted.chained hlast]
      exact htracks.of_iff (hsame trivial)
    | anchoring purpose event before =>
      have hagrees := h.agrees process
      rw [hstage] at hagrees hsame
      obtain ⟨hevents, rfl⟩ := hagrees
      have hhead : (appended ledger system.files event anchored).head =
          some (headFile ledger events) :=
        (appended_head system.files event).trans (by rw [hevents])
      have htracks : (system.take process ((Stage.anchoring purpose event anchored).turn ledger
          system.files)).Tracks ledger events events intact :=
        h.anchor hsound (by rw [hstage]; rfl) rfl hhead trivial
      refine ⟨events, events, ?_⟩
      simp only [System.step, Action.turn, hstage]
      exact htracks.of_iff (hsame trivial)
    | _ => rw [hstage] at hwrites; cases hwrites

end Tracks

/-! ## The race -/

def Stage.ofReader : Stage → Bool
  | .idle | .scanning | .comparing _ | .acquiring .recover | .loading .recover
  | .inspecting .recover _ | .repairing .recover _ | .releasing none => true
  | _ => false

theorem ofReader_turn {ledger : DurableCostLedger} (files : LedgerFiles) {stage : Stage}
    (h : stage.ofReader = true) : (stage.turn ledger files).stage.ofReader = true := by
  unfold Stage.ofReader at h
  split at h
  · rfl
  · simp only [Stage.turn]
    split <;> rfl
  · simp only [Stage.turn]
    split <;> rfl
  · simp only [Stage.turn]
    split <;> rfl
  · simp only [Stage.turn]
    split <;> rfl
  · simp only [Stage.turn]
    split <;> rfl
  · simp only [Stage.turn]
    split <;> rfl
  · rfl
  · cases h

/-- What holds of the race after a trace. -/
structure Race.Follows (ledger : DurableCostLedger) (files : LedgerFiles) (trace : List RaceStep)
    (race : Race) : Prop where
  sound : race.system.Sound fun _ => ledger
  tracks : ∃ events anchored,
    race.system.Tracks ledger events anchored (Sustained ledger files trace)
  torn : race.torn = true →
    ∃ purpose event before, race.system.stage 1 = .appending purpose event before
  reader : (race.system.stage 0).ofReader = true

section Race

variable {ledger : DurableCostLedger} {files : LedgerFiles} {trace : List RaceStep} {race : Race}

theorem sustained_append {step : RaceStep} :
    Sustained ledger files (trace ++ [step]) ↔ Sustained ledger files trace ∧
      (step = .writes →
        ((run (Race.step ledger) (Race.start files) trace).system.stage 1).Sustains ledger
          (run (Race.step ledger) (Race.start files) trace).system.files) :=
  guarded_append_singleton

theorem sustained_append_of_ne {step : RaceStep} (h : step ≠ .writes) :
    Sustained ledger files (trace ++ [step]) ↔ Sustained ledger files trace := by
  rw [sustained_append]
  exact and_iff_left fun hwrites => absurd hwrites h

theorem System.Tracks.begin {system : System} {events anchored : List StoredEvent} {intact : Prop}
    (h : system.Tracks ledger events anchored intact) (process : Nat) (work : Work) :
    (system.step (fun _ => ledger) (.act process (.begin work))).Tracks ledger events anchored
      intact := by
  have hcall : ∀ (call : LedgerCall) (dispatches : Bool),
      (call.firstStage dispatches).Agrees events anchored := by
    intro call dispatches
    unfold LedgerCall.firstStage
    split <;> trivial
  have hfirst : work.firstStage.Agrees events anchored := by
    cases work with
    | openLedger => trivial
    | read => trivial
    | mutate call => exact hcall call false
    | dispatchOnce reservationId cost calls => exact hcall _ true
  simp only [System.step, Action.turn]
  split
  · exact h.take rfl rfl hfirst
  · exact h.take rfl rfl (h.agrees process)

theorem System.Tracks.fail {system : System} {events anchored : List StoredEvent} {intact : Prop}
    (h : system.Tracks ledger events anchored intact) (process : Nat) :
    (system.step (fun _ => ledger) (.act process .fail)).Tracks ledger events anchored intact := by
  apply h.take rfl rfl
  simp only [Action.turn]
  split <;> trivial

theorem stage_act_of_ne (system : System) {process other : Nat} (action : Action)
    (h : other ≠ process) :
    (system.step (fun _ => ledger) (.act process action)).stage other = system.stage other :=
  take_stage_of_ne _ _ h

theorem Race.Follows.step (h : race.Follows ledger files trace)
    (hrun : run (Race.step ledger) (Race.start files) trace = race) (step : RaceStep) :
    (race.step ledger step).Follows ledger files (trace ++ [step]) := by
  obtain ⟨hsound, ⟨events, anchored, htracks⟩, htorn, hreader⟩ := h
  cases step with
  | asks =>
    constructor
    · exact sound_act hsound 0 _
    · exact ⟨events, anchored, (htracks.begin 0 .read).of_iff
        (sustained_append_of_ne (by rintro ⟨⟩)).symm⟩
    · intro htrue
      simp only [Race.step, stage_act_of_ne _ _ Nat.one_ne_zero]
      exact htorn htrue
    · simp only [Race.step, System.step, take_stage_self, Action.turn]
      split
      · rfl
      · exact hreader
  | reads =>
    have hiff : Sustained ledger files trace ↔ Sustained ledger files (trace ++ [.reads]) :=
      (sustained_append_of_ne (by rintro ⟨⟩)).symm
    constructor
    · exact sound_act hsound 0 _
    · simp only [Race.step]
      split
      · exact ⟨events, anchored, (htracks.fail 0).of_iff hiff⟩
      · obtain ⟨events', anchored', hadvance⟩ := htracks.advance hsound 0
        refine ⟨events', anchored', hadvance.of_iff ?_⟩
        rw [← hiff]
        refine and_iff_left ?_
        cases hstage : race.system.stage 0 with
        | appending purpose event before =>
          rw [hstage] at hreader
          cases hreader
        | _ => trivial
    · intro htrue
      simp only [Race.step, stage_act_of_ne _ _ Nat.one_ne_zero]
      exact htorn htrue
    · simp only [Race.step, System.step, take_stage_self]
      split
      · simp only [Action.turn]
        split <;> rfl
      · exact ofReader_turn _ hreader
  | calls call =>
    constructor
    · exact sound_act hsound 1 _
    · exact ⟨events, anchored, (htracks.begin 1 (.mutate call)).of_iff
        (sustained_append_of_ne (by rintro ⟨⟩)).symm⟩
    · intro htrue
      obtain ⟨purpose, event, before, hstage⟩ := htorn htrue
      simp only [Race.step, System.step, take_stage_self, Action.turn, hstage]
      exact ⟨purpose, event, before, rfl⟩
    · simp only [Race.step, stage_act_of_ne _ _ Nat.zero_ne_one]
      exact hreader
  | writes =>
    obtain ⟨events', anchored', hadvance⟩ := htracks.advance hsound 1
    constructor
    · exact sound_act hsound 1 _
    · refine ⟨events', anchored', hadvance.of_iff ?_⟩
      rw [sustained_append, hrun]
      exact and_congr_right fun _ => ⟨fun hsustains _ => hsustains, fun h => h rfl⟩
    · intro htrue
      cases htrue
    · simp only [Race.step, stage_act_of_ne _ _ Nat.zero_ne_one]
      exact hreader
  | writesPart =>
    have hiff : Sustained ledger files trace ↔ Sustained ledger files (trace ++ [.writesPart]) :=
      (sustained_append_of_ne (by rintro ⟨⟩)).symm
    simp only [Race.step]
    split
    · rename_i purpose event before hstage
      exact ⟨hsound, ⟨events, anchored, htracks.of_iff hiff⟩,
        fun _ => ⟨purpose, event, before, hstage⟩, hreader⟩
    · exact ⟨hsound, ⟨events, anchored, htracks.of_iff hiff⟩, htorn, hreader⟩

theorem ValidLedger.follows {events : List StoredEvent} (h : ValidLedger ledger files events) :
    (Race.start files).Follows ledger files [] := by
  obtain ⟨hlog, haccepted⟩ := loadEvents_ok_iff.mp h.loaded
  have hlogSome : (Race.start files).system.files.log.isSome = true := by
    change files.log.isSome = true
    rw [hlog]
    rfl
  have hloads : ∀ all, loadEvents ledger files = .ok all ↔ Sustained ledger files [] ∧ all = events := by
    intro all
    rw [h.loaded]
    exact ⟨fun hsame => ⟨trivial, (Except.ok.inj hsame).symm⟩, fun hall => by rw [hall.2]⟩
  refine ⟨sound_start _ files, ?_, by rintro ⟨⟩, rfl⟩
  rcases h.head with hhead | ⟨before, last, hne, rfl, hhead⟩
  · exact ⟨events, events, hlogSome, hloads, hhead, haccepted.nonempty, List.prefix_refl _,
      Nat.le_succ _, fun _ => trivial⟩
  · exact ⟨_, before, hlogSome, hloads, hhead, hne, List.prefix_append _ _,
      by rw [List.length_append]; exact Nat.le_refl _, fun _ => trivial⟩

theorem follows_run {events : List StoredEvent} (hvalid : ValidLedger ledger files events)
    (trace : List RaceStep) :
    (run (Race.step ledger) (Race.start files) trace).Follows ledger files trace := by
  induction trace using List.reverseRecOn with
  | nil => exact hvalid.follows
  | append_singleton trace step ih =>
    rw [run_append]
    exact ih.step rfl step

theorem Race.Follows.exists_loaded_iff (h : race.Follows ledger files trace) :
    (∃ events, loadEvents ledger race.system.files = .ok events) ↔
      Sustained ledger files trace := by
  obtain ⟨events, anchored, htracks⟩ := h.tracks
  constructor
  · rintro ⟨all, hload⟩
    exact ((htracks.loads all).mp hload).1
  · intro hsustained
    exact ⟨events, (htracks.loads events).mpr ⟨hsustained, rfl⟩⟩

theorem seen_head (race : Race) : race.seen.head = race.system.files.head := by
  unfold Race.seen
  split <;> rfl

theorem Race.Follows.not_torn_of_holds (h : race.Follows ledger files trace)
    (hholds : (race.system.stage 0).holdsLease = true) : race.torn = false := by
  cases htorn : race.torn with
  | false => rfl
  | true =>
    obtain ⟨purpose, event, before, hstage⟩ := h.torn htorn
    have howner := (h.sound.leased 1 (by rw [hstage]; rfl)).2
    rw [(h.sound.leased 0 hholds).2] at howner
    exact absurd (Option.some.inj howner) Nat.zero_ne_one

theorem Race.Follows.comparing_iff (h : race.Follows ledger files trace) {read : List StoredEvent}
    (hstage : race.system.stage 0 = .comparing read) :
    (Stage.comparing read).integrityError? ledger race.seen = none ↔
      ∀ count, headCount? race.system.files.head = some count → count ≤ read.length := by
  obtain ⟨events, anchored, htracks⟩ := h.tracks
  have hagrees := htracks.agrees 0
  rw [hstage] at hagrees
  obtain ⟨-, hprefix, hclose⟩ := hagrees
  unfold Stage.integrityError?
  rw [seen_head, htracks.head, headCount_headFile]
  have hcount : (∀ count : Int, some (anchored.length : Int) = some count → count ≤ read.length) ↔
      anchored.length ≤ read.length := by
    constructor
    · intro hle
      exact Int.ofNat_le.mp (hle _ rfl)
    · intro hle count hsame
      rw [← Option.some.inj hsame]
      exact Int.ofNat_le.mpr hle
  rw [hcount]
  rcases inspectHead_of_prefixes ledger htracks.within hprefix htracks.nonempty hclose with
    ⟨hcurrent, rfl⟩ | ⟨hbehind, hlength⟩ | ⟨hmismatch, hlength⟩
  · simp only [hcurrent, true_iff]
    exact Nat.le_refl _
  · simp only [hbehind, true_iff]
    omega
  · simp only [hmismatch, reduceCtorEq, false_iff]
    omega

theorem Race.Follows.inspecting_eq_none (h : race.Follows ledger files trace) {purpose : Purpose}
    {read : List StoredEvent} (hstage : race.system.stage 0 = .inspecting purpose read) :
    (Stage.inspecting purpose read).integrityError? ledger race.seen = none := by
  obtain ⟨events, anchored, htracks⟩ := h.tracks
  have hfits := h.sound.fits 0
  rw [hstage] at hfits
  obtain ⟨-, rfl⟩ := (htracks.loads read).mp hfits.2
  have hlength := htracks.within.length_le
  simp only [Stage.integrityError?, seen_head, htracks.head]
  rcases inspectHead_of_prefixes ledger htracks.within (List.prefix_refl _) htracks.nonempty
    htracks.close with ⟨hcurrent, -⟩ | ⟨hbehind, -⟩ | ⟨-, hshort⟩
  · simp only [hcurrent]
  · simp only [hbehind]
  · omega

/-- In every state that any interleaving with the writer reaches on a valid
ledger, the next file step of the reader raises no integrity error exactly when
its two samples are settled: no half-written line and no unreadable append
before it reads the log, and no head of a later event before it reads the head. -/
theorem reader_unharmed_iff {events : List StoredEvent} (hvalid : ValidLedger ledger files events)
    (hrun : run (Race.step ledger) (Race.start files) trace = race) :
    race.readerError? ledger = none ↔ race.Settled ledger files trace := by
  have h := follows_run hvalid trace
  rw [hrun] at h
  unfold Race.readerError? Race.Settled
  cases hstage : race.system.stage 0 with
  | scanning =>
      rw [integrityError_scanning_eq_none_iff]
      cases htorn : race.torn with
      | true =>
          simp only [Race.seen, htorn, if_true, loadEvents_torn]
          simp
      | false =>
          simp only [Race.seen, htorn, Bool.false_eq_true, if_false, true_and]
          exact h.exists_loaded_iff
  | loading purpose =>
      have htorn := h.not_torn_of_holds (by rw [hstage]; rfl)
      refine integrityError_scanning_eq_none_iff.trans ?_
      simp only [Race.seen, htorn, Bool.false_eq_true, if_false]
      exact h.exists_loaded_iff
  | comparing read => exact h.comparing_iff hstage
  | inspecting purpose read => exact iff_of_true (h.inspecting_eq_none hstage) trivial
  | idle => exact iff_of_true rfl trivial
  | probing => exact iff_of_true rfl trivial
  | probingHead => exact iff_of_true rfl trivial
  | acquiring purpose => exact iff_of_true rfl trivial
  | probingHeld => exact iff_of_true rfl trivial
  | repairing purpose read => exact iff_of_true rfl trivial
  | appending purpose event before => exact iff_of_true rfl trivial
  | anchoring purpose event before => exact iff_of_true rfl trivial
  | releasing owed => exact iff_of_true rfl trivial
  | dispatching reservationId => exact iff_of_true rfl trivial

end Race

/-! ## A reservation between the two samples -/

theorem run_writes (ledger : DurableCostLedger) (race : Race) {steps : Nat} {after : Race}
    (h : run (Race.step ledger) race (List.replicate steps .writes) = after) :
    after.system.stage 0 = race.system.stage 0 ∧
      (after.system.files, after.system.stage 1, after.system.dispatched) =
        (soloStep ledger)^[steps]
          (race.system.files, race.system.stage 1, race.system.dispatched) := by
  induction steps generalizing race with
  | zero =>
    rw [← h]
    exact ⟨rfl, rfl⟩
  | succ steps ih =>
    rw [List.replicate_succ, run_cons] at h
    obtain ⟨hreader, hwriter⟩ := ih _ h
    refine ⟨hreader.trans (stage_act_of_ne _ _ Nat.zero_ne_one), ?_⟩
    rw [hwriter, Function.iterate_succ_apply]
    simp only [Race.step, System.step, take_stage_self]
    rfl

theorem tenUnitLedger_head : (openedFiles tenUnitLedger).head =
    some (headFile tenUnitLedger (chain [openEvent tenUnitLedger])) :=
  tenUnitLedger_readable.head

theorem tenUnitLedger_valid :
    ValidLedger tenUnitLedger (openedFiles tenUnitLedger) (chain [openEvent tenUnitLedger]) :=
  ⟨tenUnitLedger_readable.loadEvents, Or.inl tenUnitLedger_head⟩

def readOnce : List RaceStep := [.asks, .reads]

theorem run_readOnce {ledger : DurableCostLedger} {files : LedgerFiles} {events : List StoredEvent}
    {race : Race} (hload : loadEvents ledger files = .ok events)
    (hrun : run (Race.step ledger) (Race.start files) readOnce = race) :
    race.system.files = files ∧ race.system.stage 0 = .comparing events ∧
      race.system.stage 1 = .idle := by
  rw [readOnce, run_cons, run_cons, run_nil] at hrun
  subst hrun
  simp [Race.step, Race.start, System.start, System.step, Action.turn, Work.firstStage,
    Race.readerError?, Stage.integrityError?, Race.seen, hload, Stage.turn, System.take]

theorem settled_readOnce {ledger : DurableCostLedger} {files : LedgerFiles}
    {events : List StoredEvent} {race : Race} (hload : loadEvents ledger files = .ok events)
    (hhead : files.head = some (headFile ledger events))
    (hrun : run (Race.step ledger) (Race.start files) readOnce = race) :
    race.Settled ledger files readOnce := by
  obtain ⟨hfiles, hstage, -⟩ := run_readOnce hload hrun
  unfold Race.Settled
  rw [hstage]
  intro count hcount
  rw [hfiles, hhead, headCount_headFile] at hcount
  rw [← Option.some.inj hcount]

/-- With no step of the writer in between, the head is the one of the log. -/
theorem reader_unharmed_alone :
    (run (Race.step tenUnitLedger) (Race.start (openedFiles tenUnitLedger))
      readOnce).readerError? tenUnitLedger = none := by
  obtain ⟨race, hrace⟩ : ∃ race, run (Race.step tenUnitLedger)
      (Race.start (openedFiles tenUnitLedger)) readOnce = race := ⟨_, rfl⟩
  rw [hrace]
  apply (reader_unharmed_iff tenUnitLedger_valid hrace).mpr
  exact settled_readOnce tenUnitLedger_readable.loadEvents tenUnitLedger_head hrace

/-- The writer reserves between the reader's two samples. -/
def reserveBetween : List RaceStep :=
  readOnce ++ .calls (.reserve "first" 5 1) :: List.replicate 5 .writes

theorem reader_raises_between :
    ValidLedger tenUnitLedger (openedFiles tenUnitLedger) (chain [openEvent tenUnitLedger]) ∧
      (run (Race.step tenUnitLedger) (Race.start (openedFiles tenUnitLedger))
        reserveBetween).readerError? tenUnitLedger =
          some "durable cost ledger head mismatch" := by
  refine ⟨tenUnitLedger_valid, ?_⟩
  obtain ⟨race, hrace⟩ : ∃ race, run (Race.step tenUnitLedger)
      (Race.start (openedFiles tenUnitLedger)) readOnce = race := ⟨_, rfl⟩
  obtain ⟨hfiles, hreader, hwriter⟩ := run_readOnce tenUnitLedger_readable.loadEvents hrace
  rw [reserveBetween, run_append, hrace, run_cons]
  obtain ⟨after, hafter⟩ : ∃ after, run (Race.step tenUnitLedger)
      (race.step tenUnitLedger (.calls (.reserve "first" 5 1))) (List.replicate 5 .writes) = after :=
    ⟨_, rfl⟩
  rw [hafter]
  obtain ⟨hkept, hsolo⟩ := run_writes tenUnitLedger _ hafter
  have hargs : (LedgerCall.reserve "first" 5 1).argumentsHold = true := by decide
  have hcalled : (race.step tenUnitLedger (.calls (.reserve "first" 5 1))).system.stage 0 =
      .comparing (chain [openEvent tenUnitLedger]) :=
    (stage_act_of_ne _ _ Nat.zero_ne_one).trans hreader
  simp only [Race.step, System.step, Action.turn, hwriter, Work.firstStage, LedgerCall.firstStage,
    hargs, if_true, System.take, Function.update_self, hfiles] at hsolo
  rw [Function.iterate_add_apply (soloStep tenUnitLedger) 2 3,
    solo_appending tenUnitLedger_readable (reserve_admitted "first" (by decide) (by decide))]
    at hsolo
  have hhead : after.system.files.head = some (headFile tenUnitLedger
      (chain [openEvent tenUnitLedger] ++
        [((LedgerCall.reserve "first" 5 1).event tenUnitLedger).toStored
          (chain [openEvent tenUnitLedger])])) := by
    rw [congrArg (fun state => state.1.head) hsolo]
    exact appended_head (openedFiles tenUnitLedger) _
  have hahead := inspectHead_ahead tenUnitLedger
    (show (chain [openEvent tenUnitLedger]).length < (chain [openEvent tenUnitLedger] ++
        [((LedgerCall.reserve "first" 5 1).event tenUnitLedger).toStored
          (chain [openEvent tenUnitLedger])]).length by simp)
  rw [Race.readerError?, hkept, hcalled]
  simp only [Stage.integrityError?, seen_head, hhead, hahead]

end JlensEvolve.Kernel
