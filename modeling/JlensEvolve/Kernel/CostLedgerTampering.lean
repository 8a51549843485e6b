import JlensEvolve.Kernel.CostLedgerReadback
import JlensEvolve.Library.JsonChars

/-!
How far a head file fixes the log it is read with. As long as no two objects at
the same place of two logs collide, logs that are accepted against one head
agree on all the events the head counts; beyond them the recovery of the head
lets each log have one more event, of which the head says nothing.
-/

namespace JlensEvolve.Kernel

open Library Contracts

/-- The same stored object, up to the order of its keys. -/
structure StoredEvent.Same (first second : StoredEvent) : Prop where
  payload : (Json.obj first.payload).sorted = (Json.obj second.payload).sorted
  eventSha256 : first.eventSha256 = second.eventSha256

def SameLog (first second : List StoredEvent) : Prop :=
  List.Forall₂ StoredEvent.Same first second

/-- The two hashed objects at one place of the logs do not collide. -/
def CollisionFree (first second : List StoredEvent) : Prop :=
  ∀ (i : Nat) (x y : StoredEvent), first[i]? = some x → second[i]? = some y →
    Json.contentSha256 (.obj x.payload) = Json.contentSha256 (.obj y.payload) →
      (Json.obj x.payload).sorted = (Json.obj y.payload).sorted

/-- `_read_events` returns these events, under the lease or without it. -/
def AcceptsAgainst (ledger : DurableCostLedger) (files : LedgerFiles)
    (events : List StoredEvent) : Prop :=
  ∃ after, (readEvents ledger).run files = .ok events after ∨
    (readEventsHeld ledger).run files = .ok events after

/-- The head file counts this many events and names the hash of the last one. -/
def Anchors (head : Option HeadFile) (count : Nat) (sha256 : String) : Prop :=
  ∃ stored value, head = some ⟨some (.obj stored), true⟩ ∧
    (Json.obj (stored.filter (·.1 ≠ "anchor_sha256"))).get? "event_count" = some value ∧
    Json.pyEq (.int count) value = true ∧
    (Json.obj (stored.filter (·.1 ≠ "anchor_sha256"))).get? "head_event_sha256" =
      some (.str sha256)

theorem pyEq_int_inj {m n : Int} {value : Json} (hm : Json.pyEq (.int m) value = true)
    (hn : Json.pyEq (.int n) value = true) : m = n := by
  rw [Json.pyEq, decide_eq_true_eq] at hm hn
  rw [← hn] at hm
  simpa [Json.comparable] using hm

theorem Anchors.unique {head : Option HeadFile} {m n : Nat} {first second : String}
    (hm : Anchors head m first) (hn : Anchors head n second) : m = n ∧ first = second := by
  obtain ⟨stored, value, hhead, hvalue, hcount, hsha256⟩ := hm
  obtain ⟨other, found, hother, hfound, hothercount, hothersha256⟩ := hn
  rw [hhead] at hother
  cases hother
  rw [hvalue] at hfound
  rw [hsha256] at hothersha256
  cases hfound
  cases hothersha256
  exact ⟨by exact_mod_cast pyEq_int_inj hcount hothercount, rfl⟩

section Head

variable {ledger : DurableCostLedger} {head : Option HeadFile} {events : List StoredEvent}

theorem inspectHead_eq_ok {status : HeadStatus} (h : inspectHead ledger head events = .ok status) :
    ∃ stored, head = some ⟨some (.obj stored), true⟩ ∧
      status = headStatus (.obj (stored.filter (·.1 ≠ "anchor_sha256"))) events := by
  unfold inspectHead at h
  split at h
  · cases h
  · rename_i file
    obtain ⟨decoded, terminated⟩ := file
    split at h
    · cases h
    · rename_i hterminated
      split at h
      · rename_i stored hdecoded
        split at h
        · simp only at h
          split at h
          · cases h
          · split at h
            · cases h
            · cases h
              obtain rfl : decoded = some (.obj stored) := hdecoded
              obtain rfl : terminated = true := by simpa using hterminated
              exact ⟨stored, rfl, rfl⟩
        · cases h
      · cases h

theorem anchors_of_inspectHead {status : HeadStatus}
    (h : inspectHead ledger head events = .ok status) (hstatus : status ≠ .mismatch)
    (hne : events ≠ []) :
    ∃ count, (events.length = count ∨ events.length = count + 1) ∧
      Anchors head count (previousSha256 (events.take count)) := by
  obtain ⟨stored, hhead, rfl⟩ := inspectHead_eq_ok h
  obtain ⟨last, hlast⟩ : ∃ last, events.getLast? = some last :=
    ⟨_, List.getLast?_eq_some_getLast hne⟩
  unfold headStatus at hstatus
  simp only at hstatus
  split at hstatus
  · rename_i hcurrent
    obtain ⟨value, hvalue, hcount⟩ := Option.any_eq_true _ _ |>.mp hcurrent.1
    refine ⟨events.length, Or.inl rfl, stored, value, hhead, hvalue, hcount, ?_⟩
    rw [hcurrent.2, hlast, List.take_length, previousSha256_of_getLast? hlast]
    rfl
  · split at hstatus
    · rename_i count hcount
      split at hstatus
      · rename_i hbehind
        obtain ⟨hpositive, hlength, hsha256⟩ := hbehind
        obtain ⟨n, rfl⟩ := Int.eq_ofNat_of_zero_le (le_trans zero_le_one hpositive)
        have hlength : n + 1 = events.length := by exact_mod_cast hlength
        have hpositive : 1 ≤ n := by exact_mod_cast hpositive
        refine ⟨n, Or.inr hlength.symm, stored, .int n, hhead, hcount, Json.pyEq_self _, ?_⟩
        have hanchor : (events.take n).getLast? = events[n - 1]? := by
          rw [List.getLast?_eq_getElem?, List.length_take, List.getElem?_take_of_lt (by omega)]
          congr 1
          omega
        rw [hsha256, previousSha256, hanchor]
        have hsome : n - 1 < events.length := by omega
        simp [List.getElem?_eq_getElem hsome]
      · exact absurd rfl hstatus
    · exact absurd rfl hstatus

end Head

theorem StoredEvent.Follows.payload_previous {event : StoredEvent} {events : List StoredEvent}
    (h : event.Follows events) :
    Json.field? event.payload "previous_event_sha256" = some (.str (previousSha256 events)) := by
  rw [StoredEvent.payload, Json.field?_filter_ne _ (by decide), h.previousField, h.previous]

theorem sameLog_of_previousSha256 {first second : List StoredEvent} (hfirst : Chained first)
    (hsecond : Chained second) (hlength : first.length = second.length)
    (hfree : CollisionFree first second)
    (hsha256 : previousSha256 first = previousSha256 second) : SameLog first second := by
  induction first using List.reverseRecOn generalizing second with
  | nil =>
    rw [List.length_nil, eq_comm, List.length_eq_zero_iff] at hlength
    rw [hlength]
    exact List.Forall₂.nil
  | append_singleton before event ih =>
    cases second using List.reverseRecOn with
    | nil => simp at hlength
    | append_singleton other rival =>
      have hbefore : before.length = other.length := by simpa using hlength
      obtain ⟨hbeforeChained, hevent⟩ := chained_append_singleton.mp hfirst
      obtain ⟨hotherChained, hrival⟩ := chained_append_singleton.mp hsecond
      have hhash : event.eventSha256 = rival.eventSha256 := by
        simpa [previousSha256] using hsha256
      have hpayload : (Json.obj event.payload).sorted = (Json.obj rival.payload).sorted := by
        apply hfree before.length event rival
        · simp
        · simp [hbefore]
        · rw [← hevent.eventSha256, ← hrival.eventSha256, hhash]
      have hprevious : previousSha256 before = previousSha256 other := by
        have hfield := Json.field?_str_of_sorted hpayload hevent.payload_previous
        rw [hrival.payload_previous] at hfield
        exact (Json.str.inj (Option.some.inj hfield)).symm
      have hbeforeFree : CollisionFree before other := by
        intro i x y hx hy
        apply hfree i x y
        · rw [List.getElem?_append_left (List.getElem?_eq_some_iff.mp hx).1, hx]
        · rw [List.getElem?_append_left (List.getElem?_eq_some_iff.mp hy).1, hy]
      have hsame := ih hbeforeChained hotherChained hbefore hbeforeFree hprevious
      exact List.rel_append hsame (List.Forall₂.cons ⟨hpayload, hhash⟩ List.Forall₂.nil)

theorem Chained.take {events : List StoredEvent} (h : Chained events) (count : Nat) :
    Chained (events.take count) := by
  intro before event after heq
  apply h before event (after ++ events.drop count)
  rw [← List.cons_append, ← List.append_assoc, ← heq, List.take_append_drop]

theorem CollisionFree.take {first second : List StoredEvent} (h : CollisionFree first second)
    (count : Nat) : CollisionFree (first.take count) (second.take count) := by
  intro i x y hx hy
  rw [List.getElem?_take] at hx hy
  split at hx
  · rename_i hlt
    rw [if_pos hlt] at hy
    exact h i x y hx hy
  · cases hx

section Logs

variable {ledger : DurableCostLedger} {first second : LedgerFiles}
  {firstEvents secondEvents : List StoredEvent}

theorem AcceptsAgainst.inspected {files : LedgerFiles} {events : List StoredEvent}
    (h : AcceptsAgainst ledger files events) :
    Accepted ledger events ∧
      ∃ status, inspectHead ledger files.head events = .ok status ∧ status ≠ .mismatch := by
  obtain ⟨after, hread | hread⟩ := h
  · obtain ⟨hload, ⟨hcurrent, -⟩ | ⟨hbehind, -⟩⟩ := run_readEvents_ok_iff.mp hread
    · exact ⟨(loadEvents_ok_iff.mp hload).2, .current, hcurrent, by simp⟩
    · exact ⟨(loadEvents_ok_iff.mp hload).2, .oneEventBehind, hbehind, by simp⟩
  · obtain ⟨hload, ⟨hcurrent, -⟩ | ⟨hbehind, -⟩⟩ := run_readEventsHeld_ok_iff.mp hread
    · exact ⟨(loadEvents_ok_iff.mp hload).2, .current, hcurrent, by simp⟩
    · exact ⟨(loadEvents_ok_iff.mp hload).2, .oneEventBehind, hbehind, by simp⟩

/-- Whatever else the files hold, logs that are accepted against the same head
agree on every event the head counts, and each has one event more at most. -/
theorem accepted_logs_agree (hhead : first.head = second.head)
    (hfirst : AcceptsAgainst ledger first firstEvents)
    (hsecond : AcceptsAgainst ledger second secondEvents)
    (hfree : CollisionFree firstEvents secondEvents) :
    ∃ count sha256, Anchors first.head count sha256 ∧
      (firstEvents.length = count ∨ firstEvents.length = count + 1) ∧
      (secondEvents.length = count ∨ secondEvents.length = count + 1) ∧
      SameLog (firstEvents.take count) (secondEvents.take count) := by
  obtain ⟨hfirstAccepted, status, hstatus, hmatch⟩ := hfirst.inspected
  obtain ⟨hsecondAccepted, other, hother, hothermatch⟩ := hsecond.inspected
  obtain ⟨count, hcount, hanchors⟩ :=
    anchors_of_inspectHead hstatus hmatch hfirstAccepted.nonempty
  obtain ⟨othercount, hothercount, hotheranchors⟩ :=
    anchors_of_inspectHead hother hothermatch hsecondAccepted.nonempty
  rw [← hhead] at hotheranchors
  obtain ⟨rfl, hsha256⟩ := hanchors.unique hotheranchors
  refine ⟨count, _, hanchors, hcount, hothercount, ?_⟩
  apply sameLog_of_previousSha256 (hfirstAccepted.chained.take count)
    (hsecondAccepted.chained.take count)
  · rw [List.length_take, List.length_take]
    omega
  · exact hfree.take count
  · exact hsha256

end Logs

/-- The same log, or the one with one event more than the other. -/
def EqualOrOneLonger (first second : List StoredEvent) : Prop :=
  SameLog first second ∨
    (∃ before last, first = before ++ [last] ∧ SameLog before second) ∨
    ∃ before last, second = before ++ [last] ∧ SameLog first before

/-- A new ledger to whose log a reservation has been added, the head unchanged. -/
def extendedFiles (reservationId : String) : LedgerFiles :=
  (openedFiles tenUnitLedger).withLine
    ((LedgerCall.reserve reservationId 5 1).event tenUnitLedger)
    (chain [openEvent tenUnitLedger])

def extendedLog (reservationId : String) : List StoredEvent :=
  chain [openEvent tenUnitLedger] ++
    [((LedgerCall.reserve reservationId 5 1).event tenUnitLedger).toStored
      (chain [openEvent tenUnitLedger])]

theorem extendedFiles_head (reservationId : String) :
    (extendedFiles reservationId).head = (openedFiles tenUnitLedger).head :=
  LedgerFiles.withLine_head _ _ _

theorem acceptsAgainst_extended {reservationId : String} (hid : isText reservationId = true)
    (hnew : reservationId ≠ "ledger-open") (hfree : lineFree reservationId = true) :
    AcceptsAgainst tenUnitLedger (extendedFiles reservationId) (extendedLog reservationId) := by
  have hadmitted := reserve_admitted reservationId hid hnew
  have hload : loadEvents tenUnitLedger (extendedFiles reservationId) =
      .ok (extendedLog reservationId) := by
    apply (loadEvents_withLine_iff tenUnitLedger_readable.loadEvents hadmitted.admissible
      hadmitted.new _).mpr
    refine ⟨rfl, ?_, (grown_iff tenUnitLedger_readable.loadEvents hadmitted).mpr id⟩
    rw [LedgerCall.event_lineFree, LedgerCall.lineFree, hfree]
    decide
  have hhead : (extendedFiles reservationId).head =
      some (headFile tenUnitLedger (chain [openEvent tenUnitLedger])) := by
    rw [extendedFiles_head, tenUnitLedger_readable.head, headFile, chain_length]
  refine ⟨_, Or.inr (run_readEventsHeld_ok_iff.mpr ⟨hload, Or.inr ⟨?_, rfl⟩⟩)⟩
  rw [hhead]
  exact inspectHead_behind tenUnitLedger_readable.chain_nonempty _

/-- A log and its extension by one event: the one event they share is the same. -/
theorem accepted_logs_agree_extended :
    ∃ count sha256, Anchors (extendedFiles "first").head count sha256 ∧
      ((extendedLog "first").length = count ∨ (extendedLog "first").length = count + 1) ∧
      ((chain [openEvent tenUnitLedger]).length = count ∨
        (chain [openEvent tenUnitLedger]).length = count + 1) ∧
      SameLog ((extendedLog "first").take count) ((chain [openEvent tenUnitLedger]).take count) := by
  have hopened : AcceptsAgainst tenUnitLedger (openedFiles tenUnitLedger)
      (chain [openEvent tenUnitLedger]) := by
    obtain ⟨replay, hreplay⟩ := tenUnitLedger_readable.replayed
    exact ⟨_, Or.inl (run_readEvents tenUnitLedger_readable.toRecorded hreplay)⟩
  apply accepted_logs_agree (extendedFiles_head "first")
    (acceptsAgainst_extended (by decide) (by decide) (by decide)) hopened
  intro i x y hx hy _
  have hlt : i < (chain [openEvent tenUnitLedger]).length :=
    (List.getElem?_eq_some_iff.mp hy).1
  rw [extendedLog, List.getElem?_append_left hlt, hy] at hx
  cases hx
  rfl

theorem opening_sha256 :
    Json.contentSha256 (.obj ((openEvent tenUnitLedger).chained [])) =
      "57c5b77bb38a530d6bc7a0315967ead3d58d884862eb6579c2eb16efa3e880da" := by
  rw [Json.contentSha256_eq]
  decide +kernel

theorem rivals_differ :
    Json.contentSha256 (.obj (((LedgerCall.reserve "first" 5 1).event tenUnitLedger).chained
        (chain [openEvent tenUnitLedger]))) ≠
      Json.contentSha256 (.obj (((LedgerCall.reserve "second" 5 1).event tenUnitLedger).chained
        (chain [openEvent tenUnitLedger]))) := by
  have hprevious : previousSha256 (chain [openEvent tenUnitLedger]) =
      "57c5b77bb38a530d6bc7a0315967ead3d58d884862eb6579c2eb16efa3e880da" := by
    rw [← opening_sha256]
    simp [chain, previousSha256, Event.toStored]
  simp only [Event.chained, hprevious, chain_length]
  rw [Json.contentSha256_eq, Json.contentSha256_eq]
  decide +kernel

/-- Two different reservations after the opening event: both logs are accepted
against the head that counts the opening event alone, and neither is the other
with one event more. -/
theorem rival_extensions :
    (extendedFiles "first").head = (extendedFiles "second").head ∧
      AcceptsAgainst tenUnitLedger (extendedFiles "first") (extendedLog "first") ∧
      AcceptsAgainst tenUnitLedger (extendedFiles "second") (extendedLog "second") ∧
      CollisionFree (extendedLog "first") (extendedLog "second") ∧
      ¬ EqualOrOneLonger (extendedLog "first") (extendedLog "second") := by
  refine ⟨(extendedFiles_head _).trans (extendedFiles_head _).symm,
    acceptsAgainst_extended (by decide) (by decide) (by decide),
    acceptsAgainst_extended (by decide) (by decide) (by decide), ?_, ?_⟩
  · intro i x y hx hy hhash
    by_cases hlt : i < (chain [openEvent tenUnitLedger]).length
    · rw [extendedLog, List.getElem?_append_left hlt] at hx hy
      rw [hx] at hy
      cases hy
      rfl
    · rw [extendedLog, List.getElem?_append_right (by omega), List.getElem?_singleton] at hx hy
      split at hx
      · rename_i hlast
        rw [if_pos hlast] at hy
        cases hx
        cases hy
        refine absurd ?_ rivals_differ
        simpa only [StoredEvent.payload, Event.toStored, payload_stored] using hhash
      · cases hx
  · have hlength : (extendedLog "first").length = (extendedLog "second").length := by
      simp [extendedLog]
    rintro (hsame | ⟨before, last, hlong, hsame⟩ | ⟨before, last, hlong, hsame⟩)
    · have hreversed := List.forall₂_reverse_iff.mpr hsame
      rw [extendedLog, extendedLog, List.reverse_append, List.reverse_append] at hreversed
      cases hreversed with
      | cons hlast hrest => exact rivals_differ hlast.eventSha256
    · have hshort := hsame.length_eq
      rw [hlong, List.length_append] at hlength
      simp only [List.length_singleton] at hlength
      omega
    · have hshort := hsame.length_eq
      rw [hlong, List.length_append] at hlength
      simp only [List.length_singleton] at hlength
      omega

end JlensEvolve.Kernel
