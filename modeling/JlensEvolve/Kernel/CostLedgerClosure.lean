import Mathlib.Tactic.Linarith
import JlensEvolve.Kernel.CostLedgerChain
import JlensEvolve.Library.Transition

/-!
Whether the ledger can read what it has just written. `reserve` compares the
same total as the replay, so a reservation it admits is always readable.
`record` compares only what is spent: a charge above its reservation can use
up room that other outstanding reservations still hold, and then every later
read refuses the log. The main result is the exact condition on a call, and
that it is the only way a run of the ledger becomes unreadable.
-/

namespace JlensEvolve.Kernel

open Library Contracts

/-- The locals of the replay loop are the totals that `_snapshot` computes. -/
structure Replay.Describes (replay : Replay) (events : List StoredEvent) : Prop where
  reservations : replay.reservations.entries = reservationsOf events
  charged : ∀ id, id ∈ replay.chargedReservations ↔ id ∈ (chargesOf events).map Prod.fst
  chargedKnown : ∀ id ∈ (chargesOf events).map Prod.fst,
    id ∈ (reservationsOf events).map Prod.fst
  spentCost : replay.spentCost = ((chargesOf events).map (·.2.1)).sum
  spentCalls : replay.spentCalls = ((chargesOf events).map (·.2.2)).sum

theorem Replay.Describes.outstanding {replay : Replay} {events : List StoredEvent}
    (h : replay.Describes events) : replay.outstanding = outstandingOf events := by
  unfold Replay.outstanding outstandingOf
  rw [h.reservations]
  apply List.filter_congr
  intro entry _
  simp only [h.charged]

theorem Replay.start_describes : Replay.start.Describes [] := by
  constructor <;> simp [Replay.start, Dict.empty, reservationsOf, chargesOf]

theorem mem_reservationsOf_eventId {events : List StoredEvent} {id : String}
    (h : id ∈ (reservationsOf events).map Prod.fst) : id ∈ events.map StoredEvent.eventId := by
  obtain ⟨entry, hentry, rfl⟩ := List.mem_map.mp h
  obtain ⟨event, hevent, heq⟩ := List.mem_filterMap.mp hentry
  refine List.mem_map.mpr ⟨event, hevent, ?_⟩
  unfold reservationOf? at heq
  split at heq
  · cases heq
    rfl
  · cases heq

theorem reservationsOf_append (events : List StoredEvent) (event : StoredEvent) :
    reservationsOf (events ++ [event]) =
      reservationsOf events ++ (reservationOf? event).toList := by
  cases h : reservationOf? event <;> simp [reservationsOf, h]

theorem chargesOf_append (events : List StoredEvent) (event : StoredEvent) :
    chargesOf (events ++ [event]) = chargesOf events ++ (chargeOf? event).toList := by
  cases h : chargeOf? event <;> simp [chargesOf, h]

theorem Replay.Describes.account {replay next : Replay} {events : List StoredEvent}
    {event : StoredEvent} {lineNumber : Nat} (h : replay.Describes events)
    (hnew : event.eventId ∉ events.map StoredEvent.eventId)
    (hnext : replay.account lineNumber event = .ok next) :
    next.Describes (events ++ [event]) := by
  unfold Replay.account at hnext
  split at hnext
  case h_1 => cases hnext
  case h_2 cost calls hbody =>
      cases hnext
      have hres : reservationOf? event = some (event.eventId, cost, calls) := by
        simp [reservationOf?, hbody]
      have hchg : chargeOf? event = none := by simp [chargeOf?, hbody]
      have habsent : event.eventId ∉ replay.reservations.entries.map Prod.fst := by
        rw [h.reservations]
        exact fun hmem => hnew (mem_reservationsOf_eventId hmem)
      constructor
      · rw [reservationsOf_append, hres,
          Dict.entries_set_of_absent _ _ habsent, h.reservations]
        rfl
      · simpa [chargesOf_append, hchg] using h.charged
      · intro id hid
        rw [chargesOf_append, hchg] at hid
        rw [reservationsOf_append]
        have := h.chargedKnown id (by simpa using hid)
        simp only [List.map_append, List.mem_append]
        exact Or.inl this
      · simpa [chargesOf_append, hchg] using h.spentCost
      · simpa [chargesOf_append, hchg] using h.spentCalls
  case h_3 reservationId cost calls hbody =>
      have hres : reservationOf? event = none := by simp [reservationOf?, hbody]
      have hchg : chargeOf? event = some (reservationId, cost, calls) := by
        simp [chargeOf?, hbody]
      split at hnext
      · cases hnext
      rename_i hknown
      split at hnext
      · cases hnext
      cases hnext
      have hmem : reservationId ∈ (reservationsOf events).map Prod.fst := by
        rw [← h.reservations]
        exact (Dict.mem_keys_iff _ _).mpr (by simpa [Option.isSome_iff_ne_none] using hknown)
      constructor
      · simpa [reservationsOf_append, hres] using h.reservations
      · intro id
        simp [chargesOf_append, hchg, h.charged id, or_comm]
      · intro id hid
        rw [chargesOf_append, hchg] at hid
        rw [reservationsOf_append, hres]
        simp only [List.map_append, List.mem_append, Option.toList_some, List.map_cons,
          List.map_nil, List.mem_singleton] at hid
        rcases hid with hid | rfl
        · simpa using h.chargedKnown id hid
        · simpa using hmem
      · simp [chargesOf_append, hchg, h.spentCost]
      · simp [chargesOf_append, hchg, h.spentCalls]

theorem replayLines_append (ledger : DurableCostLedger) (lineNumber : Nat) (replay : Replay)
    (first second : List StoredEvent) :
    replayLines ledger lineNumber replay (first ++ second) =
      (replayLines ledger lineNumber replay first).bind
        (fun middle => replayLines ledger (lineNumber + first.length) middle second) := by
  induction first generalizing lineNumber replay with
  | nil => rfl
  | cons event rest ih =>
    simp only [List.cons_append, replayLines]
    cases (replay.account lineNumber event).bind
        (fun next => next.withinAuthorization ledger lineNumber) with
    | error e => rfl
    | ok next =>
      simp only [ih, List.length_cons]
      rw [Nat.add_right_comm, Nat.add_assoc]

theorem withinAuthorization_ok_iff (replay next : Replay) (ledger : DurableCostLedger)
    (lineNumber : Nat) :
    replay.withinAuthorization ledger lineNumber = .ok next ↔
      next = replay ∧ replay.spentCost + replay.reservedCost ≤ ledger.maxCostCny ∧
        replay.spentCalls + replay.reservedCalls ≤ ledger.maxModelCalls := by
  unfold Replay.withinAuthorization
  split
  · rename_i h
    simp [not_le.mpr h]
  · rename_i h
    split
    · rename_i hc
      simp [not_le.mpr hc]
    · rename_i hc
      simp [not_lt.mp h, not_lt.mp hc, eq_comm]

theorem replayLines_describes {ledger : DurableCostLedger} {replay : Replay}
    (events : List StoredEvent) (hnodup : (events.map StoredEvent.eventId).Nodup)
    (h : replayLines ledger 2 Replay.start events = .ok replay) : replay.Describes events := by
  induction events using List.reverseRecOn generalizing replay with
  | nil =>
    cases h
    exact Replay.start_describes
  | append_singleton events event ih =>
    rw [replayLines_append] at h
    rw [List.map_append, List.nodup_append] at hnodup
    cases hmiddle : replayLines ledger 2 Replay.start events with
    | error e => simp [hmiddle, Except.bind] at h
    | ok middle =>
      have hdescribes := ih hnodup.1 hmiddle
      simp only [hmiddle, Except.bind, replayLines] at h
      cases haccount : middle.account (2 + events.length) event with
      | error e => simp [haccount] at h
      | ok next =>
        have hnew : event.eventId ∉ events.map StoredEvent.eventId := fun hmem =>
          hnodup.2.2 _ hmem _ (by simp) rfl
        have hnext := hdescribes.account hnew haccount
        simp only [haccount] at h
        cases hwithin : next.withinAuthorization ledger (2 + events.length) with
        | error e => simp [hwithin] at h
        | ok last =>
          simp only [hwithin, Except.ok.injEq] at h
          obtain ⟨rfl, -⟩ := (withinAuthorization_ok_iff _ _ _ _).mp hwithin
          exact h ▸ hnext

theorem validateReplay_describes {ledger : DurableCostLedger} {replay : Replay}
    {events : List StoredEvent} (hnodup : (events.map StoredEvent.eventId).Nodup)
    (h : validateReplay ledger events = .ok replay) : replay.Describes events := by
  unfold validateReplay at h
  cases hheader : validateHeader ledger events with
  | error e => simp [hheader] at h
  | ok _ =>
    simp only [hheader] at h
    cases events with
    | nil => simp [validateHeader] at hheader
    | cons header rest =>
      rw [List.map_cons, List.nodup_cons] at hnodup
      have hrest := replayLines_describes rest hnodup.2 h
      have hbody : header.body = .opened ledger.maxCostCny ledger.maxModelCalls := by
        simp only [validateHeader, List.head?_cons] at hheader
        split at hheader
        · rename_i hfields
          exact hfields.1
        · cases hheader
      have hres : reservationsOf (header :: rest) = reservationsOf rest := by
        simp [reservationsOf, reservationOf?, hbody]
      have hchg : chargesOf (header :: rest) = chargesOf rest := by
        simp [chargesOf, chargeOf?, hbody]
      constructor
      · rw [hres]
        exact hrest.reservations
      · rw [hchg]
        exact hrest.charged
      · rw [hchg, hres]
        exact hrest.chargedKnown
      · rw [hchg]
        exact hrest.spentCost
      · rw [hchg]
        exact hrest.spentCalls

theorem validateReplay_append {ledger : DurableCostLedger} {replay : Replay}
    {events : List StoredEvent} (event : StoredEvent)
    (h : validateReplay ledger events = .ok replay) :
    validateReplay ledger (events ++ [event]) =
      (replay.account (events.length + 1) event).bind
        (fun next => next.withinAuthorization ledger (events.length + 1)) := by
  unfold validateReplay at h
  cases events with
  | nil => simp [validateHeader] at h
  | cons header rest =>
    cases hheader : validateHeader ledger (header :: rest) with
    | error e => simp [hheader] at h
    | ok _ =>
      have happend : validateHeader ledger (header :: (rest ++ [event])) = .ok () := by
        simpa [validateHeader] using hheader
      simp only [hheader, List.tail_cons] at h
      have hline : 2 + rest.length = (header :: rest).length + 1 := by
        simp only [List.length_cons]
        omega
      simp only [validateReplay, happend, List.cons_append, List.tail_cons,
        replayLines_append, h, Except.bind, replayLines, hline]
      cases replay.account ((header :: rest).length + 1) event with
      | error e => rfl
      | ok next =>
        simp only
        cases next.withinAuthorization ledger ((header :: rest).length + 1) <;> rfl

theorem reservationsOf_nodup {events : List StoredEvent} {replay : Replay}
    (h : replay.Describes events) : ((reservationsOf events).map Prod.fst).Nodup := by
  rw [← h.reservations]
  exact replay.reservations.nodup_keys

theorem outstandingOf_append_reservation {events : List StoredEvent} {replay : Replay}
    {event : StoredEvent} {cost : ℚ} {calls : Int} (h : replay.Describes events)
    (hnew : event.eventId ∉ events.map StoredEvent.eventId)
    (hbody : event.body = .reservation cost calls) :
    outstandingOf (events ++ [event]) = outstandingOf events ++ [(event.eventId, cost, calls)] := by
  have hres : reservationOf? event = some (event.eventId, cost, calls) := by
    simp [reservationOf?, hbody]
  have hchg : chargeOf? event = none := by simp [chargeOf?, hbody]
  have hfree : event.eventId ∉ (chargesOf events).map Prod.fst := fun hmem =>
    hnew (mem_reservationsOf_eventId (h.chargedKnown _ hmem))
  unfold outstandingOf
  rw [reservationsOf_append, chargesOf_append, hres, hchg]
  simp only [Option.toList_some, Option.toList_none, List.append_nil, List.filter_append]
  rw [List.filter_cons_of_pos (by simpa using hfree), List.filter_nil]

theorem outstandingOf_append_charge {events : List StoredEvent} {replay : Replay}
    {event : StoredEvent} {reservationId : String} {cost : ℚ} {calls : Int} {amounts : ℚ × Int}
    (h : replay.Describes events) (hbody : event.body = .charge reservationId cost calls)
    (hmem : (reservationId, amounts) ∈ outstandingOf events) :
    ((outstandingOf (events ++ [event])).map (·.2.1)).sum + amounts.1 =
        ((outstandingOf events).map (·.2.1)).sum ∧
      ((outstandingOf (events ++ [event])).map (·.2.2)).sum + amounts.2 =
        ((outstandingOf events).map (·.2.2)).sum := by
  have hres : reservationOf? event = none := by simp [reservationOf?, hbody]
  have hchg : chargeOf? event = some (reservationId, cost, calls) := by
    simp [chargeOf?, hbody]
  obtain ⟨hentry, hopen⟩ := List.mem_filter.mp hmem
  have hopen : ¬ reservationId ∈ (chargesOf events).map Prod.fst := by simpa using hopen
  have heq : outstandingOf (events ++ [event]) = (reservationsOf events).filter
      (fun entry => ¬ (entry.1 = reservationId ∨ entry.1 ∈ (chargesOf events).map Prod.fst)) := by
    unfold outstandingOf
    rw [reservationsOf_append, chargesOf_append, hres, hchg]
    simp only [Option.toList_none, Option.toList_some, List.append_nil]
    apply List.filter_congr
    intro entry _
    have hiff : entry.1 ∈ (chargesOf events ++ [(reservationId, cost, calls)]).map Prod.fst ↔
        entry.1 = reservationId ∨ entry.1 ∈ (chargesOf events).map Prod.fst := by
      rw [List.map_append, List.mem_append, or_comm]
      simp
    simp only [hiff]
  rw [heq]
  exact ⟨Dict.sum_filter_close _ (reservationsOf_nodup h)
      (fun id => id ∈ (chargesOf events).map Prod.fst) (·.1) hentry hopen,
    Dict.sum_filter_close _ (reservationsOf_nodup h)
      (fun id => id ∈ (chargesOf events).map Prod.fst) (·.2) hentry hopen⟩

end JlensEvolve.Kernel
