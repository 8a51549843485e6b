import Mathlib.Data.List.Perm.Subperm
import JlensEvolve.SkillLoop.Feedback
import JlensEvolve.SkillLoop.ParentCallRuns

/-!
Any number of processes in `generate` on one ledger file. A process that has
found no record may still be given the reservation of another one. As long as
none is, a call goes to the transport once, the budget bounds the calls, and a
completed call is answered from its record.
-/

namespace JlensEvolve.SkillLoop

open Library Contracts ParentCallLedger

variable {ledger : ParentCallLedger} {records next : List ParentCallRecord} {calls : ParentCalls}
  {process : Nat} {call : ParentCall} {response : ParentModelResponse}

/-- The call has a record. -/
def Holds (records : List ParentCallRecord) (call : ParentCall) : Prop :=
  ∃ record ∈ records, record.callId = call.callId ∧ record.requestSha256 = call.request.sha256

/-- The call was completed with this response. -/
def Answered (records : List ParentCallRecord) (call : ParentCall)
    (response : ParentModelResponse) : Prop :=
  response.validate = .ok () ∧ ∃ record ∈ records, record.callId = call.callId ∧
    record.requestSha256 = call.request.sha256 ∧ record.status = .completed ∧
      record.response = response.toDict

theorem Holds.grows (h : Holds records call) (hgrows : Grows records next) : Holds next call := by
  obtain ⟨record, hrecord, hcall, hrequest⟩ := h
  obtain ⟨later, hlater, hsame, hagain⟩ := hgrows.kept record hrecord
  exact ⟨later, hlater, hsame.trans hcall, hagain.trans hrequest⟩

theorem Answered.grows (h : Answered records call response) (hgrows : Grows records next) :
    Answered next call response := by
  obtain ⟨hvalid, record, hrecord, hcall, hrequest, hcompleted, hresponse⟩ := h
  have hterminal : record.status ≠ .reserved := by
    rw [hcompleted]
    simp
  exact ⟨hvalid, record, hgrows.terminal record hrecord hterminal, hcall, hrequest, hcompleted,
    hresponse⟩

theorem Holds.mem (h : Holds records call) : call.callId ∈ callIds records := by
  obtain ⟨record, hrecord, hcall, -⟩ := h
  exact List.mem_map.mpr ⟨record, hrecord, hcall⟩

/-- What a process at this stage relies on; `sent` holds the calls that went to
the transport. -/
def CallStage.Fits (records : List ParentCallRecord) (sent : List String) : CallStage → Prop
  | .reserved call => Holds records call ∧ call.callId ∉ sent
  | .answered call response => Holds records call ∧ response.validate = .ok ()
  | _ => True

/-- The call that the process has reserved and not yet sent. -/
def CallStage.unsent : CallStage → Option String
  | .reserved call => some call.callId
  | _ => none

structure CallsSound (ledger : ParentCallLedger) (records : List ParentCallRecord)
    (calls : ParentCalls) : Prop where
  file : calls.file = ledger.write records
  lawful : ledger.Lawful records
  sent : calls.sent.Nodup
  recorded : ∀ callId ∈ calls.sent, callId ∈ callIds records
  fits : ∀ process, (calls.stage process).Fits records calls.sent
  apart : ∀ first second callId, (calls.stage first).unsent = some callId →
    (calls.stage second).unsent = some callId → first = second
  returned : ∀ entry ∈ calls.returned, Answered records entry.1 entry.2

theorem CallStage.Fits.grows {stage : CallStage} {sent : List String}
    (h : stage.Fits records sent) (hgrows : Grows records next) : stage.Fits next sent := by
  cases stage with
  | reserved call => exact ⟨h.1.grows hgrows, h.2⟩
  | answered call response => exact ⟨h.1.grows hgrows, h.2⟩
  | idle answer => trivial
  | looked call => trivial
  | failed call reason => trivial

theorem CallsSound.rewrite (h : CallsSound ledger records calls) (hgrows : Grows records next)
    (hlawful : ledger.Lawful next) : CallsSound ledger next (calls.writing (ledger.write next)) := by
  refine ⟨rfl, hlawful, h.sent, ?_, ?_, h.apart, ?_⟩
  · intro callId hsent
    obtain ⟨record, hrecord, hcall⟩ := List.mem_map.mp (h.recorded callId hsent)
    obtain ⟨later, hlater, hsame, -⟩ := hgrows.kept record hrecord
    exact List.mem_map.mpr ⟨later, hlater, hsame.trans hcall⟩
  · intro process
    exact (h.fits process).grows hgrows
  · intro entry hentry
    exact (h.returned entry hentry).grows hgrows

theorem CallsSound.returning (h : CallsSound ledger records calls)
    (hanswered : Answered records call response) :
    CallsSound ledger records (calls.returning call response) := by
  refine ⟨h.file, h.lawful, h.sent, h.recorded, h.fits, h.apart, ?_⟩
  intro entry hentry
  rcases List.mem_append.mp hentry with hold | hlast
  · exact h.returned entry hold
  · rw [List.mem_singleton.mp hlast]
    exact hanswered

theorem CallsSound.moved (h : CallsSound ledger records calls) (process : Nat) {stage : CallStage}
    (hfits : stage.Fits records calls.sent) (hunsent : stage.unsent = none) :
    CallsSound ledger records (calls.moved process stage) := by
  refine ⟨h.file, h.lawful, h.sent, h.recorded, ?_, ?_, h.returned⟩
  · intro other
    by_cases hsame : other = process
    · subst hsame
      simpa [ParentCalls.moved] using hfits
    · simpa [ParentCalls.moved, hsame] using h.fits other
  · intro first second callId hfirst hsecond
    by_cases hone : first = process
    · subst hone
      simp [ParentCalls.moved, hunsent] at hfirst
    · by_cases htwo : second = process
      · subst htwo
        simp [ParentCalls.moved, hunsent] at hsecond
      · simp only [ParentCalls.moved, Function.update_of_ne hone] at hfirst
        simp only [ParentCalls.moved, Function.update_of_ne htwo] at hsecond
        exact h.apart first second callId hfirst hsecond

theorem exists_some_map {α : Type} {x : Except String α} {answer : α}
    (h : some <$> x = .ok (some answer)) : x = .ok answer := by
  cases x with
  | error error => cases h
  | ok value =>
    cases h
    rfl

theorem answered_of_lookup (h : ledger.Lawful records) {now : Int}
    (hlookup : ledger.lookup now (ledger.write records) call = .ok (some response)) :
    Answered records call response := by
  simp only [lookup, get_eq h, except_bind_ok_iff, require_ok_iff, exists_const] at hlookup
  obtain ⟨-, -, -, -, -, -, -, found, hfound, hlookup⟩ := hlookup
  cases hfound
  split at hlookup
  · cases hlookup
  · next existing hexisting =>
    simp only [except_bind_ok_iff, require_ok_iff, exists_const] at hlookup
    obtain ⟨hrequest, hcompleted, hread⟩ := hlookup
    obtain ⟨hmem, hcall⟩ := find?_some hexisting
    obtain ⟨stored, hvalid, hresponse⟩ := h.replayable existing hmem hcompleted.1
    have hsame := exists_some_map hread
    rw [hresponse, ParentModelResponse.fromDict_toDict hvalid] at hsame
    cases hsame
    exact ⟨hvalid, existing, hmem, hcall, hrequest, hcompleted.1, hresponse⟩

theorem CallsSound.begin (h : CallsSound ledger records calls) (process : Nat) (now : Int)
    (call : ParentCall) : CallsSound ledger records (calls.begin ledger process now call) := by
  unfold ParentCalls.begin
  split
  · exact h.moved process trivial rfl
  · next response hlookup =>
    rw [h.file] at hlookup
    exact (h.returning (answered_of_lookup h.lawful hlookup)).moved process trivial rfl
  · exact h.moved process trivial rfl

/-- Nobody else has reserved the call for this request. -/
def Unreserved (ledger : ParentCallLedger) (file : Json) (call : ParentCall) : Prop :=
  ∀ record, ledger.get file call.callId = .ok (some record) →
    record.requestSha256 ≠ call.request.sha256

theorem CallsSound.reserve (h : CallsSound ledger records calls) (process : Nat) (now : Int)
    (hlooked : calls.stage process = .looked call) (hfree : Unreserved ledger calls.file call) :
    ∃ next, CallsSound ledger next (calls.reserve ledger process now call) ∧
      Grows records next := by
  unfold ParentCalls.reserve
  split
  · exact ⟨records, h.moved process trivial rfl, Grows.refl records⟩
  · next record file hreserve =>
    rw [h.file] at hreserve hfree
    rcases reserve_ok h.lawful hreserve with ⟨existing, hfound, hrequest, -⟩ | ⟨hnew, hlawful, rfl⟩
    · refine absurd hrequest (hfree existing ?_)
      rw [get_eq h.lawful, hfound]
    · have hgrows := grows_concat records (.reserving call.callId call.request.sha256)
      have hnext := h.rewrite hgrows hlawful
      refine ⟨_, ⟨hnext.file, hlawful, h.sent, hnext.recorded, ?_, ?_, hnext.returned⟩, hgrows⟩
      · intro other
        by_cases hsame : other = process
        · subst hsame
          have hunsent : call.callId ∉ calls.sent := fun hsent => hnew (h.recorded _ hsent)
          have hholds : Holds (records ++ [.reserving call.callId call.request.sha256]) call :=
            ⟨_, List.mem_append_right _ (List.mem_singleton_self _), rfl, rfl⟩
          simpa [ParentCalls.moved] using ⟨hholds, hunsent⟩
        · simpa [ParentCalls.moved, hsame] using hnext.fits other
      · have hapart : ∀ other, (calls.stage other).unsent ≠ some call.callId := by
          intro other hunsent
          have hfits := h.fits other
          cases hstage : calls.stage other with
          | reserved held =>
            rw [hstage] at hfits hunsent
            rw [← Option.some.inj hunsent] at hnew
            exact hnew hfits.1.mem
          | idle answer => simp [hstage, CallStage.unsent] at hunsent
          | looked held => simp [hstage, CallStage.unsent] at hunsent
          | answered held response => simp [hstage, CallStage.unsent] at hunsent
          | failed held reason => simp [hstage, CallStage.unsent] at hunsent
        intro first second callId hfirst hsecond
        by_cases hone : first = process
        · by_cases htwo : second = process
          · rw [hone, htwo]
          · subst hone
            simp only [ParentCalls.moved, Function.update_self, CallStage.unsent,
              Option.some.injEq] at hfirst
            simp only [ParentCalls.moved, Function.update_of_ne htwo] at hsecond
            subst hfirst
            exact absurd hsecond (hapart second)
        · simp only [ParentCalls.moved, Function.update_of_ne hone] at hfirst
          by_cases htwo : second = process
          · subst htwo
            simp only [ParentCalls.moved, Function.update_self, CallStage.unsent,
              Option.some.injEq] at hsecond
            subst hsecond
            exact absurd hfirst (hapart first)
          · simp only [ParentCalls.moved, Function.update_of_ne htwo] at hsecond
            exact h.apart first second callId hfirst hsecond

theorem CallsSound.send (h : CallsSound ledger records calls)
    (hreserved : calls.stage process = .reserved call) (outcome : Except String Json) :
    CallsSound ledger records (calls.send process call outcome) := by
  have hheld := h.fits process
  rw [hreserved] at hheld
  have hsending : CallsSound ledger records ((calls.moved process (.idle none)).sending call.callId) := by
    have hidle : CallsSound ledger records (calls.moved process (.idle none)) :=
      h.moved process trivial rfl
    refine ⟨h.file, h.lawful, ?_, ?_, ?_, hidle.apart, h.returned⟩
    · change (calls.sent ++ [call.callId]).Nodup
      rw [List.nodup_append]
      refine ⟨h.sent, List.nodup_singleton _, ?_⟩
      intro first hfirst second hsecond hsame
      rw [List.mem_singleton.mp hsecond] at hsame
      exact hheld.2 (hsame ▸ hfirst)
    · intro callId hsent
      rcases List.mem_append.mp hsent with hold | hlast
      · exact h.recorded callId hold
      · rw [List.mem_singleton.mp hlast]
        exact hheld.1.mem
    · intro other
      by_cases hsame : other = process
      · subst hsame
        simp [ParentCalls.moved, ParentCalls.sending, CallStage.Fits]
      · have hother := h.fits other
        simp only [ParentCalls.moved, ParentCalls.sending, Function.update_of_ne hsame]
        cases hstage : calls.stage other with
        | reserved held =>
          rw [hstage] at hother
          refine ⟨hother.1, ?_⟩
          intro hsent
          rcases List.mem_append.mp hsent with hold | hlast
          · exact hother.2 hold
          · refine hsame (h.apart other process call.callId ?_ ?_)
            · rw [hstage, CallStage.unsent, List.mem_singleton.mp hlast]
            · rw [hreserved, CallStage.unsent]
        | idle answer => trivial
        | looked held => trivial
        | answered held response =>
          rw [hstage] at hother
          exact hother
        | failed held reason => trivial
  have hsame : calls.send process call outcome =
      ((calls.moved process (.idle none)).sending call.callId).moved process
        (CallStage.heard call outcome) := by
    simp [ParentCalls.send, ParentCalls.moved, ParentCalls.sending]
  rw [hsame]
  cases outcome with
  | error text => exact hsending.moved process trivial rfl
  | ok raw =>
    cases hread : ParentModelResponse.fromDict raw with
    | error text =>
      rw [CallStage.heard, hread]
      exact hsending.moved process trivial rfl
    | ok response =>
      rw [CallStage.heard, hread]
      exact hsending.moved process
        ⟨hheld.1, ParentModelResponse.valid_of_fromDict hread⟩ rfl

theorem CallsSound.complete (h : CallsSound ledger records calls)
    (hanswered : calls.stage process = .answered call response) :
    ∃ next, CallsSound ledger next (calls.complete ledger process call response) ∧
      Grows records next := by
  have hheld := h.fits process
  rw [hanswered] at hheld
  unfold ParentCalls.complete
  split
  · exact ⟨records, h.moved process trivial rfl, Grows.refl records⟩
  · next record file hcomplete =>
    rw [h.file] at hcomplete
    obtain ⟨hcall, hcompleted, hresponse, index, hsettles, rfl⟩ :=
      complete_ok h.lawful hheld.2 hcomplete
    have hlawful := hsettles.lawful h.lawful
    have hrequest : record.requestSha256 = call.request.sha256 := by
      obtain ⟨later, hlater, hsame, hagain⟩ := hheld.1.grows hsettles.grows
      rw [← hagain]
      exact congrArg ParentCallRecord.requestSha256
        (List.inj_on_of_nodup_map hlawful.nodup hsettles.mem hlater (hcall.trans hsame.symm))
    have hreturned : Answered (records.set index record) call response :=
      ⟨hheld.2, record, hsettles.mem, hcall, hrequest, hcompleted, hresponse⟩
    exact ⟨_, ((h.rewrite hsettles.grows hlawful).returning hreturned).moved process trivial rfl,
      hsettles.grows⟩

theorem CallsSound.abort (h : CallsSound ledger records calls) (process : Nat) (call : ParentCall)
    (reason : String) :
    ∃ next, CallsSound ledger next (calls.abort ledger process call reason) ∧
      Grows records next := by
  unfold ParentCalls.abort
  split
  · exact ⟨records, h.moved process trivial rfl, Grows.refl records⟩
  · next record file habort =>
    rw [h.file] at habort
    rcases abort_ok h.lawful habort with rfl | ⟨index, settled, hsettles, rfl⟩
    · exact ⟨records, (h.rewrite (Grows.refl records) h.lawful).moved process trivial rfl,
        Grows.refl records⟩
    · exact ⟨_, (h.rewrite hsettles.grows (hsettles.lawful h.lawful)).moved process trivial rfl,
        hsettles.grows⟩

/-- No process is given the reservation of another one. -/
def ReservesItsOwn (ledger : ParentCallLedger) (calls : ParentCalls) (event : CallEvent) : Prop :=
  ∀ now call, event.input = .reserve now → calls.stage event.process = .looked call →
    Unreserved ledger calls.file call

theorem CallsSound.step (h : CallsSound ledger records calls) {event : CallEvent}
    (hown : ReservesItsOwn ledger calls event) :
    ∃ next, CallsSound ledger next (calls.step ledger event) ∧ Grows records next := by
  have hrefl := Grows.refl records
  unfold ParentCalls.step
  split
  · exact ⟨records, h.begin _ _ _, hrefl⟩
  · next now call hinput hstage => exact h.reserve _ _ hstage (hown now call hinput hstage)
  · next outcome call hinput hstage => exact ⟨records, h.send hstage outcome, hrefl⟩
  · next call response hinput hstage => exact h.complete hstage
  · next call reason hinput hstage => exact h.abort _ _ _
  · exact ⟨records, h.moved _ trivial rfl, hrefl⟩
  · exact ⟨records, h, hrefl⟩

theorem CallsSound.run (h : CallsSound ledger records calls) {events : List CallEvent}
    (hown : Guarded (ReservesItsOwn ledger) (ParentCalls.step ledger) calls events) :
    ∃ next, CallsSound ledger next (Library.run (ParentCalls.step ledger) calls events) ∧
      Grows records next := by
  induction events generalizing calls records with
  | nil => exact ⟨records, h, Grows.refl records⟩
  | cons event rest ih =>
    obtain ⟨middle, hmiddle, hgrows⟩ := h.step hown.1
    obtain ⟨next, hnext, hagain⟩ := ih hmiddle hown.2
    exact ⟨next, hnext, hgrows.trans hagain⟩

/-- The checks before the ledger is read. -/
structure Accepts (ledger : ParentCallLedger) (now : Int) (call : ParentCall) : Prop where
  request : call.request.validate = .ok ()
  authorization : call.authorization.validate ledger.fromisoformat = .ok ()
  active : call.authorization.assertActive ledger.fromisoformat now = .ok ()
  same : call.authorization.same ledger.fromisoformat ledger.authorization

/-- The file can be loaded, no call went to the transport twice, the ceiling
holds, and a call that has returned returns the same again. -/
structure CallsKept (ledger : ParentCallLedger) (calls : ParentCalls) : Prop where
  loadable : ∃ records, ledger.load calls.file = .ok (ledger.authorization, records)
  once : calls.sent.Nodup
  bounded : (calls.sent.length : Int) ≤ ledger.authorization.maximumParentCalls
  replayed : ∀ entry ∈ calls.returned, ∀ now call, call.callId = entry.1.callId →
    call.request.sha256 = entry.1.request.sha256 → Accepts ledger now call →
      ledger.lookup now calls.file call = .ok (some entry.2)
  same : ∀ first ∈ calls.returned, ∀ second ∈ calls.returned,
    first.1.callId = second.1.callId → first.2 = second.2

/-- The records of a file; one that cannot be loaded has none. -/
def ParentCallLedger.stored (ledger : ParentCallLedger) (file : Json) : List ParentCallRecord :=
  match ledger.load file with
  | .ok state => state.2
  | .error _ => []

theorem lookup_eq (h : ledger.Lawful records) {now : Int} (haccepts : Accepts ledger now call)
    (answer : Option ParentModelResponse) :
    ledger.lookup now (ledger.write records) call = .ok answer ↔
      (match find? records call.callId with
      | none => pure none
      | some existing => do
          require (existing.requestSha256 = call.request.sha256)
            "call_id already belongs to a different request"
          require (existing.status = .completed ∧ existing.response ≠ .null)
            "parent call was already reserved and cannot be dispatched again"
          some <$> ParentModelResponse.fromDict existing.response : Except String _) = .ok answer := by
  have hactive := haccepts.active
  simp only [lookup, get_eq h, except_bind_ok_iff, require_ok_iff, exists_const]
  constructor
  · intro hlookup
    obtain ⟨_, -, _, -, _, -, -, found, hfound, hlookup⟩ := hlookup
    cases hfound
    exact hlookup
  · intro hfound
    exact ⟨(), haccepts.request, (), haccepts.authorization, (), hactive, haccepts.same, _, rfl,
      hfound⟩

theorem find?_eq_some (h : ledger.Lawful records) {record : ParentCallRecord}
    (hmem : record ∈ records) : find? records record.callId = some record := by
  cases hfound : find? records record.callId with
  | none => exact absurd (List.mem_map_of_mem hmem) (find?_none_iff.mp hfound)
  | some other =>
    obtain ⟨hother, hcall⟩ := find?_some hfound
    rw [List.inj_on_of_nodup_map h.nodup hother hmem hcall]

theorem lookup_of_answered (h : ledger.Lawful records) {now : Int} {repeated : ParentCall}
    (hanswered : Answered records call response) (hcall : repeated.callId = call.callId)
    (hrequest : repeated.request.sha256 = call.request.sha256)
    (haccepts : Accepts ledger now repeated) :
    ledger.lookup now (ledger.write records) repeated = .ok (some response) := by
  obtain ⟨hvalid, record, hrecord, hid, hsha, hcompleted, hresponse⟩ := hanswered
  rw [lookup_eq h haccepts, hcall, ← hid, find?_eq_some h hrecord]
  have hread := ParentModelResponse.fromDict_toDict hvalid
  have hobject : record.response ≠ .null := by
    rw [hresponse]
    simp [ParentModelResponse.toDict]
  simp only [except_bind_ok_iff, require_ok_iff, exists_const]
  refine ⟨hsha.trans hrequest.symm, ⟨hcompleted, hobject⟩, ?_⟩
  rw [hresponse, hread]
  rfl

theorem CallsSound.kept (h : CallsSound ledger records calls) : CallsKept ledger calls := by
  refine ⟨⟨records, ?_⟩, h.sent, ?_, ?_, ?_⟩
  · rw [h.file]
    exact load_write h.lawful
  · have hsubset : calls.sent.length ≤ (callIds records).length :=
      (List.subperm_of_subset h.sent fun callId hsent => h.recorded callId hsent).length_le
    have hbudget := h.lawful.budget
    rw [callIds, List.length_map] at hsubset
    omega
  · intro entry hentry now call hcall hrequest haccepts
    rw [h.file]
    exact lookup_of_answered h.lawful (h.returned entry hentry) hcall hrequest haccepts
  · intro first hfirst second hsecond hcall
    obtain ⟨hvalid, record, hrecord, hid, -, -, hresponse⟩ := h.returned first hfirst
    obtain ⟨hagain, other, hother, hsame, -, -, hrepeated⟩ := h.returned second hsecond
    have hrecords : record = other :=
      List.inj_on_of_nodup_map h.lawful.nodup hrecord hother (hid.trans (hcall.trans hsame.symm))
    have hread := ParentModelResponse.fromDict_toDict hvalid
    rw [← hresponse, hrecords, hrepeated, ParentModelResponse.fromDict_toDict hagain] at hread
    exact (Except.ok.inj hread).symm

section Race

end Race

end JlensEvolve.SkillLoop
