import JlensEvolve.SkillLoop.ParentCalls

/-!
Processes that call the parent model through one ledger. `reserve` returns the
record of another process where that has the same request; as long as this does
not happen no call goes to the transport twice.
-/

namespace JlensEvolve.SkillLoop

open Library Contracts

theorem LoopAuthorization.fromDict_toDict {fromisoformat : Fromisoformat}
    {authorization : LoopAuthorization} (h : authorization.validate fromisoformat = .ok ()) :
    fromDict fromisoformat authorization.toDict = .ok authorization := by
  have hvalid := h
  simp only [validate, except_bind_ok_iff, require_ok_iff, exists_const] at h
  obtain ⟨-, -, -, -, -, -, hexpiry⟩ := h
  have hread : (fromisoformat authorization.expiresAt).isSome = true := by
    rw [expiry?] at hexpiry
    cases hvalue : fromisoformat authorization.expiresAt with
    | none =>
      rw [hvalue] at hexpiry
      cases hexpiry
    | some value => rfl
  have hcalls : payloadGet [("schema_version", authorization.schemaVersion),
      ("authorization_id", .str authorization.authorizationId),
      ("approved_by", .str authorization.approvedBy),
      ("maximum_parent_calls", .int authorization.maximumParentCalls),
      ("expires_at", .str authorization.expiresAt)] "maximum_parent_calls" =
        .int authorization.maximumParentCalls := rfl
  unfold toDict fromDict
  simp only [hcalls, except_bind_ok_iff, require_ok_iff, exists_const]
  exact ⟨fun _ => Iff.rfl, hread, (), hvalid, rfl⟩

theorem ParentCallRecord.fromDict_toDict {record : ParentCallRecord}
    (h : record.validate = .ok ()) : fromDict record.toDict = .ok record := by
  have husage : pyDict (payloadGet [("call_id", .str record.callId),
      ("request_sha256", .str record.requestSha256), ("status", .str record.status.text),
      ("response_sha256", record.responseSha256), ("response", record.response),
      ("usage", .obj record.usage), ("error", record.error)] "usage") = some record.usage := rfl
  have hstatus : ParentCallStatus.ofText? (pyStr (payloadGet [("call_id", .str record.callId),
      ("request_sha256", .str record.requestSha256), ("status", .str record.status.text),
      ("response_sha256", record.responseSha256), ("response", record.response),
      ("usage", .obj record.usage), ("error", record.error)] "status")) = some record.status :=
    ParentCallStatus.ofText?_text record.status
  unfold toDict fromDict
  simp only [husage, hstatus, except_bind_ok_iff, require_ok_iff, exists_const]
  exact ⟨fun _ => Iff.rfl, (), h, rfl⟩

theorem ParentModelResponse.fromDict_toDict {response : ParentModelResponse}
    (h : response.validate = .ok ()) : fromDict response.toDict = .ok response := by
  have husage : pyDict (payloadGet [("schema_version", response.schemaVersion),
      ("protocol", .str response.protocol), ("skill_text", .str response.skillText),
      ("prompt_template", .str response.promptTemplate), ("eval_note", .str response.evalNote),
      ("usage", .obj response.usage)] "usage") = some response.usage := rfl
  unfold toDict fromDict
  simp only [husage, except_bind_ok_iff, require_ok_iff, exists_const]
  exact ⟨fun _ => Iff.rfl, (), h, rfl⟩

theorem ParentModelResponse.valid_of_fromDict {raw : Json} {response : ParentModelResponse}
    (h : fromDict raw = .ok response) : response.validate = .ok () := by
  cases raw with
  | obj fields =>
    simp only [fromDict, except_bind_ok_iff, require_ok_iff, exists_const] at h
    obtain ⟨-, h⟩ := h
    split at h
    · simp only [except_bind_ok_iff] at h
      obtain ⟨_, hvalid, h⟩ := h
      cases h
      exact hvalid
    · cases h
  | null => cases h
  | bool value => cases h
  | int value => cases h
  | float value => cases h
  | str value => cases h
  | arr items => cases h

variable {ledger : ParentCallLedger} {records : List ParentCallRecord}

namespace ParentCallLedger

/-- The records that one ledger file can hold. -/
structure Lawful (ledger : ParentCallLedger) (records : List ParentCallRecord) : Prop where
  valid : ∀ record ∈ records, record.validate = .ok ()
  nodup : (records.map ParentCallRecord.callId).Nodup
  budget : (records.length : Int) ≤ ledger.authorization.maximumParentCalls
  replayable : ∀ record ∈ records, record.status = .completed →
    ∃ response : ParentModelResponse, response.validate = .ok () ∧
      record.response = response.toDict

theorem load_write (h : ledger.Lawful records) :
    ledger.load (ledger.write records) = .ok (ledger.authorization, records) := by
  have hkeys : hasKeys (ledger.content records ++
      [("state_sha256", .str (Json.obj (ledger.content records)).contentSha256)]) stateFields :=
    fun _ => Iff.rfl
  have hcontent : (ledger.content records ++
      [("state_sha256", Json.str (Json.obj (ledger.content records)).contentSha256)]).filter
        (fun field => field.1 ≠ "state_sha256") = ledger.content records := by
    simp [content]
  have hrecords : payloadGet (ledger.content records ++
      [("state_sha256", .str (Json.obj (ledger.content records)).contentSha256)]) "records" =
        .arr (records.map ParentCallRecord.toDict) := rfl
  have hread : (records.map ParentCallRecord.toDict).mapM ParentCallRecord.fromDict =
      .ok records :=
    mapM_decode_encode fun record hrecord => ParentCallRecord.fromDict_toDict (h.valid record hrecord)
  unfold write load
  simp only [hcontent, hrecords, except_bind_ok_iff, require_ok_iff, exists_const]
  exact ⟨hkeys, rfl, Json.pyEq_self _, ledger.authorization,
    LoopAuthorization.fromDict_toDict ledger.valid, records, hread, h.nodup, rfl⟩

/-- The records keep their calls, and the terminal ones stay as they are. -/
structure Grows (records next : List ParentCallRecord) : Prop where
  kept : ∀ record ∈ records, ∃ later ∈ next,
    later.callId = record.callId ∧ later.requestSha256 = record.requestSha256
  terminal : ∀ record ∈ records, record.status ≠ .reserved → record ∈ next

theorem Grows.refl (records : List ParentCallRecord) : Grows records records :=
  ⟨fun record hrecord => ⟨record, hrecord, rfl, rfl⟩, fun _ hrecord _ => hrecord⟩

theorem Grows.trans {first second third : List ParentCallRecord} (h : Grows first second)
    (hnext : Grows second third) : Grows first third := by
  refine ⟨?_, ?_⟩
  · intro record hrecord
    obtain ⟨middle, hmiddle, hcall, hrequest⟩ := h.kept record hrecord
    obtain ⟨later, hlater, hsame, hagain⟩ := hnext.kept middle hmiddle
    exact ⟨later, hlater, hsame.trans hcall, hagain.trans hrequest⟩
  · intro record hrecord hterminal
    exact hnext.terminal record (h.terminal record hrecord hterminal) hterminal

theorem grows_concat (records : List ParentCallRecord) (record : ParentCallRecord) :
    Grows records (records ++ [record]) :=
  ⟨fun other hother => ⟨other, List.mem_append_left _ hother, rfl, rfl⟩,
    fun _ hother _ => List.mem_append_left _ hother⟩

def callIds (records : List ParentCallRecord) : List String :=
  records.map ParentCallRecord.callId

theorem Lawful.concat (h : ledger.Lawful records) {callId requestSha256 : String}
    (hnew : callId ∉ callIds records)
    (hbudget : (records.length : Int) < ledger.authorization.maximumParentCalls)
    (hvalid : (ParentCallRecord.reserving callId requestSha256).validate = .ok ()) :
    ledger.Lawful (records ++ [.reserving callId requestSha256]) := by
  refine ⟨?_, ?_, ?_, ?_⟩
  · intro record hrecord
    rcases List.mem_append.mp hrecord with hold | hlast
    · exact h.valid record hold
    · rw [List.mem_singleton.mp hlast]
      exact hvalid
  · rw [List.map_append, List.map_singleton, List.nodup_append]
    refine ⟨h.nodup, List.nodup_singleton _, ?_⟩
    intro first hfirst second hsecond hsame
    rw [List.mem_singleton.mp hsecond] at hsame
    obtain rfl : first = callId := hsame
    exact hnew hfirst
  · rw [List.length_append, List.length_singleton]
    omega
  · intro record hrecord hcompleted
    rcases List.mem_append.mp hrecord with hold | hlast
    · exact h.replayable record hold hcompleted
    · rw [List.mem_singleton.mp hlast] at hcompleted
      cases hcompleted

/-- A reserved record becomes another record of its call. -/
structure Settles (records : List ParentCallRecord) (index : Nat) (next : ParentCallRecord) :
    Prop where
  valid : next.validate = .ok ()
  terminal : next.status ≠ .reserved
  found : ∃ current, records[index]? = some current ∧ current.status = .reserved ∧
    next.callId = current.callId ∧ next.requestSha256 = current.requestSha256
  replayable : next.status = .completed → ∃ response : ParentModelResponse,
    response.validate = .ok () ∧ next.response = response.toDict

variable {index : Nat} {next : ParentCallRecord}

theorem Settles.mem (h : Settles records index next) : next ∈ records.set index next := by
  obtain ⟨current, hcurrent, -⟩ := h.found
  exact List.mem_set (List.getElem?_eq_some_iff.mp hcurrent).1 next

theorem Settles.lawful (h : Settles records index next) (hlawful : ledger.Lawful records) :
    ledger.Lawful (records.set index next) := by
  obtain ⟨current, hcurrent, -, hcall, -⟩ := h.found
  refine ⟨?_, ?_, ?_, ?_⟩
  · intro record hrecord
    rcases List.mem_or_eq_of_mem_set hrecord with hold | rfl
    · exact hlawful.valid record hold
    · exact h.valid
  · have hsame : (records.map ParentCallRecord.callId)[index]? = some next.callId := by
      rw [List.getElem?_map, hcurrent, hcall]
      rfl
    obtain ⟨hlt, hvalue⟩ := List.getElem?_eq_some_iff.mp hsame
    rw [List.map_set, ← hvalue, List.set_getElem_self]
    exact hlawful.nodup
  · rw [List.length_set]
    exact hlawful.budget
  · intro record hrecord hcompleted
    rcases List.mem_or_eq_of_mem_set hrecord with hold | rfl
    · exact hlawful.replayable record hold hcompleted
    · exact h.replayable hcompleted

theorem Settles.grows (h : Settles records index next) :
    Grows records (records.set index next) := by
  obtain ⟨current, hcurrent, hreserved, hcall, hrequest⟩ := h.found
  have hothers : ∀ record ∈ records, record ≠ current → record ∈ records.set index next := by
    intro record hrecord hne
    obtain ⟨other, hother⟩ := List.mem_iff_getElem?.mp hrecord
    have hindex : index ≠ other := by
      intro hsame
      subst hsame
      exact hne (Option.some.inj (hother.symm.trans hcurrent))
    refine List.mem_iff_getElem?.mpr ⟨other, ?_⟩
    rw [List.getElem?_set_ne hindex]
    exact hother
  refine ⟨?_, ?_⟩
  · intro record hrecord
    by_cases hsame : record = current
    · subst hsame
      exact ⟨next, h.mem, hcall, hrequest⟩
    · exact ⟨record, hothers record hrecord hsame, rfl, rfl⟩
  · intro record hrecord hterminal
    refine hothers record hrecord ?_
    intro hsame
    subst hsame
    exact hterminal hreserved

theorem find?_some {callId : String} {record : ParentCallRecord}
    (h : find? records callId = some record) : record ∈ records ∧ record.callId = callId := by
  have hmem := List.mem_of_find?_eq_some h
  have hsame := List.find?_some h
  exact ⟨hmem, of_decide_eq_true hsame⟩

theorem find?_none_iff {callId : String} :
    find? records callId = none ↔ callId ∉ callIds records := by
  simp [find?, callIds, List.find?_eq_none]

theorem get_eq (h : ledger.Lawful records) (callId : String) :
    ledger.get (ledger.write records) callId = .ok (find? records callId) := by
  rw [get, load_write h]
  rfl

theorem reserve_ok (h : ledger.Lawful records) {now : Int} {callId requestSha256 : String}
    {record : ParentCallRecord} {file : Json}
    (hreserve : ledger.reserve now (ledger.write records) callId requestSha256 =
      .ok (record, file)) :
    (∃ existing, find? records callId = some existing ∧ existing.requestSha256 = requestSha256 ∧
        file = ledger.write records) ∨
      callId ∉ callIds records ∧ ledger.Lawful (records ++ [.reserving callId requestSha256]) ∧
        file = ledger.write (records ++ [.reserving callId requestSha256]) := by
  simp only [reserve, load_write h, except_bind_ok_iff] at hreserve
  obtain ⟨-, -, state, hstate, hreserve⟩ := hreserve
  cases hstate
  cases hfound : find? records callId with
  | some existing =>
    simp only [hfound, except_bind_ok_iff, require_ok_iff, exists_const] at hreserve
    obtain ⟨hrequest, hreserve⟩ := hreserve
    cases hreserve
    exact Or.inl ⟨_, rfl, hrequest, rfl⟩
  | none =>
    simp only [hfound, except_bind_ok_iff, require_ok_iff, exists_const] at hreserve
    obtain ⟨hbudget, _, hvalid, hreserve⟩ := hreserve
    cases hreserve
    have hnew := find?_none_iff.mp hfound
    exact Or.inr ⟨hnew, h.concat hnew hbudget hvalid, rfl⟩

theorem requiredRecord_ok {callId : String} {current : ParentCallRecord}
    (h : requiredRecord records callId = .ok (current, index)) :
    records[index]? = some current ∧ current.callId = callId := by
  rw [requiredRecord] at h
  split at h
  · next entry hfound =>
    cases h
    have hcall := List.find?_some hfound
    exact ⟨List.mem_zipIdx_iff_getElem?.mp (List.mem_of_find?_eq_some hfound),
      of_decide_eq_true hcall⟩
  · cases h

theorem complete_ok (h : ledger.Lawful records) {callId : String} {response : ParentModelResponse}
    (hresponse : response.validate = .ok ()) {record : ParentCallRecord} {file : Json}
    (hcomplete : ledger.complete (ledger.write records) callId response.sha256 response.toDict
      response.usage = .ok (record, file)) :
    record.callId = callId ∧ record.status = .completed ∧ record.response = response.toDict ∧
      ∃ index, Settles records index record ∧ file = ledger.write (records.set index record) := by
  simp only [complete, load_write h, except_bind_ok_iff, require_ok_iff, exists_const] at hcomplete
  obtain ⟨state, hstate, found, hfound, hreserved, -, _, hvalid, hcomplete⟩ := hcomplete
  cases hstate
  cases hcomplete
  obtain ⟨current, index⟩ := found
  obtain ⟨hcurrent, hcall⟩ := requiredRecord_ok hfound
  refine ⟨hcall, rfl, rfl, index, ⟨hvalid, by simp [ParentCallRecord.completing],
    ⟨current, hcurrent, hreserved, rfl, rfl⟩, ?_⟩, rfl⟩
  intro _
  exact ⟨response, hresponse, rfl⟩

theorem abort_ok (h : ledger.Lawful records) {callId reason : String} {record : ParentCallRecord}
    {file : Json} (habort : ledger.abort (ledger.write records) callId reason = .ok (record, file)) :
    file = ledger.write records ∨
      ∃ index next, Settles records index next ∧ file = ledger.write (records.set index next) := by
  simp only [abort, load_write h, except_bind_ok_iff, require_ok_iff, exists_const] at habort
  obtain ⟨-, state, hstate, found, hfound, habort⟩ := habort
  cases hstate
  obtain ⟨current, index⟩ := found
  obtain ⟨hcurrent, hcall⟩ := requiredRecord_ok hfound
  split at habort
  · cases habort
    exact Or.inl rfl
  · simp only [except_bind_ok_iff, require_ok_iff, exists_const] at habort
    obtain ⟨hreserved, _, hvalid, habort⟩ := habort
    cases habort
    refine Or.inr ⟨index, current.aborting reason, ⟨hvalid, by simp [ParentCallRecord.aborting],
      ⟨current, hcurrent, hreserved, rfl, rfl⟩, ?_⟩, rfl⟩
    intro hcompleted
    cases hcompleted

end ParentCallLedger

end JlensEvolve.SkillLoop
