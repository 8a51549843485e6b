import JlensEvolve.Evolution.ControllerRuns

/-!
What a crash inside `_persist` leaves: STATE.json is replaced whole, and after
it STATE.sha256 is truncated and written. The constructor asks that the digest
file holds the digest of the state file.
-/

namespace JlensEvolve.Evolution

open Library ControllerOutcome

def optionJson {α : Type} (toJson : α → Json) : Option α → Json
  | some value => toJson value
  | none => .null

/-- A list that is only written where it is not empty. -/
def listField {α : Type} (name : String) (toJson : α → Json) : List α → List (String × Json)
  | [] => []
  | items => [(name, .arr (items.map toJson))]

def dictJson {ν : Type} (toJson : ν → Json) (d : Dict String ν) : Json :=
  .obj (d.entries.map fun entry => (entry.1, toJson entry.2))

def TaskState.toJson (task : TaskState) : Json :=
  .obj [("state", .str task.state.name), ("claim", optionJson .str task.claim)]

def StageClaim.toJson (claim : StageClaim) : Json :=
  .obj [("generation", .int claim.generation), ("stage", .str claim.stage),
    ("task_uids", .arr (claim.taskUids.map .str)),
    ("arm_sha256s", .arr (claim.armSha256s.map .str)),
    ("matched_arm_count", .int claim.matchedArmCount), ("status", .str claim.status.name)]

def AuditedAbort.toJson (abort : AuditedAbort) : Json :=
  .obj [("evidence_sha256", .str abort.evidenceSha256), ("reason_code", .str abort.reasonCode),
    ("reservation_count", .int abort.reservationCount)]

def QuarantineEntry.toJson (entry : QuarantineEntry) : Json :=
  .obj [("generation", .int entry.generation), ("stage", .str entry.stage),
    ("task_uid", .str entry.taskUid), ("arm_sha256", .str entry.armSha256),
    ("evidence_sha256", .str entry.evidenceSha256), ("reason_code", .str entry.reasonCode),
    ("incident_sha256", .str entry.incidentSha256)]

def CallReservation.toJson (reservation : CallReservation) : Json :=
  .obj ([("generation", .int reservation.generation), ("stage", .str reservation.stage),
      ("task_uid", .str reservation.taskUid), ("arm_sha256", .str reservation.armSha256),
      ("status", .str reservation.status.name),
      ("evidence_sha256", optionJson .str reservation.evidenceSha256),
      ("reservation_count", .int reservation.reservationCount),
      ("pre_dispatch_aborts", .arr (reservation.preDispatchAborts.map AuditedAbort.toJson))] ++
    listField "infrastructure_aborts" AuditedAbort.toJson reservation.infrastructureAborts ++
    listField "non_dispatch_aborts" AuditedAbort.toJson reservation.nonDispatchAborts ++
    listField "completed_evidence_quarantines" QuarantineEntry.toJson
      reservation.completedEvidenceQuarantines)

def ArmEvidence.toJson (evidence : ArmEvidence) : Json :=
  .obj [("generation", .int evidence.generation), ("stage", .str evidence.stage),
    ("task_uid", .str evidence.taskUid), ("arm_sha256", .str evidence.armSha256),
    ("evidence_sha256", .str evidence.evidenceSha256),
    ("native_evaluator_epoch", .str evidence.nativeEvaluatorEpoch),
    ("real_codex_calls", .int evidence.realCodexCalls)]

def AuxiliaryAbort.toJson (abort : AuxiliaryAbort) : Json :=
  .obj ([("evidence_sha256", .str abort.evidenceSha256), ("reason_code", .str abort.reasonCode)] ++
    (abort.previousEvidenceSha256.toList.map fun previous =>
      ("previous_evidence_sha256", optionJson .str previous)) ++
    [("reservation_count", .int abort.reservationCount)])

def AuxiliaryReservation.toJson (reservation : AuxiliaryReservation) : Json :=
  .obj [("reservation_id", .str reservation.reservationId), ("kind", .str reservation.kind),
    ("status", .str reservation.status.name),
    ("evidence_sha256", optionJson .str reservation.evidenceSha256),
    ("aborts", .arr (reservation.aborts.map AuxiliaryAbort.toJson)),
    ("reservation_count", .int reservation.reservationCount)]

def ControllerUsage.toJson (usage : ControllerUsage) : Json :=
  .obj [("real_codex_calls", .int usage.realCodexCalls),
    ("agent_task_calls", .int usage.agentTaskCalls), ("auxiliary_calls", .int usage.auxiliaryCalls),
    ("cloud_instance_ids", .arr (usage.cloudInstanceIds.map .str)),
    ("elapsed_hours", .float usage.elapsedHours), ("cloud_cost_cny", .float usage.cloudCostCny)]

def ParentRecord.toJson (record : ParentRecord) : Json :=
  .obj [("generation", .int record.generation),
    ("previous_parent_sha256", .str record.previousParentSha256),
    ("search_parent_sha256", .str record.searchParentSha256),
    ("decision_sha256", .str record.decisionSha256), ("advance", .bool record.advance),
    ("scope", .str "experimental_search_lineage_only"), ("production_promoted", .bool false)]

namespace ControllerState

variable (state : ControllerState)

def toJson : Json :=
  .obj ([("schema_version", .int 1), ("plan", state.plan.toDict),
      ("authorization", state.authorization.toDict),
      ("original_agent_program_sha256", .str state.originalAgentProgramSha256),
      ("seed_parent_agent_program_sha256", .str state.seedParentAgentProgramSha256),
      ("search_parent_sha256", .str state.searchParentSha256),
      ("native_evaluator_epoch", .str state.nativeEvaluatorEpoch),
      ("task_states", dictJson TaskState.toJson state.taskStates),
      ("claims", dictJson StageClaim.toJson state.claims),
      ("arm_evidence", dictJson ArmEvidence.toJson state.armEvidence),
      ("call_reservations", dictJson CallReservation.toJson state.callReservations),
      ("auxiliary_call_reservations",
        dictJson AuxiliaryReservation.toJson state.auxiliaryCallReservations),
      ("usage", state.usage.toJson),
      ("parent_history", .arr (state.parentHistory.map ParentRecord.toJson)),
      ("final_sealed_opened", .bool false), ("production_active_ref", .null),
      ("external_actions", .int state.externalActions)] ++
    state.quarantinedArmEvidence.toList.map fun entries =>
      ("quarantined_arm_evidence", .arr (entries.map QuarantineEntry.toJson)))

def digest : String := state.toJson.contentSha256

end ControllerState

/-- `value.strip()`. -/
def strip (value : String) : String :=
  String.ofList ((value.toList.dropWhile Contracts.isSpace).reverse.dropWhile
    Contracts.isSpace).reverse

/-- STATE.json, which is only ever replaced, and the text of STATE.sha256. -/
structure ControllerFiles where
  state : Option ControllerState
  digest : Option String

namespace ControllerFiles

/-- The constructor. -/
def load (files : ControllerFiles) : Except ControllerError ControllerState :=
  match files.state, files.digest with
  | some state, some digest => do
      require (strip digest = state.digest) (.contract "controller state hash mismatch")
      let _ ← EvolutionPlan.fromDict state.plan
      pure state
  | _, _ => .error (.contract "controller state does not exist")

def digestLine (state : ControllerState) : String := state.digest ++ "\n"

/-- What `_persist` leaves when it returns. -/
def ofState (state : ControllerState) : ControllerFiles := ⟨some state, some (digestLine state)⟩

/-- Where `_persist` may be cut off after it replaced STATE.json. -/
inductive PersistCrash where
  | beforeTruncation
  /-- The first characters of the digest line have been written. -/
  | writing (written : Nat)

def cutOff (files : ControllerFiles) (state : ControllerState) : PersistCrash → ControllerFiles
  | .beforeTruncation => { files with state := some state }
  | .writing written => ⟨some state, some (String.ofList ((digestLine state).toList.take written))⟩

/-- A new controller on what is left has the state before or after. -/
def Recovers (files : ControllerFiles) (state : ControllerState) (crash : PersistCrash) : Prop :=
  ∃ loaded, (files.cutOff state crash).load = .ok loaded ∧
    (files.state = some loaded ∨ loaded = state)

/-- The whole digest is written, or it stands in the file already. -/
def DigestStands (files : ControllerFiles) (state : ControllerState) : PersistCrash → Prop
  | .beforeTruncation => files.digest = some (digestLine state)
  | .writing written => 64 ≤ written

end ControllerFiles

/-- A state that `_persist` writes over these files: the first one, or what an
accepted call of a run leaves. -/
inductive Persists : ControllerFiles → ControllerState → Prop
  | first {plan : EvolutionPlan} {authorization : EvolutionAuthorization}
      {original seed epoch : String} {state : ControllerState}
      (h : initializeController plan authorization original seed epoch = .ok state) :
      Persists ⟨none, none⟩ state
  | call {plan : EvolutionPlan} {authorization : EvolutionAuthorization}
      {original seed epoch : String} {state : ControllerState}
      (h : initializeController plan authorization original seed epoch = .ok state)
      (steps : List ControllerStep) (made : ControllerCall)
      (hpersisted :
        ((run Controller.after ⟨state, state⟩ steps).memory.perform made).persisted = true) :
      Persists (.ofState (run Controller.after ⟨state, state⟩ steps).stored)
        ((run Controller.after ⟨state, state⟩ steps).memory.perform made).state

theorem dropWhile_of_none {chars : List Char} (h : ∀ c ∈ chars, Contracts.isSpace c = false) :
    chars.dropWhile Contracts.isSpace = chars := by
  cases chars with
  | nil => rfl
  | cons c rest => rw [List.dropWhile_cons_of_neg (by simp [h c List.mem_cons_self])]

theorem strip_of_none {chars : List Char} (h : ∀ c ∈ chars, Contracts.isSpace c = false) :
    strip (String.ofList chars) = String.ofList chars := by
  have hreverse : ∀ c ∈ chars.reverse, Contracts.isSpace c = false := by simpa using h
  rw [strip, String.toList_ofList, dropWhile_of_none h, dropWhile_of_none hreverse,
    List.reverse_reverse]

theorem strip_newline {chars : List Char} (hne : chars ≠ [])
    (h : ∀ c ∈ chars, Contracts.isSpace c = false) :
    strip (String.ofList (chars ++ ['\n'])) = String.ofList chars := by
  have hreverse : ∀ c ∈ chars.reverse, Contracts.isSpace c = false := by simpa using h
  have hfront : (chars ++ ['\n']).dropWhile Contracts.isSpace = chars ++ ['\n'] := by
    cases chars with
    | nil => exact absurd rfl hne
    | cons c rest =>
      rw [List.cons_append, List.dropWhile_cons_of_neg (by simp [h c List.mem_cons_self])]
  have hnewline : Contracts.isSpace '\n' = true := by decide
  rw [strip, String.toList_ofList, hfront, List.reverse_append, List.reverse_singleton,
    List.singleton_append, List.dropWhile_cons_of_pos hnewline, dropWhile_of_none hreverse,
    List.reverse_reverse]

theorem isSpace_of_isHexChar {c : Char} (h : Sha256.isHexChar c = true) :
    Contracts.isSpace c = false := by
  have hrange : (48 ≤ c.toNat ∧ c.toNat ≤ 57) ∨ (97 ≤ c.toNat ∧ c.toNat ≤ 102) := by
    simpa [Sha256.isHexChar, Char.le_def, UInt32.le_iff_toNat_le] using h
  simp only [Contracts.isSpace, Bool.or_eq_false_iff, Bool.and_eq_false_iff, decide_eq_false_iff_not,
    beq_eq_false_iff_ne]
  omega

namespace ControllerFiles

variable {files : ControllerFiles} {state : ControllerState}

theorem digest_chars (state : ControllerState) :
    state.digest.toList.length = 64 ∧ ∀ c ∈ state.digest.toList, Contracts.isSpace c = false := by
  have hsha : Sha256.isSha256 state.digest = true := Json.contentSha256_isSha256 _
  rw [Sha256.isSha256, Bool.and_eq_true] at hsha
  refine ⟨by simpa using hsha.1, ?_⟩
  intro c hc
  exact isSpace_of_isHexChar (List.all_eq_true.mp hsha.2 c hc)

theorem toList_digestLine (state : ControllerState) :
    (digestLine state).toList = state.digest.toList ++ ['\n'] := by
  rw [digestLine, String.toList_append]
  rfl

/-- The digest is read back from so much of its line exactly when all of its
characters are there. -/
theorem strip_take_iff (state : ControllerState) (written : Nat) :
    strip (String.ofList ((digestLine state).toList.take written)) = state.digest ↔
      64 ≤ written := by
  obtain ⟨hlength, hspaces⟩ := digest_chars state
  rw [toList_digestLine]
  by_cases hwhole : 65 ≤ written
  · have hne : state.digest.toList ≠ [] := by
      intro hempty
      rw [hempty] at hlength
      cases hlength
    have hall : (state.digest.toList ++ ['\n']).take written = state.digest.toList ++ ['\n'] := by
      apply List.take_of_length_le
      rw [List.length_append, hlength]
      exact hwhole
    rw [hall, strip_newline hne hspaces, String.ofList_toList]
    simp only [true_iff]
    omega
  · have htake : (state.digest.toList ++ ['\n']).take written =
        state.digest.toList.take written := by
      rw [List.take_append_of_le_length]
      omega
    have hnone : ∀ c ∈ state.digest.toList.take written, Contracts.isSpace c = false := by
      intro c hc
      exact hspaces c (List.mem_of_mem_take hc)
    rw [htake, strip_of_none hnone]
    constructor
    · intro hsame
      have hchars := congrArg String.toList hsame
      rw [String.toList_ofList] at hchars
      have htaken := congrArg List.length hchars
      rw [List.length_take, hlength] at htaken
      omega
    · intro hwritten
      rw [List.take_of_length_le (by omega), String.ofList_toList]

theorem strip_digestLine (state : ControllerState) : strip (digestLine state) = state.digest := by
  have hwhole := (strip_take_iff state 65).mpr (by omega)
  have hlength : (digestLine state).toList.length = 65 := by
    rw [toList_digestLine, List.length_append, (digest_chars state).1]
    rfl
  rwa [List.take_of_length_le (by omega), String.ofList_toList] at hwhole

theorem load_ok_iff {digest : String} {loaded : ControllerState} :
    load ⟨some state, some digest⟩ = .ok loaded ↔
      strip digest = state.digest ∧ (∃ plan, EvolutionPlan.fromDict state.plan = .ok plan) ∧
        loaded = state := by
  simp only [load, except_bind_ok_iff, require_ok_iff]
  constructor
  · intro h
    obtain ⟨-, hdigest, plan, hplan, hsame⟩ := h
    cases hsame
    exact ⟨hdigest, ⟨plan, hplan⟩, rfl⟩
  · intro h
    obtain ⟨hdigest, ⟨plan, hplan⟩, rfl⟩ := h
    exact ⟨(), hdigest, plan, hplan, rfl⟩

theorem load_crashed_iff (hplan : ∃ plan, EvolutionPlan.fromDict state.plan = .ok plan)
    (hdigest : ∀ digest, files.digest = some digest → ∃ stored, digest = digestLine stored)
    (crash : PersistCrash) : Recovers files state crash ↔ DigestStands files state crash := by
  cases crash with
  | writing written =>
    unfold Recovers DigestStands
    simp only [cutOff, load_ok_iff, strip_take_iff]
    constructor
    · intro h
      obtain ⟨loaded, ⟨hwritten, -, -⟩, -⟩ := h
      exact hwritten
    · intro hwritten
      exact ⟨state, ⟨hwritten, hplan, rfl⟩, Or.inr rfl⟩
  | beforeTruncation =>
    unfold Recovers DigestStands
    cases hfile : files.digest with
    | none => simp [cutOff, load, hfile]
    | some digest =>
      obtain ⟨stored, rfl⟩ := hdigest digest hfile
      have hcut : files.cutOff state .beforeTruncation =
          ⟨some state, some (digestLine stored)⟩ := by
        rw [cutOff, hfile]
      simp only [hcut, load_ok_iff, strip_digestLine, Option.some.injEq]
      constructor
      · intro h
        obtain ⟨loaded, ⟨hsame, -, -⟩, -⟩ := h
        rw [digestLine, hsame, digestLine]
      · intro hsame
        have hdigests := congrArg strip hsame
        rw [strip_digestLine, strip_digestLine] at hdigests
        exact ⟨state, ⟨hdigests, hplan, rfl⟩, Or.inr rfl⟩

end ControllerFiles

theorem plan_move {state next : ControllerState} {call : ControllerCall} {persisted : Bool}
    (hmove : ControllerMove state call next persisted) : next.plan = state.plan := by
  cases hmove <;> rfl

theorem plan_run {state : ControllerState} (steps : List ControllerStep) :
    (run Controller.after ⟨state, state⟩ steps).Both fun reached => reached.plan = state.plan := by
  apply run_invariant _ _ _ ⟨rfl, rfl⟩
  intro controller step hplan
  exact hplan.after fun made _ => (plan_move (controller.memory.perform_moves made)).trans hplan.1

theorem fromDict_initialized {state : ControllerState} {plan : EvolutionPlan}
    {authorization : EvolutionAuthorization} {original seed epoch : String}
    (h : initializeController plan authorization original seed epoch = .ok state) :
    ∃ loaded, EvolutionPlan.fromDict state.plan = .ok loaded := by
  simp only [initializeController, except_bind_ok_iff] at h
  obtain ⟨-, -, loaded, hloaded, hstate⟩ := h
  cases hstate
  exact ⟨loaded, hloaded⟩

/-- After a crash inside `_persist` a new controller has the state before or
after exactly when the whole digest of the new state stands in STATE.sha256. -/
theorem persist_recovers_iff {files : ControllerFiles} {state : ControllerState}
    (h : Persists files state) (crash : ControllerFiles.PersistCrash) :
    files.Recovers state crash ↔ files.DigestStands state crash := by
  cases h with
  | first hinit =>
      apply ControllerFiles.load_crashed_iff (fromDict_initialized hinit)
      intro digest hdigest
      cases hdigest
  | @call plan authorization original seed epoch start hinit steps made hpersisted =>
      have hplan : ((run Controller.after ⟨start, start⟩ steps).memory.perform made).state.plan =
          start.plan := (plan_move (ControllerState.perform_moves _ made)).trans (plan_run steps).1
      apply ControllerFiles.load_crashed_iff (by rw [hplan]; exact fromDict_initialized hinit)
      intro digest hdigest
      exact ⟨_, (Option.some.inj hdigest).symm⟩

open ControllerState

theorem persists_resumed : Persists ⟨none, none⟩ resumedState := .first initialize_resumedState

/-- Right after STATE.sha256 was truncated no controller can be constructed. -/
theorem truncated_not_recovered :
    ¬∀ files state, Persists files state → ∀ crash, files.Recovers state crash := by
  intro h
  obtain ⟨loaded, hloaded, -⟩ := h _ _ persists_resumed (.writing 0)
  have hwritten := (ControllerFiles.strip_take_iff resumedState 0).mp
    (ControllerFiles.load_ok_iff.mp hloaded).1
  omega

theorem persist_recovers_resumed :
    ControllerFiles.Recovers ⟨none, none⟩ resumedState (.writing 64) ↔
      ControllerFiles.DigestStands ⟨none, none⟩ resumedState (.writing 64) :=
  persist_recovers_iff persists_resumed _

end JlensEvolve.Evolution
