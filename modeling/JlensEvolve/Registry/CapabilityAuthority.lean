import Mathlib.Logic.Function.Basic
import JlensEvolve.Governance.DecideSoundness
import JlensEvolve.Library.Transition
import JlensEvolve.Registry.StoreReadback

/-!
The capability file over its whole life. Decision files grow by whatever
anybody writes to them; the capability file grows only by appends that have
found a verified decision. What an append compares between the decision and the
record, it keeps; the artifact and the kind it does not compare.
-/

namespace JlensEvolve.Registry

open Library Contracts Evidence Governance

/-- One user of the capability file: the registry object it appends through,
and the path of the decision log behind that object. -/
structure RegistryUser where
  registry : CapabilityRegistry
  decisionPath : String

/-- The arguments of one call of `decide`. -/
structure DecideCall where
  service : GovernanceService
  candidate : CandidateRecord
  evidence : CandidateEvidenceState
  rows : List Claim
  humanApproval : Bool
  decidedAt : String
  log : PromotionDecisionLog

/-- The decision files by their paths, and the capability file. -/
structure AssetFiles where
  decisions : String → AppendLog
  capabilities : AppendLog

inductive AssetEvent where
  | decide (path : String) (call : DecideCall)
  | logDecision (path : String) (log : PromotionDecisionLog) (decision : PromotionDecision)
  /-- Somebody writes at the end of a decision file without the log object. -/
  | extendDecisions (path : String) (lines : List (Option Json))
  | register (user : Nat) (record : CapabilityRecord)

def DecideCall.apply (call : DecideCall) : LogM PromotionDecision :=
  call.service.decide call.candidate call.evidence call.rows call.humanApproval call.decidedAt
    call.log

def AssetFiles.withDecisions (files : AssetFiles) (path : String) (log : AppendLog) :
    AssetFiles :=
  { files with decisions := Function.update files.decisions path log }

def AssetFiles.step (users : Nat → RegistryUser) (files : AssetFiles) : AssetEvent → AssetFiles
  | .decide path call =>
    files.withDecisions path (finalState (call.apply.run (files.decisions path)))
  | .logDecision path log decision =>
    files.withDecisions path (finalState ((log.append decision).run (files.decisions path)))
  | .extendDecisions path lines =>
    files.withDecisions path
      { files.decisions path with lines := (files.decisions path).lines ++ lines }
  | .register user record =>
    let decisionLines := (files.decisions (users user).decisionPath).lines
    { files with
      capabilities := finalState
        (((users user).registry.append decisionLines record).run files.capabilities) }

/-- Some registry object reads this record from the capability file. -/
def AssetFiles.Stores (files : AssetFiles) (users : Nat → RegistryUser)
    (record : CapabilityRecord) : Prop :=
  ∃ user, (users user).registry.store.Holds files.capabilities.lines record

/-- The decision log behind a user holds an approving decision with a valid
signature under the log's own key, and the record is about what it approves. -/
structure AuthorizedBy (files : AssetFiles) (user : RegistryUser) (record : CapabilityRecord)
    (decision : PromotionDecision) : Prop where
  verified : ∃ log authority, user.registry.decisionLog = .promotionLog log ∧
    log.Holds (files.decisions user.decisionPath).lines decision ∧
      log.authority = some authority ∧ authority.verify decision = true
  named : record.promotionDecisionId = some decision.decisionId
  agrees : DecisionMatches decision record

theorem readOnly_alreadyLogged (log : PromotionDecisionLog) (decision : PromotionDecision) :
    ReadOnly (log.alreadyLogged decision) := by
  apply ReadOnly.bind ReadOnly.get
  intro file
  apply ReadOnly.bind (ReadOnly.check _)
  intro decisions
  split
  · split
    · exact ReadOnly.pure _
    · exact ReadOnly.throw _
  · exact ReadOnly.pure _

theorem preserves_logAppend {P : List (Option Json) → Prop} (log : PromotionDecisionLog)
    (decision : PromotionDecision)
    (hwrite : ∀ lines, P lines → P (lines ++ AppendLog.written decision.logPayload)) :
    Preserves (fun file => P file.lines) (log.append decision) := by
  have hread := (readOnly_alreadyLogged log decision).preserves (fun file => P file.lines)
  refine Preserves.bind (I := fun file : AppendLog => P file.lines)
    ((ReadOnly.check _).preserves _) ?_
  intro _
  apply Preserves.bind hread
  intro found
  split
  · exact (ReadOnly.pure _).preserves _
  · intro file hfile
    apply AppendLog.lines_underLease _ _ _ P hfile
    refine Preserves.bind hread ?_ { file with lease := true } hfile
    intro again
    split
    · exact (ReadOnly.pure _).preserves _
    · intro held hheld
      exact hwrite held.lines hheld

theorem preserves_decide {P : List (Option Json) → Prop} (call : DecideCall)
    (hwrite : ∀ decision lines, call.service.decision call.candidate call.evidence call.rows
      call.humanApproval call.decidedAt = .ok decision → P lines →
        P (lines ++ AppendLog.written decision.logPayload)) :
    Preserves (fun file => P file.lines) call.apply := by
  intro file hfile
  rw [DecideCall.apply, GovernanceService.decide]
  cases hmade : call.service.decision call.candidate call.evidence call.rows call.humanApproval
      call.decidedAt with
  | error e => exact hfile
  | ok decision =>
    have happend := preserves_logAppend call.log decision (fun lines => hwrite decision lines hmade)
    refine Preserves.bind happend ?_ file hfile
    intro _
    exact (ReadOnly.pure _).preserves _

section Run

variable {users : Nat → RegistryUser} {files : AssetFiles}

theorem decisions_step (users : Nat → RegistryUser) (files : AssetFiles) (event : AssetEvent)
    (path : String) :
    (files.decisions path).lines <+: ((files.step users event).decisions path).lines := by
  have hupdate : ∀ (other : String) (log : AppendLog),
      (files.decisions other).lines <+: log.lines →
        (files.decisions path).lines <+: ((files.withDecisions other log).decisions path).lines := by
    intro other log hgrows
    by_cases hsame : path = other
    · subst hsame
      simpa [AssetFiles.withDecisions] using hgrows
    · simp [AssetFiles.withDecisions, hsame]
  cases event with
  | decide other call =>
    apply hupdate
    refine preserves_decide call ?_ _ (List.prefix_refl _)
    exact fun _ _ _ hgrown => hgrown.trans (List.prefix_append _ _)
  | logDecision other log decision =>
    apply hupdate
    refine preserves_logAppend log decision ?_ _ (List.prefix_refl _)
    exact fun _ hgrown => hgrown.trans (List.prefix_append _ _)
  | extendDecisions other lines =>
    apply hupdate
    exact List.prefix_append _ _
  | register user record => exact List.prefix_refl _

theorem AuthorizedBy.grows {after : AssetFiles} {user : RegistryUser} {record : CapabilityRecord}
    {decision : PromotionDecision} (h : AuthorizedBy files user record decision)
    (hgrows : ∀ path, (files.decisions path).lines <+: (after.decisions path).lines) :
    AuthorizedBy after user record decision := by
  obtain ⟨⟨log, authority, hreader, hholds, hverified⟩, hnamed, hagrees⟩ := h
  obtain ⟨more, hmore⟩ := hgrows user.decisionPath
  refine ⟨⟨log, authority, hreader, ?_, hverified⟩, hnamed, hagrees⟩
  rw [← hmore]
  exact hholds.append more

/-- Every line was written for a record that the decision files authorize and
that is of the kind the users register. -/
def AssetFiles.AuthorizeLines (files : AssetFiles) (users : Nat → RegistryUser)
    (registers : CapabilityRecord → Prop) (lines : List (Option Json)) : Prop :=
  ∀ line ∈ lines, ∃ user record decision, registers record ∧
    AuthorizedBy files (users user) record decision ∧
      line ∈ AppendLog.written ((users user).registry.store.payload record)

theorem approvedDecisionFor_eq_ok {reader : DecisionReader} {decisionLines : List (Option Json)}
    {decisionId : String} {decision : PromotionDecision}
    (h : approvedDecisionFor reader decisionLines decisionId = .ok decision) :
    ∃ log, reader = .promotionLog log ∧
      log.verifiedApproved decisionLines decisionId = .ok decision := by
  cases reader with
  | absent => cases h
  | otherType => cases h
  | promotionLog log =>
    simp only [approvedDecisionFor] at h
    split at h
    · rename_i found hfound
      cases h
      exact ⟨log, rfl, hfound⟩
    · cases h

theorem lines_register {P : List (Option Json) → Prop} (user : RegistryUser)
    (record : CapabilityRecord) {file : AppendLog} (hfile : P file.lines)
    (hwrite : ∀ lines decision, P lines → AuthorizedBy files user record decision →
      P (lines ++ AppendLog.written (user.registry.store.payload record))) :
    P (finalState ((user.registry.append (files.decisions user.decisionPath).lines
      record).run file)).lines := by
  unfold CapabilityRegistry.append
  split
  · rename_i decisionId candidateId hdecisionId hcandidateId
    cases happroved : approvedDecisionFor user.registry.decisionLog
        (files.decisions user.decisionPath).lines decisionId with
    | error e => exact hfile
    | ok decision =>
      obtain ⟨log, hreader, hverified⟩ := approvedDecisionFor_eq_ok happroved
      obtain ⟨hholds, hid, htext, hauthoritative⟩ := verifiedApproved_eq_ok hverified
      obtain ⟨authority, hauthority, hverify⟩ := authoritative_approved hauthoritative htext
      by_cases hagrees : DecisionMatches decision record
      · have hauthorized : AuthorizedBy files user record decision :=
          ⟨⟨log, authority, hreader, hholds, hauthority, hverify⟩, by rw [hdecisionId, hid],
            hagrees⟩
        have happend := preserves_append user.registry.store record
          (fun lines hlines => hwrite lines decision hlines hauthorized) file hfile
        simpa [require, hagrees, EStateM.run_bind] using happend
      · simpa [require, hagrees, EStateM.run_bind] using hfile
  · exact hfile

theorem authorizeLines_step {registers : CapabilityRecord → Prop} {event : AssetEvent}
    (hregisters : ∀ user record, event = .register user record → registers record)
    (h : files.AuthorizeLines users registers files.capabilities.lines) :
    (files.step users event).AuthorizeLines users registers
      (files.step users event).capabilities.lines := by
  have hgrows := decisions_step users files event
  have hkept : (files.step users event).AuthorizeLines users registers
      files.capabilities.lines := by
    intro line hline
    obtain ⟨user, record, decision, hkind, hauthorized, hwritten⟩ := h line hline
    exact ⟨user, record, decision, hkind, hauthorized.grows hgrows, hwritten⟩
  cases event with
  | decide path call => exact hkept
  | logDecision path log decision => exact hkept
  | extendDecisions path lines => exact hkept
  | register user record =>
    apply lines_register (users user) record hkept
    intro lines decision hlines hauthorized line hline
    rcases List.mem_append.mp hline with hline | hline
    · exact hlines line hline
    · exact ⟨user, record, decision, hregisters user record rfl, hauthorized.grows hgrows, hline⟩

/-- Whatever is read from a capability file that was empty at first is a record
that a user registered and that the decision files authorize. -/
theorem stored_authorized {registers : CapabilityRecord → Prop} {events : List AssetEvent}
    (hempty : files.capabilities.lines = [])
    (hregisters : ∀ user record, AssetEvent.register user record ∈ events → registers record)
    {after : AssetFiles} (hrun : run (AssetFiles.step users) files events = after)
    {record : CapabilityRecord} (hstored : after.Stores users record) :
    registers record ∧ ∃ user decision, AuthorizedBy after (users user) record decision := by
  have hlines : after.AuthorizeLines users registers after.capabilities.lines := by
    rw [← hrun]
    refine run_invariant_of_mem (I := fun reached : AssetFiles =>
      reached.AuthorizeLines users registers reached.capabilities.lines) ?_ files ?_
    · intro reached event hevent hreached
      apply authorizeLines_step _ hreached
      rintro user registered rfl
      exact hregisters user registered hevent
    · intro line hline
      rw [hempty] at hline
      cases hline
  obtain ⟨reader, lineNumber, line, hline, hread⟩ := hstored
  obtain ⟨user, registered, decision, hkind, hauthorized, hwritten⟩ := hlines line hline
  have hpayload : line ∈ AppendLog.written ((users reader).registry.store.payload registered) :=
    hwritten
  have hsame : record = registered := holds_written capabilityType_lawful hpayload hread
  rw [hsame]
  exact ⟨hkind, user, decision, hauthorized⟩

/-- In every state reached from an empty capability file, by any appends of any
users, over decision files that anyone extends: a stored capability has in the
decision log a verified decision, approved by a human at grade E3, that names
its candidate, its revision and its claims. -/
theorem capabilities_authorized (users : Nat → RegistryUser) (events : List AssetEvent)
    (hempty : files.capabilities.lines = []) {after : AssetFiles}
    (hrun : run (AssetFiles.step users) files events = after) {record : CapabilityRecord}
    (hstored : after.Stores users record) :
    ∃ user decision, AuthorizedBy after (users user) record decision := by
  have hany : ∀ user registered, AssetEvent.register user registered ∈ events →
      (fun _ : CapabilityRecord => True) registered := fun _ _ _ => trivial
  exact (stored_authorized hempty hany hrun hstored).2

/-- The candidate's key, kind and artifact, in the record and in the decision. -/
structure ArtifactOf (candidate : CandidateRecord) (decision : PromotionDecision)
    (record : CapabilityRecord) : Prop where
  decision : (decision.candidateId, decision.candidateRevisionId) = candidate.key
  artifact : record.artifactSha256 = candidate.artifactSha256
  kind : record.capabilityKind = candidate.candidateKind

theorem toCapability_eq_ok {candidate : CandidateRecord} {decision : PromotionDecision}
    {capabilityId : String} {record : CapabilityRecord}
    (h : toCapability candidate decision capabilityId = .ok record) :
    record.sourceCandidateId = some candidate.candidateId ∧
      record.revisionId = candidate.revisionId ∧
        record.artifactSha256 = candidate.artifactSha256 ∧
          record.capabilityKind = candidate.candidateKind := by
  simp only [toCapability, except_bind_ok_iff, contractIf_ok_iff] at h
  obtain ⟨-, -, -, -, hrecord⟩ := h
  unfold CapabilityRecord.construct at hrecord
  split at hrecord
  · cases hrecord
    exact ⟨rfl, rfl, rfl, rfl⟩
  · cases hrecord

/-- When the users register only what `to_capability` builds from candidates of
one registry, in which a key stands for one candidate, the artifact and the kind
of a stored capability are those of the candidate its decision names. -/
theorem capabilities_carry_artifact (users : Nat → RegistryUser) (events : List AssetEvent)
    (candidates : CandidateRecord → Prop)
    (hkeys : ∀ first second, candidates first → candidates second → first.key = second.key →
      first = second)
    (hbuilt : ∀ user record, AssetEvent.register user record ∈ events →
      ∃ candidate decision capabilityId, candidates candidate ∧
        toCapability candidate decision capabilityId = .ok record)
    (hempty : files.capabilities.lines = []) {after : AssetFiles}
    (hrun : run (AssetFiles.step users) files events = after) {record : CapabilityRecord}
    (hstored : after.Stores users record) :
    ∃ user decision, AuthorizedBy after (users user) record decision ∧
      ∃ candidate, candidates candidate ∧ ArtifactOf candidate decision record ∧
        ∀ other, candidates other →
          other.key = (decision.candidateId, decision.candidateRevisionId) → other = candidate := by
  obtain ⟨⟨candidate, made, capabilityId, hcandidate, hrecord⟩, user, decision, hauthorized⟩ :=
    stored_authorized hempty hbuilt hrun hstored
  obtain ⟨hsource, hrevision, hartifact, hkind⟩ := toCapability_eq_ok hrecord
  have hid : decision.candidateId = candidate.candidateId := by
    have hagrees := hauthorized.agrees.candidate
    rw [hsource] at hagrees
    exact (Option.some.inj hagrees).symm
  have hkey : (decision.candidateId, decision.candidateRevisionId) = candidate.key := by
    rw [hid, hauthorized.agrees.revision, hrevision]
    rfl
  refine ⟨user, decision, hauthorized, candidate, hcandidate, ⟨hkey, hartifact, hkind⟩, ?_⟩
  intro other hother hsame
  exact hkeys other candidate hother hcandidate (hsame.trans hkey)

end Run

/-- Of every stored record and every `decide` of the run that made the decision
the record names: the artifact and the kind are the candidate's. -/
def ArtifactsBound (users : Nat → RegistryUser) (files : AssetFiles) (events : List AssetEvent) :
    Prop :=
  ∀ record, (run (AssetFiles.step users) files events).Stores users record →
    ∀ path (call : DecideCall) decision, AssetEvent.decide path call ∈ events →
      call.service.decision call.candidate call.evidence call.rows call.humanApproval
          call.decidedAt = .ok decision →
        record.promotionDecisionId = some decision.decisionId →
          record.artifactSha256 = call.candidate.artifactSha256 ∧
            record.capabilityKind = call.candidate.candidateKind

/-! ## A promotion

The approved candidate, its capability, and a record with another artifact under
the same decision. -/

theorem verifiedApproved_single {log : PromotionDecisionLog} {decision : PromotionDecision}
    (hgate : decision.gateDecision = .member .approved) (hvalid : decision.postInit = .ok ())
    (hverified : log.authoritative decision = true) :
    log.verifiedApproved [some decision.logPayload] decision.decisionId = .ok decision := by
  have hread := readLine_logPayload hgate hvalid hverified 1
  have hall : log.all [some decision.logPayload] = .ok [decision] := by
    simp only [PromotionDecisionLog.all, PromotionDecisionLog.readLines, hread, except_bind_ok_iff]
    exact ⟨[decision], ⟨decision, rfl, [], rfl, rfl⟩, (), by simp, rfl⟩
  have hfound : [decision].filter (fun item => item.decisionId = decision.decisionId) =
      [decision] := by
    simp
  have htext : decision.gateDecision.text = "approved" := by
    rw [hgate]
    rfl
  simp only [PromotionDecisionLog.verifiedApproved, except_bind_ok_iff]
  refine ⟨[decision], hall, ?_⟩
  rw [hfound]
  simp only [except_bind_ok_iff, verifyAuthoritative_ok_iff, require_ok_iff]
  exact ⟨(), htext, (), hverified, rfl⟩

theorem run_register_first {registry : CapabilityRegistry} {log : PromotionDecisionLog}
    {lines : List (Option Json)} {record : CapabilityRecord} {decision : PromotionDecision}
    (hreader : registry.decisionLog = .promotionLog log)
    (hid : record.promotionDecisionId = some decision.decisionId)
    (hverified : log.verifiedApproved lines decision.decisionId = .ok decision)
    (hagrees : DecisionMatches decision record) :
    (registry.append lines record).run AppendLog.empty =
      .ok true (AppendLog.empty.append (registry.store.payload record)) := by
  have happroved : approvedDecisionFor registry.decisionLog lines decision.decisionId =
      .ok decision := by
    rw [hreader]
    simp [approvedDecisionFor, hverified]
  unfold CapabilityRegistry.append
  rw [hid, hagrees.candidate]
  simp only [run_bind_ok_iff, run_check_ok_iff, require_ok_iff]
  exact ⟨decision, _, ⟨happroved, rfl⟩, (), _, ⟨hagrees, rfl⟩, run_append_first _ _⟩

theorem predictionEvidenceIds_perm (row : Aggregation) (candidateId : String)
    (mechanismId : Option String) :
    (row.state candidateId mechanismId).predictionEvidenceIds.Perm row.predictionEvidence.flatten :=
  List.perm_insertionSort _ _

namespace PromotedCandidate
open ApprovedCandidate
theorem decisionIdentity_isText (payload : Json) : isText (decisionIdentity payload) = true :=
  isText_append_left (by decide)
theorem decision_isText : isText decision.decisionId = true := decisionIdentity_isText _
def plainCapability (decisionId kind artifact : String) (hid : isText decisionId = true)
    (hkind : isText kind = true) (hartifact : isSha256 artifact = true) : CapabilityRecord :=
  { capabilityId := "capability"
    revisionId := "revision-1"
    capabilityKind := kind
    evidenceClaimIds := claimIds
    artifactSha256 := artifact
    promotionDecisionId := some decisionId
    sourceCandidateId := some "candidate"
    active := false
    valid := by
      have hother : isText "capability" = true ∧ isText "revision-1" = true ∧
          isText "candidate" = true := by
        decide
      simp only [validateCapability, validateRecord, except_bind_ok_iff, require_ok_iff]
      refine ⟨(), ⟨(), ?_, (), hartifact, trivial⟩, (), ?_, (), ?_, ?_⟩
      · simp [hother, hkind]
      · simp [claimIds]
      · simpa using hid
      · simpa using hother.2.2 }

theorem skill_isText : isText "skill" = true := by decide

theorem tool_isText : isText "tool" = true := by decide

theorem digest_isSha256 : isSha256 SupportedCandidate.digest = true := by decide

def otherDigest : String :=
  "cccccccccccccccccccccccccccccccccccccccccccccccccccccccccccccccc"

theorem otherDigest_isSha256 : isSha256 otherDigest = true := by decide

/-- The record of the approved decision, whatever its kind and its artifact. -/
def capability (kind artifact : String) (hkind : isText kind = true)
    (hartifact : isSha256 artifact = true) : CapabilityRecord :=
  plainCapability decision.decisionId kind artifact decision_isText hkind hartifact

def promoted : CapabilityRecord :=
  capability "skill" SupportedCandidate.digest skill_isText digest_isSha256

def forged : CapabilityRecord := capability "tool" otherDigest tool_isText otherDigest_isSha256

def user : RegistryUser :=
  ⟨⟨"capabilities.jsonl", .promotionLog log⟩, "decisions.jsonl"⟩

def start : AssetFiles := ⟨fun _ => AppendLog.empty, AppendLog.empty⟩

def call : DecideCall := ⟨service, candidate, state, rows, true, "now", log⟩

theorem rationale_lineFree : lineFree ("approved: " ++ state.rationale) = true := by
  decide +kernel

theorem claimIds_lineFree : claimIds.all lineFree = true := by decide

theorem predictionIds_lineFree : state.predictionEvidenceIds.all lineFree = true := by
  have hids : SupportedCandidate.aggregated.predictionEvidence.flatten.all lineFree = true := by
    decide
  exact (predictionEvidenceIds_perm _ _ _).all_eq.trans hids

theorem decisionId_lineFree : lineFree decision.decisionId = true := by
  have hidentity : ∀ payload : Json, lineFree (decisionIdentity payload) = true := by
    intro payload
    rw [decisionIdentity, lineFree_append, Json.lineFree_sha256 payload.contentSha256_isSha256]
    decide
  exact hidentity _

theorem decision_texts : decision.texts.all lineFree = true := by
  have hid := decisionId_lineFree
  have hplain : ["candidate", "revision-1", "approved", "now", "governance"].all lineFree =
      true := by
    decide
  simp only [List.all_cons, List.all_nil, Bool.and_eq_true, and_true] at hplain
  obtain ⟨hcandidate, hrevision, happroved, hnow, hkey⟩ := hplain
  have hall : ([decision.decisionId, "candidate", "revision-1", "approved", "now",
      "approved: " ++ state.rationale] ++ claimIds ++ state.predictionEvidenceIds ++
        ["governance"]).all lineFree = true := by
    simp only [List.all_append, List.all_cons, List.all_nil, hid, hcandidate, hrevision,
      happroved, hnow, hkey, rationale_lineFree, claimIds_lineFree, predictionIds_lineFree]
    rfl
  exact hall

theorem decision_valid : decision.postInit = .ok () := sign_postInit authority draft_valid

theorem decisionLines :
    (AppendLog.empty.append decision.logPayload).lines = [some decision.logPayload] := by
  have hwhole : decision.logPayload.leavesOnOneLine = true := by
    rw [logPayload_leavesOnOneLine decision_valid, decision_texts]
    rfl
  rw [AppendLog.append, AppendLog.written_eq, if_pos hwhole]
  rfl

theorem verifiedApproved_ok :
    log.verifiedApproved [some decision.logPayload] decision.decisionId = .ok decision :=
  verifiedApproved_single rfl decision_valid decision_authoritative

theorem toCapability_ok : toCapability candidate decision "capability" = .ok promoted := by
  have hset : sameSet decision.claimIds candidate.sourceClaimIds := fun _ => Iff.rfl
  have hconstruct := promoted.construct_fields
  simp only [toCapability, except_bind_ok_iff, contractIf_ok_iff]
  refine ⟨(), ?_, (), ?_, ?_⟩
  · simp only [not_or, not_not]
    exact ⟨rfl, rfl, hset⟩
  · exact not_not.mpr rfl
  · have hfields : CapabilityRecord.construct "capability" candidate.revisionId
        candidate.candidateKind decision.claimIds candidate.artifactSha256
        (some decision.decisionId) (some candidate.candidateId) false = .ok promoted := hconstruct
    rw [hfields]
    rfl

section Register

variable (kind artifact : String) (hkind : isText kind = true)
  (hartifact : isSha256 artifact = true)

theorem agrees : DecisionMatches decision (capability kind artifact hkind hartifact) := by
  refine ⟨rfl, SupportedCandidate.grade_ok, ?_, rfl, rfl, rfl, fun _ => Iff.rfl⟩
  intro hnone
  have hnone : (SupportedCandidate.aggregated.state "candidate"
      (some "mechanism")).predictionEvidenceIds = [] := hnone
  have hperm := predictionEvidenceIds_perm SupportedCandidate.aggregated "candidate"
    (some "mechanism")
  have hsome : SupportedCandidate.aggregated.predictionEvidence.flatten ≠ [] := by
    simp [SupportedCandidate.aggregated, SupportedCandidate.tasks, SupportedCandidate.predictionIds]
  rw [hnone] at hperm
  exact hsome (List.nil_perm.mp hperm)

/-- The decision, then the registration of the record. -/
def events : List AssetEvent :=
  [.decide "decisions.jsonl" call, .register 0 (capability kind artifact hkind hartifact)]

/-- The files after the two events. -/
def after : AssetFiles :=
  { start.withDecisions "decisions.jsonl" (AppendLog.empty.append decision.logPayload) with
    capabilities := AppendLog.empty.append
      (user.registry.store.payload (capability kind artifact hkind hartifact)) }

theorem run_events : run (AssetFiles.step fun _ => user) start
    (events kind artifact hkind hartifact) = after kind artifact hkind hartifact := by
  have hdecide : call.apply.run (start.decisions "decisions.jsonl") =
      .ok decision (AppendLog.empty.append decision.logPayload) := decide_ok
  have hregister : (user.registry.append [some decision.logPayload]
      (capability kind artifact hkind hartifact)).run AppendLog.empty =
        .ok true (AppendLog.empty.append
          (user.registry.store.payload (capability kind artifact hkind hartifact))) :=
    run_register_first rfl rfl verifiedApproved_ok (agrees kind artifact hkind hartifact)
  have hlines : ((start.withDecisions "decisions.jsonl"
      (AppendLog.empty.append decision.logPayload)).decisions user.decisionPath).lines =
        [some decision.logPayload] := by
    have hpath : user.decisionPath = "decisions.jsonl" := rfl
    simp only [AssetFiles.withDecisions, hpath, Function.update_self]
    exact decisionLines
  have hcapabilities : (start.withDecisions "decisions.jsonl"
      (AppendLog.empty.append decision.logPayload)).capabilities = AppendLog.empty := rfl
  rw [events, run_cons, AssetFiles.step, hdecide, finalState_ok, run_cons, AssetFiles.step]
  simp only [hlines, hcapabilities]
  rw [hregister]
  rfl

theorem stores_capability (hplain : lineFree kind = true) :
    (after kind artifact hkind hartifact).Stores (fun _ => user)
      (capability kind artifact hkind hartifact) := by
  refine ⟨0, 1, some (user.registry.store.payload (capability kind artifact hkind hartifact)), ?_,
    readLine_payload capabilityType_lawful _ 1⟩
  have htexts : (RegistryKind.capability.texts
      (capability kind artifact hkind hartifact)).all lineFree = true := by
    have hother : ["capability", "revision-1", "candidate"].all lineFree = true := by decide
    simp only [List.all_cons, List.all_nil, Bool.and_eq_true, and_true] at hother
    have hall : (["capability", "revision-1", kind] ++ claimIds ++ [decision.decisionId] ++
        ["candidate"]).all lineFree = true := by
      simp only [List.all_append, List.all_cons, List.all_nil, hother, hplain, claimIds_lineFree,
        decisionId_lineFree]
      rfl
    exact hall
  have hwhole := payload_leavesOnOneLine .capability "capabilities.jsonl"
    (capability kind artifact hkind hartifact)
  rw [htexts] at hwhole
  have hwritten : AppendLog.written
      (user.registry.store.payload (capability kind artifact hkind hartifact)) =
        [some (user.registry.store.payload (capability kind artifact hkind hartifact))] := by
    rw [AppendLog.written_eq]
    exact if_pos hwhole
  simp [after, AppendLog.append, hwritten]

end Register

/-- A promotion that goes its way. -/
theorem promoted_authorized :
    ∃ (_ : Nat) (approval : PromotionDecision),
      AuthorizedBy (after "skill" SupportedCandidate.digest skill_isText digest_isSha256) user
        promoted approval :=
  capabilities_authorized (fun _ => user)
    (events "skill" SupportedCandidate.digest skill_isText digest_isSha256) rfl
    (run_events "skill" SupportedCandidate.digest skill_isText digest_isSha256)
    (stores_capability "skill" SupportedCandidate.digest skill_isText digest_isSha256 (by decide))

theorem promoted_carries_artifact :
    ∃ (_ : Nat) (approval : PromotionDecision),
      AuthorizedBy (after "skill" SupportedCandidate.digest skill_isText digest_isSha256) user
          promoted approval ∧
        ∃ source, source = candidate ∧ ArtifactOf source approval promoted ∧
          ∀ other, other = candidate →
            other.key = (approval.candidateId, approval.candidateRevisionId) → other = source :=
  capabilities_carry_artifact (fun _ => user)
    (events "skill" SupportedCandidate.digest skill_isText digest_isSha256) (· = candidate)
    (fun _ _ hfirst hsecond _ => hfirst.trans hsecond.symm)
    (by
      intro registrar record hregister
      have hrecord : registrar = 0 ∧ record = promoted := by
        simpa [events, promoted] using hregister
      obtain ⟨-, hrecord⟩ := hrecord
      exact ⟨candidate, decision, "capability", rfl, hrecord ▸ toCapability_ok⟩)
    rfl (run_events "skill" SupportedCandidate.digest skill_isText digest_isSha256)
    (stores_capability "skill" SupportedCandidate.digest skill_isText digest_isSha256 (by decide))

/-- A record with another kind and another artifact is registered under the
same decision. -/
theorem forged_artifact_stored :
    ¬ ArtifactsBound (fun _ => user) start
      (events "tool" otherDigest tool_isText otherDigest_isSha256) := by
  intro hbound
  have hstored := stores_capability "tool" otherDigest tool_isText otherDigest_isSha256 (by decide)
  rw [← run_events "tool" otherDigest tool_isText otherDigest_isSha256] at hstored
  have hsame := hbound forged hstored "decisions.jsonl" call decision (by simp [events])
    decision_ok rfl
  have hkind : ("tool" : String) = "skill" := hsame.2
  revert hkind
  decide

end PromotedCandidate
end JlensEvolve.Registry
