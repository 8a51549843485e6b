import JlensEvolve.Skills.PromotionLadder
import JlensEvolve.Skills.SkillReadback

/-!
What the queries of both stores answer after any calls of `record` and
`append`. A row that `splitlines` breaks ends every later reading, a naive time
ends the subtraction of `effective_status`, and semantics that cannot be in a
set end `retrieve`; validation refuses none of them.
-/

namespace JlensEvolve.Skills

open Library Contracts SkillLoop

namespace ReviewDecision

variable {fromisoformat : Fromisoformat} {row : ReviewDecision}

theorem mapM_pyDict (refs : List (List (String × Json))) :
    (refs.map Json.obj).mapM (fun ref : Json => (pyDict ref).elim
      (.error "cannot convert evidence to a dictionary") Except.ok) = .ok refs :=
  mapM_decode_encode fun _ _ => rfl

theorem fromDict_toDict (h : row.validate fromisoformat = .ok ()) :
    fromDict fromisoformat row.toDict = .ok row := by
  have hdecision : Review.ofText? (pyStr (.str row.decision.text)) = some row.decision :=
    Review.ofText?_text row.decision
  change fromDict fromisoformat (.obj row.fields) = .ok row
  simp only [fromDict, except_bind_ok_iff, require_ok_iff, exists_const]
  refine ⟨fun _ => Iff.rfl, _, rfl, row.evidenceRefs, mapM_pyDict row.evidenceRefs, row.decision, ?_,
    (), h, rfl, rfl⟩
  rw [show payloadGet row.fields "decision" = .str row.decision.text from rfl, hdecision]
  rfl

theorem leavesOnOneLine_toDict (row : ReviewDecision) :
    row.toDict.leavesOnOneLine = Json.fieldsOnOneLine row.stable := by
  have hfingerprint : onOneLine (Json.quote row.rowFingerprint) = true := by
    rw [Json.onOneLine_quote_eq_lineFree]
    exact Json.lineFree_sha256 (Json.contentSha256_isSha256 _)
  have hname : onOneLine (Json.quote "row_fingerprint") = true := by decide
  simp only [toDict, fields, stable, Json.leavesOnOneLine, Json.fieldsOnOneLine,
    List.cons_append, List.nil_append, hfingerprint, hname, Bool.and_true]

end ReviewDecision

/-- No text of the decision has a line boundary that quoting keeps, and a review
that can expire has a zoned time. -/
def ReviewDecision.Queryable (fromisoformat : Fromisoformat) (row : ReviewDecision) : Prop :=
  Json.fieldsOnOneLine row.stable = true ∧ (row.decision = .reviewed →
    ∃ instant, timestamp? fromisoformat row.reviewedAtUtc = some (.zoned instant))

/-- No text of the candidate has a line boundary that quoting keeps, and its
semantics can be in a set. -/
def SkillCandidate.Queryable (candidate : SkillCandidate) : Prop :=
  Json.fieldsOnOneLine candidate.authored = true ∧
    candidate.requiredSemantics.all hashable = true

/-- Both stores, with what `record` and `append` have accepted. -/
structure SkillStores where
  ladder : PromotionLadder
  registry : SkillRegistry
  decisions : List ReviewDecision
  candidates : List SkillCandidate

inductive StoreCall where
  | record (decision : ReviewDecision)
  | append (candidate : SkillCandidate)

namespace SkillStores

section Runs

variable (fromisoformat : Fromisoformat) (disk : Disk) (stores : SkillStores)

def empty : SkillStores := ⟨⟨[]⟩, ⟨[]⟩, [], []⟩

/-- One call; one that raises changes nothing. -/
def after : StoreCall → SkillStores
  | .record decision =>
    match stores.ladder.record fromisoformat decision with
    | .ok (true, ladder) => { stores with ladder, decisions := stores.decisions ++ [decision] }
    | .ok (false, ladder) => { stores with ladder }
    | .error _ => stores
  | .append candidate =>
    match stores.registry.append disk candidate with
    | .ok (true, registry) =>
      { stores with registry, candidates := stores.candidates ++ [candidate] }
    | .ok (false, registry) => { stores with registry }
    | .error _ => stores

/-- Both readers list what was accepted, in order and none twice, and both
queries answer for every key. -/
structure Readable : Prop where
  decisions : stores.ladder.readDecisions fromisoformat = .ok stores.decisions
  candidates : stores.registry.readRevisions disk = .ok stores.candidates
  distinctDecisions : (stores.decisions.map ReviewDecision.rowFingerprint).Nodup
  distinctCandidates : (stores.candidates.map SkillCandidate.candidateFingerprint).Nodup
  statuses : ∀ skillId revisionId now instant,
    ReviewDecision.timestamp? fromisoformat now = some (.zoned instant) →
      ∃ status, stores.ladder.effectiveStatus fromisoformat skillId revisionId now = .ok status
  retrieves : ∀ taskFamily semantics limit,
    ∃ candidates, stores.registry.retrieve disk taskFamily semantics limit = .ok candidates

/-- Where the call adds a value, that value can be queried. -/
def AddsQueryable : StoreCall → Prop
  | .record decision => ∀ ladder, stores.ladder.record fromisoformat decision = .ok (true, ladder) →
      decision.Queryable fromisoformat
  | .append candidate => ∀ registry, stores.registry.append disk candidate = .ok (true, registry) →
      candidate.Queryable

/-- The rows are those of the accepted values. -/
structure Holds : Prop where
  ladder : Stored ReviewDecision.toDict ReviewDecision.rowFingerprint
    (fun row => row.validate fromisoformat = .ok ()) stores.ladder.rows stores.decisions
  registry : Stored SkillCandidate.toDict SkillCandidate.candidateFingerprint
    (fun candidate => candidate.validate disk = .ok ()) stores.registry.rows stores.candidates

end Runs

variable {fromisoformat : Fromisoformat} {disk : Disk} {stores : SkillStores}

theorem holds_empty : empty.Holds fromisoformat disk := ⟨stored_nil, stored_nil⟩

theorem Holds.record_ok_iff (h : stores.Holds fromisoformat disk) {decision : ReviewDecision}
    {result : Bool × PromotionLadder} :
    stores.ladder.record fromisoformat decision = .ok result ↔
      decision.validate fromisoformat = .ok () ∧
        result = if decision.rowFingerprint ∈ stores.decisions.map ReviewDecision.rowFingerprint
          then (false, stores.ladder)
          else (true, ⟨stores.ladder.rows ++ [decision.toDict]⟩) :=
  h.ladder.add_ok_iff fun _ => rfl

theorem Holds.append_ok_iff (h : stores.Holds fromisoformat disk) {candidate : SkillCandidate}
    {result : Bool × SkillRegistry} :
    stores.registry.append disk candidate = .ok result ↔
      candidate.validate disk = .ok () ∧
        result = if candidate.candidateFingerprint ∈
            stores.candidates.map SkillCandidate.candidateFingerprint
          then (false, stores.registry)
          else (true, ⟨stores.registry.rows ++ [candidate.toDict]⟩) :=
  h.registry.add_ok_iff fun _ => rfl

/-- The decision is valid and new. -/
def Records (fromisoformat : Fromisoformat) (stores : SkillStores) (decision : ReviewDecision) :
    Prop :=
  decision.validate fromisoformat = .ok () ∧
    decision.rowFingerprint ∉ stores.decisions.map ReviewDecision.rowFingerprint

/-- The candidate is valid and new. -/
def Appends (disk : Disk) (stores : SkillStores) (candidate : SkillCandidate) : Prop :=
  candidate.validate disk = .ok () ∧
    candidate.candidateFingerprint ∉ stores.candidates.map SkillCandidate.candidateFingerprint

theorem Holds.record_true_iff (h : stores.Holds fromisoformat disk) {decision : ReviewDecision}
    {ladder : PromotionLadder} :
    stores.ladder.record fromisoformat decision = .ok (true, ladder) ↔
      stores.Records fromisoformat decision ∧
        ladder = ⟨stores.ladder.rows ++ [decision.toDict]⟩ := by
  rw [h.record_ok_iff, Records, and_assoc]
  apply and_congr_right
  intro _
  split
  · next hold => simp [hold]
  · next hnew => simp [hnew]

theorem Holds.append_true_iff (h : stores.Holds fromisoformat disk) {candidate : SkillCandidate}
    {registry : SkillRegistry} :
    stores.registry.append disk candidate = .ok (true, registry) ↔
      stores.Appends disk candidate ∧
        registry = ⟨stores.registry.rows ++ [candidate.toDict]⟩ := by
  rw [h.append_ok_iff, Appends, and_assoc]
  apply and_congr_right
  intro _
  split
  · next hold => simp [hold]
  · next hnew => simp [hnew]

/-- The stores with one more decision. -/
def recorded (stores : SkillStores) (decision : ReviewDecision) : SkillStores :=
  { stores with
    ladder := ⟨stores.ladder.rows ++ [decision.toDict]⟩
    decisions := stores.decisions ++ [decision] }

/-- The stores with one more candidate. -/
def appended (stores : SkillStores) (candidate : SkillCandidate) : SkillStores :=
  { stores with
    registry := ⟨stores.registry.rows ++ [candidate.toDict]⟩
    candidates := stores.candidates ++ [candidate] }

theorem Holds.after_record (h : stores.Holds fromisoformat disk) (decision : ReviewDecision) :
    (stores.Records fromisoformat decision ∧
        stores.after fromisoformat disk (.record decision) = stores.recorded decision) ∨
      (¬stores.Records fromisoformat decision ∧
        stores.after fromisoformat disk (.record decision) = stores) := by
  by_cases hrecords : stores.Records fromisoformat decision
  · left
    refine ⟨hrecords, ?_⟩
    rw [after, h.record_true_iff.mpr ⟨hrecords, rfl⟩]
    rfl
  · right
    refine ⟨hrecords, ?_⟩
    unfold after
    dsimp only
    split
    · next ladder hrun => exact absurd (h.record_true_iff.mp hrun).1 hrecords
    · next ladder hrun =>
      have hresult := (h.record_ok_iff.mp hrun).2
      split at hresult
      · cases hresult
        rfl
      · cases hresult
    · rfl

theorem Holds.after_append (h : stores.Holds fromisoformat disk) (candidate : SkillCandidate) :
    (stores.Appends disk candidate ∧
        stores.after fromisoformat disk (.append candidate) = stores.appended candidate) ∨
      (¬stores.Appends disk candidate ∧
        stores.after fromisoformat disk (.append candidate) = stores) := by
  by_cases happends : stores.Appends disk candidate
  · left
    refine ⟨happends, ?_⟩
    rw [after, h.append_true_iff.mpr ⟨happends, rfl⟩]
    rfl
  · right
    refine ⟨happends, ?_⟩
    unfold after
    dsimp only
    split
    · next registry hrun => exact absurd (h.append_true_iff.mp hrun).1 happends
    · next registry hrun =>
      have hresult := (h.append_ok_iff.mp hrun).2
      split at hresult
      · cases hresult
        rfl
      · cases hresult
    · rfl

theorem Holds.readDecisions_iff (h : stores.Holds fromisoformat disk) :
    stores.ladder.readDecisions fromisoformat = .ok stores.decisions ↔
      ∀ row ∈ stores.decisions, Json.fieldsOnOneLine row.stable = true := by
  have hdecodes : ∀ row ∈ stores.decisions, (decisionFormat fromisoformat).decode
      ((decisionFormat fromisoformat).encode row) = .ok row :=
    fun row hrow => ReviewDecision.fromDict_toDict (h.ladder.valid row hrow)
  have hread := RowFormat.read_lineBoundary_iff hdecodes stores.decisions
  rw [PromotionLadder.readDecisions, h.ladder.rows]
  refine hread.trans ⟨?_, ?_⟩
  · intro hboth row hrow
    rw [← row.leavesOnOneLine_toDict]
    exact hboth.2 row hrow
  · intro hlines
    refine ⟨rfl, ?_⟩
    intro row hrow
    exact row.leavesOnOneLine_toDict.trans (hlines row hrow)

theorem Holds.readRevisions_iff (h : stores.Holds fromisoformat disk) :
    stores.registry.readRevisions disk = .ok stores.candidates ↔
      ∀ candidate ∈ stores.candidates, Json.fieldsOnOneLine candidate.authored = true := by
  have hread := RowFormat.read_lineBoundary_iff
    (SkillCandidate.decodes_of_validate h.registry.valid) stores.candidates
  rw [SkillRegistry.readRevisions, h.registry.rows]
  refine hread.trans ⟨?_, ?_⟩
  · intro hboth candidate hmem
    rw [← candidate.leavesOnOneLine_toDict]
    exact hboth.2 candidate hmem
  · intro hlines
    refine ⟨rfl, ?_⟩
    intro candidate hmem
    exact candidate.leavesOnOneLine_toDict.trans (hlines candidate hmem)

theorem reviewStatus_ok_iff {reviewedAtUtc now : String} {instant : Int}
    (hnow : ReviewDecision.timestamp? fromisoformat now = some (.zoned instant)) :
    (∃ status, PromotionLadder.reviewStatus fromisoformat reviewedAtUtc now = .ok status) ↔
      ∃ reviewed, ReviewDecision.timestamp? fromisoformat reviewedAtUtc =
        some (.zoned reviewed) := by
  simp only [PromotionLadder.reviewStatus, hnow, except_bind_ok_iff]
  constructor
  · intro h
    obtain ⟨_, reviewedAt, hreviewed, _, hsame, age, hage, -⟩ := h
    cases hsame
    cases htime : ReviewDecision.timestamp? fromisoformat reviewedAtUtc with
    | none =>
      rw [htime] at hreviewed
      cases hreviewed
    | some time =>
      rw [htime] at hreviewed
      cases hreviewed
      cases reviewedAt with
      | naive wallClock => cases hage
      | zoned reviewed => exact ⟨reviewed, rfl⟩
  · intro h
    obtain ⟨reviewed, hreviewed⟩ := h
    rw [hreviewed]
    exact ⟨_, _, rfl, _, rfl, _, rfl, rfl⟩

theorem effectiveStatus_ok_iff {decisions : List ReviewDecision} {skillId revisionId now : String}
    {instant : Int} (hread : stores.ladder.readDecisions fromisoformat = .ok decisions)
    (hnow : ReviewDecision.timestamp? fromisoformat now = some (.zoned instant)) :
    (∃ status, stores.ladder.effectiveStatus fromisoformat skillId revisionId now = .ok status) ↔
      ∀ row, (decisions.filter fun row =>
          row.skillId = skillId ∧ row.revisionId = revisionId).getLast? = some row →
        row.decision = .reviewed → ∃ reviewed,
          ReviewDecision.timestamp? fromisoformat row.reviewedAtUtc = some (.zoned reviewed) := by
  have hlatest : stores.ladder.latest fromisoformat skillId revisionId =
      .ok (decisions.filter fun row =>
        row.skillId = skillId ∧ row.revisionId = revisionId).getLast? := by
    rw [PromotionLadder.latest, hread]
    rfl
  simp only [PromotionLadder.effectiveStatus, hlatest, except_bind_ok_iff]
  cases (decisions.filter fun row =>
      row.skillId = skillId ∧ row.revisionId = revisionId).getLast? with
  | none =>
    constructor
    · intro _ row hrow
      cases hrow
    · intro _
      exact ⟨_, _, rfl, rfl⟩
  | some row =>
    have hone : (∀ other, some row = some other → other.decision = .reviewed → ∃ reviewed,
        ReviewDecision.timestamp? fromisoformat other.reviewedAtUtc = some (.zoned reviewed)) ↔
        (row.decision = .reviewed → ∃ reviewed,
          ReviewDecision.timestamp? fromisoformat row.reviewedAtUtc =
            some (.zoned reviewed)) := by
      constructor
      · intro h
        exact h row rfl
      · intro h other hsame
        cases hsame
        exact h
    rw [hone]
    cases hdecision : row.decision with
    | active => simp [pure, Except.pure, hdecision]
    | rejected => simp [pure, Except.pure, hdecision]
    | reviewed =>
      rw [← reviewStatus_ok_iff hnow]
      simp [hdecision]

theorem selects_ok_iff {taskFamily : String} {semantics : List String}
    {candidate : SkillCandidate} :
    (∃ answer, SkillRegistry.selects taskFamily semantics candidate = .ok answer) ↔
      candidate.requiredSemantics.all hashable = true := by
  simp only [SkillRegistry.selects, SkillRegistry.requiredSet, except_bind_ok_iff, require_ok_iff,
    exists_const]
  constructor
  · intro h
    obtain ⟨_, _, hrequired, -⟩ := h
    exact hrequired.1
  · intro hhashable
    exact ⟨_, _, ⟨hhashable, rfl⟩, rfl⟩

theorem retrieve_ok_iff {candidates : List SkillCandidate} {taskFamily : String}
    {semantics : List String} {limit : Int}
    (hread : stores.registry.readRevisions disk = .ok candidates) :
    (∃ rows, stores.registry.retrieve disk taskFamily semantics limit = .ok rows) ↔
      ∀ candidate ∈ (SkillRegistry.latestOf candidates).values,
        candidate.requiredSemantics.all hashable = true := by
  have hselects : (∀ candidate ∈ (SkillRegistry.latestOf candidates).values,
      candidate.requiredSemantics.all hashable = true) ↔
      ∀ candidate ∈ (SkillRegistry.latestOf candidates).values, ∃ answer,
        SkillRegistry.selects taskFamily semantics candidate = .ok answer :=
    forall₂_congr fun _ _ => selects_ok_iff.symm
  rw [hselects, ← filterM_ok_iff]
  simp only [SkillRegistry.retrieve, hread, except_bind_ok_iff]
  constructor
  · intro h
    obtain ⟨_, _, hsame, selected, hselected, -⟩ := h
    cases hsame
    exact ⟨selected, hselected⟩
  · intro h
    obtain ⟨selected, hselected⟩ := h
    exact ⟨_, _, rfl, selected, hselected, rfl⟩

/-- The rows are those of accepted values, each of which can be queried. -/
structure Queried (fromisoformat : Fromisoformat) (disk : Disk) (stores : SkillStores) : Prop where
  holds : stores.Holds fromisoformat disk
  decisions : ∀ row ∈ stores.decisions, row.Queryable fromisoformat
  candidates : ∀ candidate ∈ stores.candidates, candidate.Queryable

theorem Queried.readable (h : stores.Queried fromisoformat disk) :
    stores.Readable fromisoformat disk := by
  have hdecisions := h.holds.readDecisions_iff.mpr fun row hrow => (h.decisions row hrow).1
  have hcandidates := h.holds.readRevisions_iff.mpr
    fun candidate hmem => (h.candidates candidate hmem).1
  refine ⟨hdecisions, hcandidates, h.holds.ladder.distinct, h.holds.registry.distinct, ?_, ?_⟩
  · intro skillId revisionId now instant hnow
    refine (effectiveStatus_ok_iff hdecisions hnow).mpr ?_
    intro row hlast
    have hrow := List.mem_of_mem_filter (List.mem_of_getLast? hlast)
    exact (h.decisions row hrow).2
  · intro taskFamily semantics limit
    refine (retrieve_ok_iff hcandidates).mpr ?_
    intro candidate hmem
    rcases Dict.mem_values_foldl_set SkillCandidate.skillId hmem with haccepted | hempty
    · exact (h.candidates candidate haccepted).2
    · cases hempty

theorem Queried.recorded (h : stores.Queried fromisoformat disk) {decision : ReviewDecision}
    (hrecords : stores.Records fromisoformat decision)
    (hqueryable : decision.Queryable fromisoformat) :
    (stores.recorded decision).Queried fromisoformat disk := by
  refine ⟨⟨h.holds.ladder.concat hrecords.1 hrecords.2, h.holds.registry⟩, ?_, h.candidates⟩
  intro row hrow
  rcases List.mem_append.mp hrow with hold | hnew
  · exact h.decisions row hold
  · rw [List.mem_singleton.mp hnew]
    exact hqueryable

theorem Queried.appended (h : stores.Queried fromisoformat disk) {candidate : SkillCandidate}
    (happends : stores.Appends disk candidate) (hqueryable : candidate.Queryable) :
    (stores.appended candidate).Queried fromisoformat disk := by
  refine ⟨⟨h.holds.ladder, h.holds.registry.concat happends.1 happends.2⟩, h.decisions, ?_⟩
  intro other hother
  rcases List.mem_append.mp hother with hold | hnew
  · exact h.candidates other hold
  · rw [List.mem_singleton.mp hnew]
    exact hqueryable

theorem Queried.after (h : stores.Queried fromisoformat disk) {call : StoreCall}
    (hadds : stores.AddsQueryable fromisoformat disk call) :
    (stores.after fromisoformat disk call).Queried fromisoformat disk := by
  cases call with
  | record decision =>
    rcases h.holds.after_record decision with ⟨hrecords, heq⟩ | ⟨-, heq⟩
    · rw [heq]
      exact h.recorded hrecords (hadds _ (h.holds.record_true_iff.mpr ⟨hrecords, rfl⟩))
    · rw [heq]
      exact h
  | append candidate =>
    rcases h.holds.after_append candidate with ⟨happends, heq⟩ | ⟨-, heq⟩
    · rw [heq]
      exact h.appended happends (hadds _ (h.holds.append_true_iff.mpr ⟨happends, rfl⟩))
    · rw [heq]
      exact h

end SkillStores

end JlensEvolve.Skills
