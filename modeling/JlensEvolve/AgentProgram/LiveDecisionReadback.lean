import Mathlib.Data.String.Basic
import JlensEvolve.ExecutionContracts
import JlensEvolve.Library.Effect
import JlensEvolve.Library.KeyedSort

/-!
The decision of a live tournament. The strategy writes it into the reason of an
advisory decision as fields between semicolons, and the campaign reads two of
these fields back.
-/

namespace JlensEvolve.AgentProgram

open Library Contracts

/-- The action and the reason of a `StrategyDecision`, with the claims it rests
on. -/
structure StrategyDecision where
  action : String
  reason : String
  claimIds : List String
deriving DecidableEq

/-- What `_live_next_action` reads. `plan` is what `self.plan(context)` returns,
and `bound` whether the claims are those of the evidence graph. -/
structure LiveContext where
  tournamentId : Json
  parentRevisionId : String
  candidateRevisionIds : List String
  bound : List Claim → Bool
  plan : Except String (List ExecutionPlan)

namespace LiveContext

variable (context : LiveContext)

def participants : List String := context.parentRevisionId :: context.candidateRevisionIds

/-- `weights`. -/
def weight : ClaimClassification → Int
  | .gain => 2
  | .neutral => 0
  | .regression => -2
  | .infraFailure => -1

/-- The entry of a revision in `scores`. -/
def score (claims : List Claim) (revision : String) : Int :=
  ((claims.filter (·.candidateId = revision)).map (weight ·.classification)).sum

/-- The parent if it is among the tied, else the least of the tied. -/
def winner (claims : List Claim) : Except String String :=
  match (context.participants.map (score claims)).max? with
  | none => .error "max() iterable argument is empty"
  | some highest =>
    let tied := context.participants.filter (score claims · = highest)
    if context.parentRevisionId ∈ tied then .ok context.parentRevisionId
    else match tied.min? with
      | none => .error "min() iterable argument is empty"
      | some least => .ok least

/-- The claims are complete: one above grade E0 for each participant, under ids
of their own, and bound to the evidence graph. -/
def ClaimsComplete (claims : List Claim) : Prop :=
  claims ≠ [] ∧ (claims.map (·.claimId)).Nodup ∧
    claims.length = context.participants.length ∧
    sameSet (claims.map (·.candidateId)) context.participants ∧
    (∀ claim ∈ claims, claim.grade ≠ .E0) ∧ context.bound claims = true

instance (claims : List Claim) : Decidable (context.ClaimsComplete claims) :=
  inferInstanceAs (Decidable (_ ∧ _))

/-- `plan.metadata["program_bundle_sha256"]`. -/
def bundleRow (plan : ExecutionPlan) : Except String Json :=
  match Json.field? plan.metadata "program_bundle_sha256" with
  | none => .error "program_bundle_sha256"
  | some bundle => .ok (.arr [.str plan.candidateRevisionId, bundle])

/-- What `decision_sha256` is taken over. -/
def decisionJson (bundles : List Json) (claims : List Claim) (winner : String) : Json :=
  .obj [("tournament_id", context.tournamentId), ("execution_scope", .str "live"),
    ("parent_revision_id", .str context.parentRevisionId),
    ("participant_revision_ids", .arr (context.participants.map .str)),
    ("program_bundle_sha256", .arr bundles),
    ("claim_ids", .arr (claims.map (.str ·.claimId))),
    ("claim_sha256", .arr (claims.map fun claim =>
      .arr [.str claim.claimId, .str claim.contentSha256])),
    ("scores", .arr (context.participants.map fun revision =>
      .arr [.str revision, .int (score claims revision)])),
    ("winner_revision_id", .str winner)]

end LiveContext

def liveFields (decisionSha256 winner : String) : List String :=
  ["decision=" ++ decisionSha256, "winner=" ++ winner, "scope=live", "promotion_claimed=false"]

/-- `decision=…;winner=…;scope=live;promotion_claimed=false`. -/
def liveReason (decisionSha256 winner : String) : String :=
  String.ofList ([';'].intercalate ((liveFields decisionSha256 winner).map String.toList))

/-- The action that goes with a winner. -/
def liveAction (winner parentRevisionId : String) : String :=
  if winner ≠ parentRevisionId then "advance-search-parent" else "reject-candidates"

def liveNextAction (context : LiveContext) (claims : List Claim) :
    Except String StrategyDecision :=
  let ordered := KeyedSort.sortBy (·.claimId) claims
  let claimIds := ordered.map (·.claimId)
  if ¬ context.ClaimsComplete ordered then
    .ok ⟨"await-tournament-authority", "live tournament requires complete participant Claims",
      claimIds⟩
  else do
    let plans ← context.plan
    let winner ← context.winner ordered
    let bundles ← plans.mapM LiveContext.bundleRow
    let decisionSha256 := (context.decisionJson bundles ordered winner).contentSha256
    pure ⟨liveAction winner context.parentRevisionId, liveReason decisionSha256 winner, claimIds⟩

/-- `text.split(";")`. -/
def itemsOf (text : String) : List String := (text.toList.splitOn ';').map String.ofList

/-- `item.split("=", 1)` of an item that has an `=`. -/
def nameAndValue (item : String) : Option (String × String) :=
  if '=' ∈ item.toList then
    some (String.ofList (item.toList.takeWhile (· ≠ '=')),
      String.ofList (item.toList.dropWhile (· ≠ '=')).tail)
  else none

/-- What one item adds to `fields`. -/
def setField (fields : Dict String String) (item : String) : Dict String String :=
  match nameAndValue item with
  | none => fields
  | some (name, value) => fields.set name value

/-- `fields`, in which the last item of a name stands. -/
def fieldsOf (items : List String) : Dict String String := items.foldl setField Dict.empty

def projectLiveDecision (decision : StrategyDecision) (participants : List String) :
    Except String (String × String) :=
  let fields := fieldsOf (itemsOf decision.reason)
  match fields.get? "decision", fields.get? "winner" with
  | some decisionSha256, some winner => do
    require (isSha256 decisionSha256 = true ∧ winner ∈ participants)
      "live AgentProgram decision projection is invalid"
    require (decision.action = liveAction winner (participants.headD winner))
      "live AgentProgram decision action drift"
    pure (decisionSha256, winner)
  | _, _ => .error "live AgentProgram decision projection is invalid"

end JlensEvolve.AgentProgram

/-!
Reading a live decision back. The campaign takes the last item of each of the
two names it reads and lets every other item pass, so it accepts more reasons
than the strategy writes; what the strategy writes it reads back, as long as the
winner has no semicolon in it.
-/

namespace JlensEvolve.AgentProgram

open Library Contracts

theorem nameAndValue_field {name : String} (hname : '=' ∉ name.toList) (value : String) :
    nameAndValue (name ++ "=" ++ value) = some (name, value) := by
  have htext : (name ++ "=" ++ value).toList = name.toList ++ '=' :: value.toList := by
    simp only [String.toList_append, List.append_assoc]
    rfl
  have hbefore : ∀ c ∈ name.toList, decide (c ≠ '=') = true := by
    intro c hc
    exact decide_eq_true fun hsame => hname (hsame ▸ hc)
  rw [nameAndValue, htext, if_pos (List.mem_append_right _ List.mem_cons_self),
    List.takeWhile_append_of_pos hbefore, List.dropWhile_append_of_pos hbefore]
  simp

theorem itemsOf_join {items : List String} (hitems : ∀ item ∈ items, ';' ∉ item.toList)
    (hne : items ≠ []) :
    itemsOf (String.ofList ([';'].intercalate (items.map String.toList))) = items := by
  have hpieces : ∀ piece ∈ items.map String.toList, ';' ∉ piece := by
    simp only [List.forall_mem_map]
    exact hitems
  rw [itemsOf, String.toList_ofList,
    List.splitOn_intercalate ';' hpieces (by rwa [ne_eq, List.map_eq_nil_iff]), List.map_map]
  simp

/-- No item has this name. -/
def Unnamed (items : List String) (name : String) : Prop :=
  ∀ item ∈ items, ∀ value, nameAndValue item ≠ some (name, value)

/-- The last item with this name carries this value. -/
def LastField (items : List String) (name value : String) : Prop :=
  ∃ before item after, items = before ++ item :: after ∧
    nameAndValue item = some (name, value) ∧ Unnamed after name

theorem not_lastField_nil (name value : String) : ¬ LastField [] name value := by
  intro h
  obtain ⟨before, item, after, hitems, -⟩ := h
  exact List.append_ne_nil_of_right_ne_nil before (List.cons_ne_nil item after) hitems.symm

theorem lastField_cons_iff {item name value : String} {rest : List String} :
    LastField (item :: rest) name value ↔
      LastField rest name value ∨ nameAndValue item = some (name, value) ∧ Unnamed rest name := by
  constructor
  · intro h
    obtain ⟨before, field, after, hitems, hfield, hafter⟩ := h
    cases before with
    | nil =>
      cases hitems
      exact Or.inr ⟨hfield, hafter⟩
    | cons first others =>
      cases hitems
      exact Or.inl ⟨others, field, after, rfl, hfield, hafter⟩
  · intro h
    rcases h with ⟨before, field, after, rfl, hfield, hafter⟩ | ⟨hfield, hafter⟩
    · exact ⟨item :: before, field, after, rfl, hfield, hafter⟩
    · exact ⟨[], item, rest, rfl, hfield, hafter⟩

theorem get?_fieldsOf_iff {items : List String} {name value : String} :
    (fieldsOf items).get? name = some value ↔ LastField items name value := by
  have hfold : ∀ fields : Dict String String,
      (items.foldl setField fields).get? name = some value ↔
      LastField items name value ∨ fields.get? name = some value ∧ Unnamed items name := by
    induction items with
    | nil =>
      intro fields
      simp [Unnamed, not_lastField_nil]
    | cons item rest ih =>
      intro fields
      rw [List.foldl_cons, ih, lastField_cons_iff, or_assoc]
      refine or_congr_right ?_
      have hunnamed : Unnamed (item :: rest) name ↔
          (∀ other, nameAndValue item ≠ some (name, other)) ∧ Unnamed rest name :=
        List.forall_mem_cons
      rw [hunnamed, setField]
      cases hitem : nameAndValue item with
      | none => simp
      | some field =>
        obtain ⟨found, held⟩ := field
        simp only [Dict.get?_set, Option.some.injEq, Prod.mk.injEq, ne_eq, not_and]
        by_cases hsame : found = name
        · subst hsame
          simp
        · simp [hsame, Ne.symm hsame]
  rw [fieldsOf, hfold]
  simp

/-- The campaign reads a decision exactly where the last item named `decision` is
a digest, the last item named `winner` is a participant, and the action is the
one that goes with that winner; it refuses every other one. -/
theorem projectLiveDecision_ok_iff {decision : StrategyDecision} {parent : String}
    {candidates : List String} {decisionSha256 winner : String} :
    projectLiveDecision decision (parent :: candidates) = .ok (decisionSha256, winner) ↔
      (LastField (itemsOf decision.reason) "decision" decisionSha256 ∧
        isSha256 decisionSha256 = true) ∧
      (LastField (itemsOf decision.reason) "winner" winner ∧ winner ∈ parent :: candidates) ∧
      decision.action = liveAction winner parent := by
  rw [← get?_fieldsOf_iff, ← get?_fieldsOf_iff]
  cases hdecision : (fieldsOf (itemsOf decision.reason)).get? "decision" with
  | none => simp [projectLiveDecision, hdecision]
  | some digest =>
    cases hwinner : (fieldsOf (itemsOf decision.reason)).get? "winner" with
    | none => simp [projectLiveDecision, hdecision, hwinner]
    | some found =>
      simp only [projectLiveDecision, hdecision, hwinner, except_bind_ok_iff, require_ok_iff,
        exists_const, Option.some.injEq]
      rw [List.headD_cons]
      constructor
      · intro h
        obtain ⟨⟨hsha, hmember⟩, haction, hsame⟩ := h
        cases hsame
        exact ⟨⟨rfl, hsha⟩, ⟨rfl, hmember⟩, haction⟩
      · intro h
        obtain ⟨⟨rfl, hsha⟩, ⟨rfl, hmember⟩, haction⟩ := h
        exact ⟨⟨hsha, hmember⟩, haction, rfl⟩

theorem itemsOf_liveReason {decisionSha256 winner : String}
    (hsha : isSha256 decisionSha256 = true) (hwinner : ';' ∉ winner.toList) :
    itemsOf (liveReason decisionSha256 winner) = liveFields decisionSha256 winner := by
  have hdigest : ';' ∉ decisionSha256.toList := by
    intro hmem
    simp only [isSha256, Sha256.isSha256, Bool.and_eq_true, List.all_eq_true] at hsha
    exact absurd (hsha.2 ';' hmem) (by decide)
  have hitems : ∀ item ∈ liveFields decisionSha256 winner, ';' ∉ item.toList := by
    simp only [liveFields, List.forall_mem_cons, String.toList_append, List.mem_append, not_or]
    refine ⟨⟨by decide, hdigest⟩, ⟨by decide, hwinner⟩, by decide, by decide, ?_⟩
    intro item hnone
    exact absurd hnone List.not_mem_nil
  have hne : liveFields decisionSha256 winner ≠ [] := List.cons_ne_nil _ _
  exact itemsOf_join hitems hne

theorem lastField_liveFields (decisionSha256 winner : String) :
    LastField (liveFields decisionSha256 winner) "decision" decisionSha256 ∧
      LastField (liveFields decisionSha256 winner) "winner" winner := by
  have hdecisionName : "decision=" = "decision" ++ "=" := rfl
  have hwinnerName : "winner=" = "winner" ++ "=" := rfl
  have hdecision : nameAndValue ("decision=" ++ decisionSha256) =
      some ("decision", decisionSha256) := by
    rw [hdecisionName]
    exact nameAndValue_field (by decide) decisionSha256
  have hwinner : nameAndValue ("winner=" ++ winner) = some ("winner", winner) := by
    rw [hwinnerName]
    exact nameAndValue_field (by decide) winner
  have hscope : nameAndValue "scope=live" = some ("scope", "live") := by decide
  have hclaimed : nameAndValue "promotion_claimed=false" =
      some ("promotion_claimed", "false") := by decide
  constructor
  · refine ⟨[], _, _, rfl, hdecision, ?_⟩
    simp only [Unnamed, List.forall_mem_cons, hwinner, hscope, hclaimed]
    simp
  · refine ⟨["decision=" ++ decisionSha256], _, _, rfl, hwinner, ?_⟩
    simp only [Unnamed, List.forall_mem_cons, hscope, hclaimed]
    simp

theorem winner_mem_participants {context : LiveContext} {claims : List Claim} {winner : String}
    (h : context.winner claims = .ok winner) : winner ∈ context.participants := by
  rw [LiveContext.winner] at h
  split at h
  · cases h
  · simp only at h
    split at h
    · cases h
      exact List.mem_cons_self
    · split at h
      · cases h
      · next least hleast =>
        cases h
        exact (List.mem_filter.mp (List.min?_mem hleast)).1

/-- What the strategy writes about a live tournament: the digest of the decision
and a winner among the participants, with the action that goes with it. -/
theorem liveNextAction_writes {context : LiveContext} {claims : List Claim}
    {decision : StrategyDecision} (h : liveNextAction context claims = .ok decision)
    (hlive : decision.action ≠ "await-tournament-authority") :
    ∃ bundles winner, context.winner (KeyedSort.sortBy (·.claimId) claims) = .ok winner ∧
      decision.action = liveAction winner context.parentRevisionId ∧
      decision.reason = liveReason (context.decisionJson bundles
        (KeyedSort.sortBy (·.claimId) claims) winner).contentSha256 winner := by
  simp only [liveNextAction] at h
  split at h
  · cases h
    exact absurd rfl hlive
  · simp only [except_bind_ok_iff] at h
    obtain ⟨plans, -, winner, hwinner, bundles, -, hdecision⟩ := h
    cases hdecision
    exact ⟨bundles, winner, hwinner, rfl, rfl⟩

/-- A live decision whose winner has no semicolon is read back as it was written.
Whatever is read has its digest and its winner, a participant, in the last items
of these names, and the action of that winner; every other decision is refused. -/
theorem projected_live_decision (context : LiveContext) :
    (∀ (claims : List Claim) (decision : StrategyDecision),
      liveNextAction context claims = .ok decision →
      decision.action ≠ "await-tournament-authority" →
      ∃ bundles winner, context.winner (KeyedSort.sortBy (·.claimId) claims) = .ok winner ∧
        (';' ∉ winner.toList →
          projectLiveDecision decision context.participants =
            .ok ((context.decisionJson bundles
              (KeyedSort.sortBy (·.claimId) claims) winner).contentSha256, winner))) ∧
    ∀ (decision : StrategyDecision) (decisionSha256 winner : String),
      projectLiveDecision decision context.participants = .ok (decisionSha256, winner) ↔
        (LastField (itemsOf decision.reason) "decision" decisionSha256 ∧
          isSha256 decisionSha256 = true) ∧
        (LastField (itemsOf decision.reason) "winner" winner ∧ winner ∈ context.participants) ∧
        decision.action = liveAction winner context.parentRevisionId := by
  refine ⟨?_, fun decision decisionSha256 winner => projectLiveDecision_ok_iff⟩
  intro claims decision hdecision hlive
  obtain ⟨bundles, winner, hwinner, haction, hreason⟩ := liveNextAction_writes hdecision hlive
  refine ⟨bundles, winner, hwinner, fun hplain => ?_⟩
  have hsha := Json.contentSha256_isSha256
    (context.decisionJson bundles (KeyedSort.sortBy (·.claimId) claims) winner)
  obtain ⟨hdigest, hfield⟩ := lastField_liveFields (context.decisionJson bundles
    (KeyedSort.sortBy (·.claimId) claims) winner).contentSha256 winner
  rw [LiveContext.participants, projectLiveDecision_ok_iff, hreason,
    itemsOf_liveReason hsha hplain]
  exact ⟨⟨hdigest, hsha⟩, ⟨hfield, winner_mem_participants hwinner⟩, haction⟩

/-! The two fields alone, in the other order, are read as well, and a winner with
a semicolon is not read back. -/

def zeroDigest : String := "0000000000000000000000000000000000000000000000000000000000000000"

def unordered : StrategyDecision :=
  ⟨"reject-candidates",
    "winner=p;decision=0000000000000000000000000000000000000000000000000000000000000000", []⟩

theorem unordered_projected :
    projectLiveDecision unordered ["p", "a;b"] = .ok (zeroDigest, "p") ∧
      (∀ decisionSha256 winner, unordered.reason ≠ liveReason decisionSha256 winner) ∧
      projectLiveDecision ⟨liveAction "a;b" "p", liveReason zeroDigest "a;b", []⟩ ["p", "a;b"] =
        .error "live AgentProgram decision projection is invalid" := by
  refine ⟨by decide +kernel, ?_, by decide +kernel⟩
  intro decisionSha256 winner hsame
  have hhead : ∃ rest, (liveReason decisionSha256 winner).toList = 'd' :: rest := by
    rw [liveReason, String.toList_ofList]
    simp only [liveFields, List.map_cons, String.toList_append]
    exact ⟨_, rfl⟩
  obtain ⟨rest, hrest⟩ := hhead
  rw [← hsame] at hrest
  have hfirst : unordered.reason.toList.head? = some 'd' := congrArg List.head? hrest
  exact absurd hfirst (by decide)

end JlensEvolve.AgentProgram
