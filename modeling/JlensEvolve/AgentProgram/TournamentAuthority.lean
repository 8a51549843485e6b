import Mathlib.Algebra.Order.Field.Rat
import Mathlib.Data.List.Dedup
import Mathlib.Data.String.Basic
import JlensEvolve.AgentProgram.SearchParent
import JlensEvolve.Runtime.Ports

/-!
`TournamentAuthority` of `agent_program/tournament.py`: a complete matched matrix
of executions is aggregated into one decision. Scores are exact rationals.
-/

namespace JlensEvolve.AgentProgram

open Library Contracts JlensEvolve.Runtime

/-- One row of the matrix: a plan with its execution. -/
abbrev Row := ExecutionPlan × ExecutionResult

namespace TournamentDecision

/-- `decision_id`. -/
def idOf (decisionSha256 : String) : String :=
  "tournament-decision-" ++ String.ofList (decisionSha256.toList.take 24)

/-- `__post_init__`, for the decision under the given `decision_id`. -/
def postInit (decision : TournamentDecision) (decisionId : String) : Except String Unit := do
  let expected := decision.identityPayload.contentSha256
  require (decision.decisionSha256 = expected) "tournament decision hash mismatch"
  require (decisionId = idOf expected) "tournament decision identity mismatch"
  require (decision.executionScope = "fixture") "fixture tournament scope mismatch"
  require (decision.participantRevisionIds.head? = some decision.parentRevisionId)
    "tournament parent ordering mismatch"
  require (decision.winnerRevisionId ∈ decision.participantRevisionIds)
    "tournament winner is not a participant"
  require (decision.advanced = decide (decision.winnerRevisionId ≠ decision.parentRevisionId))
    "tournament advance outcome mismatch"

end TournamentDecision

namespace TournamentAuthority

def scorePolicyId : String := "fixture-mean-score-v1"

def modelReceipt (plan : ExecutionPlan) (execution : ExecutionResult) : Except String Receipt := do
  require (∀ receipt ∈ execution.receipts,
    receipt.planId = plan.planId ∧ receipt.campaignId = plan.campaignId)
    "tournament receipt identity drift"
  match execution.receipts.filter (·.kind = "model") with
  | [model] =>
    require (model.artifactSha256 = (Json.obj model.payload).contentSha256)
      "tournament model receipt artifact drift"
    pure model
  | _ => .error "tournament requires one model receipt per cell"

def matchedConfig (plan : ExecutionPlan) : String :=
  (Json.obj [("strategy_id", .str plan.strategyId), ("model", plan.model.toJson),
    ("context_policy_id", .str plan.contextPolicyId),
    ("tool_policy_id", .str plan.toolPolicyId),
    ("observer_policy_ids", .arr (plan.observerPolicyIds.map .str)),
    ("native_evaluator_id", .str plan.nativeEvaluatorId), ("limits", plan.limits.toJson),
    ("holdout_scope", .str plan.holdoutScope),
    ("execution_profile", payloadGet plan.metadata "execution_profile"),
    ("tournament_config_sha256",
      payloadGet plan.metadata "tournament_config_sha256")]).contentSha256

def programParts : List String :=
  ["program_prompt_sha256", "program_context_sha256", "program_tool_policy_sha256",
    "program_capabilities_sha256"]

/-- `float(score)` of a finite number that is no bool. -/
def fixtureScore : Json → Except String ℚ
  | .int value => .ok value
  | .float value => .ok value
  | _ => .error "tournament fixture score is invalid"

/-- A non-empty `program_id`. -/
def programIdOf : Json → Except String String
  | .str programId =>
    if programId = "" then .error "tournament program_id is missing" else .ok programId
  | _ => .error "tournament program_id is missing"

/-- `str(payload["program_bundle_sha256"])`, a `KeyError` where it is absent. -/
def bundleOf (payload : Payload) : Except String String :=
  match Json.field? payload "program_bundle_sha256" with
  | none => .error "program_bundle_sha256"
  | some bundle => .ok (pyStr bundle)

/-- What one row adds to the matrix. -/
structure Cell where
  revisionId : String
  score : ℚ
  programId : String
  bundle : String
  receiptId : String

/-- One turn of the loop over the rows, up to the comparison with the rows
before it. -/
def readCell (parentRevisionId : String) (row : Row) : Except String Cell := do
  let plan := row.1
  require (row.2.status = "completed") "tournament contains a partial execution"
  let model ← modelReceipt plan row.2
  let payload := model.payload
  require (payloadGet payload "execution_scope" = .str "fixture")
    "tournament execution scope drift"
  require (payloadGet payload "revision_id" = .str plan.candidateRevisionId)
    "tournament program revision drift"
  require (Json.pyEq (payloadGet payload "program_bundle_sha256")
    (payloadGet plan.metadata "program_bundle_sha256") = true) "tournament program bundle drift"
  require (plan.arm = "candidate" →
    payloadGet payload "parent_revision_id" = .str parentRevisionId)
    "candidate tournament parent drift"
  programParts.forM fun name =>
    require (Json.pyEq (payloadGet payload name) (payloadGet plan.metadata name) = true)
      ("tournament " ++ name ++ " drift")
  let score ← fixtureScore (payloadGet payload "fixture_score")
  let programId ← programIdOf (payloadGet payload "program_id")
  let bundle ← bundleOf payload
  pure ⟨plan.candidateRevisionId, score, programId, bundle, model.receiptId⟩

/-- The cell whose bundle stands in `bundles` under the revision: the first one. -/
def bundleHolder (cells : List Cell) (revisionId : String) : Option Cell :=
  cells.find? fun cell => cell.revisionId = revisionId

/-- The loop over the rows. -/
def readCells (parentRevisionId : String) (cells : List Cell) : List Row → Except String (List Cell)
  | [] => .ok cells
  | row :: rest => do
    let cell ← readCell parentRevisionId row
    require (∀ prior ∈ bundleHolder cells cell.revisionId, prior.bundle = cell.bundle)
      "tournament revision bundle drift"
    readCells parentRevisionId (cells ++ [cell]) rest

/-- The value of a set that has exactly one. -/
def onlyOne {α : Type} [DecidableEq α] (values : List α) (error : String) : Except String α :=
  match values.dedup with
  | [value] => .ok value
  | _ => .error error

/-- What the checks over all plans find. -/
structure Matrix where
  tournamentId : String
  campaignId : String
  parentRevisionId : String
  candidates : List String
  tasks : List String
  tournamentConfigSha256 : String
  matchedConfigSha256 : String

def Matrix.participants (matrix : Matrix) : List String :=
  matrix.parentRevisionId :: matrix.candidates

def tournamentIdOf : Json → Except String String
  | .str tournamentId =>
    if tournamentId = "" then .error "tournament_id is missing" else .ok tournamentId
  | _ => .error "tournament_id is missing"

def tournamentConfigOf : Json → Except String String
  | .str digest =>
    if digest.length = 64 then .ok digest else .error "tournament config hash is invalid"
  | _ => .error "tournament config hash is invalid"

/-- The revisions of one arm, in the order of the plans. -/
def revisionsOf (arm : String) (plans : List ExecutionPlan) : List String :=
  (plans.filter (·.arm = arm)).map (·.candidateRevisionId)

def cellOf (plan : ExecutionPlan) : String × String :=
  (plan.task.revisionId, plan.candidateRevisionId)

/-- `set(cells) == {(task, revision) for task in tasks for revision in participants}`. -/
def FillsMatrix (cells : List (String × String)) (tasks participants : List String) : Prop :=
  (∀ cell ∈ cells, cell.1 ∈ tasks ∧ cell.2 ∈ participants) ∧
    ∀ task ∈ tasks, ∀ revision ∈ participants, (task, revision) ∈ cells

instance (cells : List (String × String)) (tasks participants : List String) :
    Decidable (FillsMatrix cells tasks participants) :=
  inferInstanceAs (Decidable (_ ∧ _))

/-- The checks of `decide` before its loop. -/
def checkPlans (plans : List ExecutionPlan) : Except String Matrix := do
  require ((plans.map (·.planId)).Nodup) "tournament contains duplicate plans"
  let campaignId ← onlyOne (plans.map (·.campaignId)) "tournament campaign identity drift"
  let tournament ← onlyOne (plans.map (payloadGet ·.metadata "tournament_id"))
    "tournament campaign identity drift"
  let config ← onlyOne (plans.map (payloadGet ·.metadata "tournament_config_sha256"))
    "tournament configuration drift"
  let tournamentId ← tournamentIdOf tournament
  let tournamentConfigSha256 ← tournamentConfigOf config
  let matchedConfigSha256 ← onlyOne (plans.map matchedConfig)
    "tournament matched execution config drift"
  let candidates := fromKeys (revisionsOf "candidate" plans)
  let parentRevisionId ← onlyOne (revisionsOf "search-parent" plans)
    "tournament requires parent and candidates"
  require (candidates ≠ []) "tournament requires parent and candidates"
  require (∀ plan ∈ plans, plan.arm = "search-parent" ∨ plan.arm = "candidate")
    "tournament arm is invalid"
  require ((parentRevisionId :: candidates).Nodup) "tournament revisions are duplicated"
  let tasks := fromKeys (plans.map (·.task.revisionId))
  let cells := plans.map cellOf
  require cells.Nodup "tournament contains duplicate execution cells"
  require (FillsMatrix cells tasks (parentRevisionId :: candidates))
    "tournament execution matrix is incomplete"
  pure ⟨tournamentId, campaignId, parentRevisionId, candidates, tasks, tournamentConfigSha256,
    matchedConfigSha256⟩

def scoresOf (cells : List Cell) (revision : String) : List ℚ :=
  (cells.filter (·.revisionId = revision)).map (·.score)

/-- The entry of a revision in `aggregate`. -/
def mean (cells : List Cell) (revision : String) : ℚ :=
  (scoresOf cells revision).sum / (scoresOf cells revision).length

/-- The parent if it is among the tied, else the least of the tied. -/
def winnerOf (parentRevisionId : String) (participants : List String) (score : String → ℚ) :
    Except String String :=
  match (participants.map score).max? with
  | none => .error "max() iterable argument is empty"
  | some highest =>
    let tied := participants.filter (score · = highest)
    if parentRevisionId ∈ tied then .ok parentRevisionId
    else match tied.min? with
      | none => .error "min() iterable argument is empty"
      | some least => .ok least

/-- A decision over these values, with the hash of its identity. -/
def decisionOf (matrix : Matrix) (plans : List ExecutionPlan) (cells : List Cell)
    (programId winner : String) : TournamentDecision :=
  let unsigned : TournamentDecision :=
    { decisionSha256 := ""
      tournamentId := matrix.tournamentId
      campaignId := matrix.campaignId
      programId := programId
      executionScope := "fixture"
      parentRevisionId := matrix.parentRevisionId
      participantRevisionIds := matrix.participants
      taskRevisionIds := matrix.tasks
      planIds := plans.map (·.planId)
      receiptIds := cells.map (·.receiptId)
      programBundleSha256 := matrix.participants.filterMap fun revision =>
        (bundleHolder cells revision).map fun cell => (revision, cell.bundle)
      tournamentConfigSha256 := matrix.tournamentConfigSha256
      matchedConfigSha256 := matrix.matchedConfigSha256
      scorePolicyId := scorePolicyId
      scores := matrix.participants.map fun revision => (revision, mean cells revision)
      winnerRevisionId := winner
      advanced := decide (winner ≠ matrix.parentRevisionId) }
  { unsigned with decisionSha256 := unsigned.identityPayload.contentSha256 }

/-- `decide`. -/
protected def decide (plans : List ExecutionPlan) (executions : List ExecutionResult) :
    Except String TournamentDecision := do
  require (plans ≠ [] ∧ plans.length = executions.length)
    "tournament execution matrix is incomplete"
  let matrix ← checkPlans plans
  let cells ← readCells matrix.parentRevisionId [] (plans.zip executions)
  let programId ← onlyOne (cells.map (·.programId)) "tournament mixes AgentProgram identities"
  let winner ← winnerOf matrix.parentRevisionId matrix.participants (mean cells)
  let decision := decisionOf matrix plans cells programId winner
  decision.postInit (TournamentDecision.idOf decision.decisionSha256)
  pure decision

end TournamentAuthority

end JlensEvolve.AgentProgram
