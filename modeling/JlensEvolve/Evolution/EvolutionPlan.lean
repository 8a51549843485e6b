import JlensEvolve.Contracts
import JlensEvolve.Library.Effect

/-!
The frozen plan and the authorization of `evolution_controller.py`.
-/

namespace JlensEvolve.Evolution

open Library

inductive ControllerError where
  | contract (message : String)
  | budget (message : String)
deriving DecidableEq, Repr

def validateSha (value name : String) : Except ControllerError Unit :=
  require (Sha256.isSha256 value = true) (.contract ("invalid " ++ name ++ " sha256"))

structure StagePlan where
  name : String
  taskUids : List String
  candidateCount : Nat
  expectedAgentCalls : Nat
deriving DecidableEq

def StagePlan.toDict (stage : StagePlan) : Json :=
  .obj [("name", .str stage.name), ("task_uids", .arr (stage.taskUids.map .str)),
    ("candidate_count", .int stage.candidateCount),
    ("expected_agent_calls", .int stage.expectedAgentCalls)]

structure GenerationPlan where
  generation : Nat
  taskUids : List String
  stages : List StagePlan
deriving DecidableEq

def GenerationPlan.toDict (plan : GenerationPlan) : Json :=
  .obj [("generation", .int plan.generation), ("task_uids", .arr (plan.taskUids.map .str)),
    ("stages", .arr (plan.stages.map StagePlan.toDict))]

structure EvolutionPlan where
  generations : List GenerationPlan
  uniqueSearchTasks : Nat
  plannedAgentTaskCalls : Nat
  maximumProposerCalls : Nat
  maximumReviewerCalls : Nat
  plannedRealCodexCalls : Nat
deriving DecidableEq

namespace EvolutionPlan

def toDict (plan : EvolutionPlan) : Json :=
  .obj [("schema_version", .int 1), ("generations", .arr (plan.generations.map GenerationPlan.toDict)),
    ("unique_search_tasks", .int plan.uniqueSearchTasks),
    ("planned_agent_task_calls", .int plan.plannedAgentTaskCalls),
    ("maximum_proposer_calls", .int plan.maximumProposerCalls),
    ("maximum_reviewer_calls", .int plan.maximumReviewerCalls),
    ("planned_real_codex_calls", .int plan.plannedRealCodexCalls)]

/-- The stages of a generation over its tasks. -/
def stagesOf (generation size : Nat) (tasks : List String) : List StagePlan :=
  if generation = 0 then
    [{ name := "observe", taskUids := tasks, candidateCount := 0, expectedAgentCalls := 2 * size }]
  else
    [{ name := "scout", taskUids := tasks.take 5, candidateCount := 4, expectedAgentCalls := 30 },
      { name := "semifinal", taskUids := (tasks.take 13).drop 5, candidateCount := 2
        expectedAgentCalls := 32 },
      { name := "confirmation", taskUids := tasks.drop 13, candidateCount := 1
        expectedAgentCalls := 36 }]

/-- The generations of these sizes over the tasks, from the generation with
this number on. -/
def generationsOf (generation : Nat) (tasks : List String) : List Nat → List GenerationPlan
  | [] => []
  | size :: sizes =>
    { generation, taskUids := tasks.take size,
      stages := stagesOf generation size (tasks.take size) } ::
      generationsOf (generation + 1) (tasks.drop size) sizes

def buildGenerations (taskUids : List String) (generationSizes : List Nat)
    (uniqueSearchTasks : Nat) : Except ControllerError EvolutionPlan := do
  require taskUids.Nodup (.contract "evolution plan tasks must be unique")
  require (∀ task ∈ taskUids, Contracts.isText task = true)
    (.contract "evolution plan task IDs must be non-empty strings")
  let generations := generationsOf 0 taskUids generationSizes
  let plannedAgent :=
    ((generations.flatMap GenerationPlan.stages).map StagePlan.expectedAgentCalls).sum
  pure { generations, uniqueSearchTasks, plannedAgentTaskCalls := plannedAgent
         maximumProposerCalls := 32, maximumReviewerCalls := 8
         plannedRealCodexCalls := plannedAgent + 32 + 8 }

def build (taskUids : List String) : Except ControllerError EvolutionPlan := do
  require (taskUids.length = 100) (.contract "evolution plan requires exactly 100 tasks")
  buildGenerations taskUids [25, 25, 25, 25] 100

def buildResume (taskUids : List String) : Except ControllerError EvolutionPlan := do
  require (taskUids.length = 91) (.contract "resume evolution plan requires exactly 91 tasks")
  buildGenerations taskUids [16, 25, 25, 25] 91

/-- `from_dict` of the dictionary of a plan. -/
def fromDict (data : EvolutionPlan) : Except ControllerError EvolutionPlan := do
  let tasks := data.generations.flatMap GenerationPlan.taskUids
  let plan ←
    if tasks.length = 100 then build tasks
    else if tasks.length = 91 then buildResume tasks
    else .error (.contract "persisted evolution plan has unsupported task count")
  require (plan = data) (.contract "persisted evolution plan differs from frozen plan")
  pure plan

/-- `self.generations[generation]`, where a negative index counts from the end. -/
def generation? (plan : EvolutionPlan) (generation : Int) : Option GenerationPlan :=
  if 0 ≤ generation then plan.generations[generation.toNat]?
  else if -generation ≤ plan.generations.length then
    plan.generations[plan.generations.length - (-generation).toNat]?
  else none

def stage (plan : EvolutionPlan) (generation : Int) (name : String) :
    Except ControllerError StagePlan :=
  match plan.generation? generation with
  | none => .error (.contract "unknown evolution generation")
  | some generationPlan =>
    match generationPlan.stages.find? (fun stage => stage.name = name) with
    | some stage => .ok stage
    | none =>
      .error (.contract ("unknown generation stage: " ++ toString generation ++ "/" ++ name))

def stageSequence (plan : EvolutionPlan) : List (Nat × String) :=
  plan.generations.flatMap fun generation =>
    generation.stages.map fun stage => (generation.generation, stage.name)

end EvolutionPlan

structure EvolutionAuthorization where
  maximumUniqueSearchTasks : Int
  maximumRealCodexCalls : Int
  maximumTemporaryCloudInstances : Int
  maximumElapsedHours : ℚ
  maximumCloudCostCny : ℚ
deriving DecidableEq

namespace EvolutionAuthorization

def toDict (authorization : EvolutionAuthorization) : Json :=
  .obj [("maximum_unique_search_tasks", .int authorization.maximumUniqueSearchTasks),
    ("maximum_real_codex_calls", .int authorization.maximumRealCodexCalls),
    ("maximum_temporary_cloud_instances", .int authorization.maximumTemporaryCloudInstances),
    ("maximum_elapsed_hours", .float authorization.maximumElapsedHours),
    ("maximum_cloud_cost_cny", .float authorization.maximumCloudCostCny)]

def validate (authorization : EvolutionAuthorization) (plan : EvolutionPlan) :
    Except ControllerError Unit := do
  require (plan.uniqueSearchTasks ≤ authorization.maximumUniqueSearchTasks)
    (.budget ("plan exceeds " ++ toString authorization.maximumUniqueSearchTasks ++
      " search-task cap"))
  require (plan.plannedRealCodexCalls ≤ authorization.maximumRealCodexCalls)
    (.budget ("plan exceeds " ++ toString authorization.maximumRealCodexCalls ++
      " real Codex-call cap"))
  require (authorization.maximumTemporaryCloudInstances = 1)
    (.budget "authorization must allow exactly one cloud instance")
  require (authorization.maximumElapsedHours = 24)
    (.budget "authorization elapsed-time cap must be 24 hours")
  require (authorization.maximumCloudCostCny = 30)
    (.budget "authorization cloud cap must be CNY 30")

end EvolutionAuthorization

end JlensEvolve.Evolution
