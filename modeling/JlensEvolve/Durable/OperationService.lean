import JlensEvolve.Library.Effect
import JlensEvolve.Library.EventLog
import JlensEvolve.Library.Json

/-!
`durable_service.py`: one operation in a database, which workers claim under a
lease that runs out. Every transaction writes the operation and an event. What
`json` reads in a text and what it writes are parameters.
-/

namespace JlensEvolve.Durable

open Library

inductive OperationStatus where
  | prepared | running | completed | failed
deriving DecidableEq

/-- A row of `operations`. -/
structure OperationRow where
  contractHash : String
  status : OperationStatus
  attempt : Nat
  leaseOwner : Option String
  leaseExpiresNs : Option Int
  resultPath : Option String
  resultSha256 : Option String
  semanticFingerprint : Option String
  error : Option String
  createdNs : Int
  updatedNs : Int

inductive OperationEvent where
  | prepared (contractHash : String)
  | idempotentReplay (workerId : String) (attempt : Nat)
  | integrityFailure (expectedSha256 preservedPath : Option String)
  | claimed (attempt : Nat) (leaseExpiresNs : Int) (workerId : String)
  | leaseRecovered (attempt : Nat) (leaseExpiresNs : Int) (workerId : String)
  | failed (error errorType : String)
  | completed (attempt : Nat) (resultSha256 semanticFingerprint : String)

/-- A row of `events`. -/
structure EventRow where
  event : OperationEvent
  createdNs : Int

/-- The bytes of the files under their paths. -/
abbrev Files := Dict String (List Nat)

structure ServiceStore where
  operation : Option OperationRow
  events : List EventRow
  files : Files

inductive ServiceError where
  /-- `HardeningContractError` -/
  | contract (message : String)
  /-- `ContractConflict` -/
  | contractConflict (message : String)
  /-- `OperationBusy` -/
  | operationBusy (message : String)
  /-- `OperationExecutionError` -/
  | execution (message : String)
  | other (message : String)

abbrev ServiceM := EStateM ServiceError ServiceStore

namespace OperationRow

/-- The row that `_claim` inserts. -/
def inserted (contractHash : String) (nowNs : Int) : OperationRow :=
  ⟨contractHash, .prepared, 0, none, none, none, none, none, none, nowNs, nowNs⟩

/-- After the result of a completed operation was found corrupt. -/
def reverted (row : OperationRow) (nowNs : Int) : OperationRow :=
  { row with
    status := .prepared, resultPath := none, resultSha256 := none, semanticFingerprint := none
    error := none, updatedNs := nowNs }

def leased (row : OperationRow) (attempt : Nat) (leaseExpiresNs : Int) (workerId : String)
    (nowNs : Int) : OperationRow :=
  { row with
    status := .running, attempt := attempt, leaseOwner := some workerId
    leaseExpiresNs := some leaseExpiresNs, resultPath := none, resultSha256 := none
    semanticFingerprint := none, error := none, updatedNs := nowNs }

def failing (row : OperationRow) (error : String) (nowNs : Int) : OperationRow :=
  { row with
    status := .failed, error := some error, leaseOwner := none, leaseExpiresNs := none
    updatedNs := nowNs }

def completing (row : OperationRow) (resultPath : Option String)
    (resultSha256 semanticFingerprint : String) (nowNs : Int) : OperationRow :=
  { row with
    status := .completed, resultPath := resultPath, resultSha256 := some resultSha256
    semanticFingerprint := some semanticFingerprint, error := none, leaseOwner := none
    leaseExpiresNs := none, updatedNs := nowNs }

end OperationRow

namespace ServiceStore

def empty : ServiceStore := ⟨none, [], Dict.empty⟩

/-- A transaction that leaves this row and adds this event. -/
def record (store : ServiceStore) (row : OperationRow) (event : OperationEvent) (nowNs : Int) :
    ServiceStore :=
  { store with operation := some row, events := store.events ++ [⟨event, nowNs⟩] }

/-- `_result_is_valid`. -/
def resultIsValid (store : ServiceStore) (row : OperationRow) : Bool :=
  match row.resultPath, row.resultSha256 with
  | some path, some sha256 =>
    path ≠ "" && sha256 ≠ "" && ((store.files.get? path).map Sha256.hexdigest == some sha256)
  | _, _ => false

/-- `_preserve_corrupt_result`: where the file is moved to, and the files then. -/
def preserveCorruptResult (store : ServiceStore) (row : OperationRow) : Option String × Files :=
  match row.resultPath with
  | none | some "" => (none, store.files)
  | some path =>
    match store.files.get? path with
    | none => (none, store.files)
    | some bytes =>
      let preserved := path ++ ".corrupt-" ++ String.ofList ((Sha256.hexdigest bytes).toList.take 16)
      (some preserved, (store.files.erase path).set preserved bytes)

end ServiceStore

/-- `_tree_bytes`. -/
def treeBytes (files : Files) (directory : String) : Nat :=
  ((files.entries.filter fun entry => entry.1.startsWith (directory ++ "/")).map
    (·.2.length)).sum

/-- `DurableOperationService` with a configuration that `_load_config` accepts. -/
structure DurableOperationService where
  operationId : String
  contractHash : String
  outputRoot : String
  leaseSeconds : Nat
  maxArtifactBytes : Nat
  leaseSeconds_pos : 0 < leaseSeconds

/-- What `_claim` returns: the attempt whose result stands, or the attempt to
run and whether its result file is already there. -/
inductive Claim where
  | idempotent (attempt : Nat)
  | attempt (attempt : Nat) (reuseStagedResult : Bool)

/-- What `run` returns. -/
inductive RunAnswer where
  | idempotentReplay (row : OperationRow)
  | completed (attempt : Nat) (resultPath resultSha256 semanticFingerprint : String)

/-- A runner may raise and may write files. -/
abbrev Runner := Nat → Files → Except ServiceError Json × Files

namespace DurableOperationService

variable (service : DurableOperationService)

def attemptDir (attempt : Nat) : String :=
  service.outputRoot ++ "/" ++ service.operationId ++ "/attempt-" ++ toString attempt

def resultPath (attempt : Nat) : String := service.attemptDir attempt ++ "/result.json"

/-- The first transaction of `_claim`. -/
def prepare (nowNs : Int) (store : ServiceStore) : ServiceStore :=
  match store.operation with
  | some _ => store
  | none =>
    store.record (.inserted service.contractHash nowNs) (.prepared service.contractHash) nowNs

/-- The end of the second transaction: the lease is taken. -/
def takeLease (row : OperationRow) (recovering : Bool) (workerId : String) (nowNs : Int)
    (store : ServiceStore) : EStateM.Result ServiceError ServiceStore Claim :=
  let leaseExpiresNs := nowNs + service.leaseSeconds * 1000000000
  let attempt := if recovering then row.attempt else row.attempt + 1
  let event := if recovering then OperationEvent.leaseRecovered attempt leaseExpiresNs workerId
    else .claimed attempt leaseExpiresNs workerId
  .ok (.attempt attempt (recovering && (store.files.get? (service.resultPath attempt)).isSome))
    (store.record (row.leased attempt leaseExpiresNs workerId nowNs) event nowNs)

/-- The second transaction of `_claim`. -/
def claimRow (workerId : String) (nowNs : Int) : ServiceM Claim := fun store =>
  match store.operation with
  | none => .error (.other "") store
  | some row =>
    if row.contractHash ≠ service.contractHash then
      .error (.contractConflict "operation id already has another contract hash") store
    else match row.status with
    | .completed =>
      if store.resultIsValid row then
        .ok (.idempotent row.attempt)
          (store.record row (.idempotentReplay workerId row.attempt) nowNs)
      else
        let (preserved, files) := store.preserveCorruptResult row
        service.takeLease (row.reverted nowNs) false workerId nowNs
          ({ store with files := files }.record (row.reverted nowNs)
            (.integrityFailure row.resultSha256 preserved) nowNs)
    | .running =>
      if nowNs < row.leaseExpiresNs.getD 0 then
        .error (.operationBusy ("operation lease owned by " ++ row.leaseOwner.getD "None" ++
          " until " ++ (row.leaseExpiresNs.map toString).getD "None")) store
      else service.takeLease row true workerId nowNs store
    | .prepared | .failed => service.takeLease row false workerId nowNs store

/-- `_claim`. -/
def claim (workerId : String) (nowNs : Int) : ServiceM Claim := fun store =>
  service.claimRow workerId nowNs (service.prepare nowNs store)

/-- `_record_failure`. Without an operation the event has nothing to refer to. -/
def recordFailure (error errorType : String) (nowNs : Int) (store : ServiceStore) : ServiceStore :=
  match store.operation with
  | none => store
  | some row => store.record (row.failing error nowNs) (.failed error errorType) nowNs

/-- `type(value).__name__` of a decoded value. -/
def typeName : Json → String
  | .null => "NoneType"
  | .bool _ => "bool"
  | .int _ => "int"
  | .float _ => "float"
  | .str _ => "str"
  | .arr _ => "list"
  | .obj _ => "dict"

/-- `result.get("experiment_fingerprint")`, when it is a text of 64 characters. -/
def fingerprintOf (result : Json) : Except ServiceError String :=
  match result with
  | .obj _ =>
    match result.get? "experiment_fingerprint" with
    | some (.str fingerprint) =>
      if fingerprint.length = 64 then .ok fingerprint
      else .error (.execution "integration result lacks semantic fingerprint")
    | _ => .error (.execution "integration result lacks semantic fingerprint")
  | _ => .error (.other ("'" ++ typeName result ++ "' object has no attribute 'get'"))

/-- The transaction of `_record_completed`. -/
def commitCompleted (attempt : Nat) (resultSha256 fingerprint workerId : String) (nowNs : Int) :
    ServiceM RunAnswer := fun store =>
  match store.operation with
  | none => .error (.execution "operation lost running state before commit") store
  | some row =>
    if row.status ≠ .running then
      .error (.execution "operation lost running state before commit") store
    else if row.leaseOwner ≠ some workerId ∨ row.attempt ≠ attempt then
      .error (.execution "operation lease changed before commit") store
    else
      .ok (.completed attempt (service.resultPath attempt) resultSha256 fingerprint)
        (store.record
          (row.completing (some (service.resultPath attempt)) resultSha256 fingerprint nowNs)
          (.completed attempt resultSha256 fingerprint) nowNs)

def noSuchFile (path : String) : ServiceError :=
  .other ("[Errno 2] No such file or directory: '" ++ path ++ "'")

/-- `_record_completed`. -/
def recordCompleted (attempt : Nat) (result : Json) (workerId : String) (nowNs : Int) :
    ServiceM RunAnswer := fun store =>
  match store.files.get? (service.resultPath attempt), fingerprintOf result with
  | none, _ => .error (noSuchFile (service.resultPath attempt)) store
  | some _, .error error => .error error store
  | some bytes, .ok fingerprint =>
    service.commitCompleted attempt (Sha256.hexdigest bytes) fingerprint workerId nowNs store

variable (loads : List Nat → Except String Json) (rendered : Json → List Nat) (runner : Runner)

/-- The result of an attempt: the staged file, or what the runner answers. -/
def attemptResult (attempt : Nat) (reuseStagedResult : Bool) : ServiceM Json := fun store =>
  if reuseStagedResult then
    match (store.files.get? (service.resultPath attempt)).map loads with
    | some (.ok result) => .ok result store
    | some (.error error) => .error (.other error) store
    | none => .error (noSuchFile (service.resultPath attempt)) store
  else
    match runner attempt store.files with
    | (.ok result, files) => .ok result { store with files := files }
    | (.error error, files) => .error error { store with files := files }

/-- `_atomic_json` where the runner has left no file. -/
def stageResult (attempt : Nat) (result : Json) (store : ServiceStore) : ServiceStore :=
  if (store.files.get? (service.resultPath attempt)).isSome then store
  else { store with files := store.files.set (service.resultPath attempt) (rendered result) }

/-- The body of the `try` in `run`. -/
def execute (attempt : Nat) (reuseStagedResult : Bool) (workerId : String) (nowNs : Int) :
    ServiceM RunAnswer := fun store =>
  match service.attemptResult loads runner attempt reuseStagedResult store with
  | .error error after => .error error after
  | .ok result produced =>
    if service.maxArtifactBytes < treeBytes produced.files (service.attemptDir attempt) then
      .error (.execution "artifact budget exceeded") produced
    else
      service.recordCompleted attempt result workerId nowNs
        (service.stageResult rendered attempt result produced)

/-- The error that `run` raises for one that its `try` caught. -/
def wrapped : ServiceError → String
  | .execution message => message
  | .contract message | .contractConflict message | .operationBusy message | .other message =>
    s!"trusted runner error: {message}"

/-- `run`. -/
def run (workerId : String) (nowNs : Int) : ServiceM RunAnswer := fun store =>
  if workerId = "" then .error (.contract "worker_id must not be empty") store
  else match service.claim workerId nowNs store with
  | .error error after => .error error after
  | .ok (.idempotent _) after =>
    match after.operation with
    | some row => .ok (.idempotentReplay row) after
    | none => .error (.other service.operationId) after
  | .ok (.attempt attempt reuseStagedResult) claimed =>
    match service.execute loads rendered runner attempt reuseStagedResult workerId nowNs claimed with
    | .ok answer after => .ok answer after
    | .error error after =>
      .error (.execution (wrapped error))
        (recordFailure (wrapped error) "OperationExecutionError" nowNs after)

end DurableOperationService

end JlensEvolve.Durable
