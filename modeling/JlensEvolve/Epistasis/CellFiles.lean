import JlensEvolve.Library.LineReaders
import JlensEvolve.Epistasis.Experiments

/-!
Cells as they are kept on disk between runs. The two rates that `to_full_dict`
adds are computed from the counts and never read back, so they are left out.
-/

namespace JlensEvolve.Epistasis

open Library Contracts

def AttemptEvent.toDict (event : AttemptEvent) : Json :=
  .obj [("iteration", .int event.iteration),
    ("operator_ids", .arr (event.operatorIds.map Json.str)),
    ("parent_source_hash", .str event.parentSourceHash),
    ("parent_passed", .int event.parentPassed),
    ("source", .str event.source),
    ("source_hash", .str event.sourceHash),
    ("ast_hash", .str event.astHash),
    ("changed", .bool event.changed),
    ("postcondition_ok", .bool event.postconditionOk),
    ("reason", .str event.reason),
    ("passed_cases", .int event.passedCases),
    ("total_cases", .int event.totalCases),
    ("accepted", .bool event.accepted),
    ("improved", .bool event.improved),
    ("admission_reasons", .arr (event.admissionReasons.map Json.str)),
    ("holdout_passed", match event.holdoutPassed with
      | some passed => .int passed
      | none => .null)]

def CellResult.toFullDict (result : CellResult) : Json :=
  .obj [("task_id", .str result.taskId),
    ("seed", .int result.seed),
    ("operator_ids", .arr (result.operatorIds.map Json.str)),
    ("mode", .str result.mode),
    ("budget", .int result.budget),
    ("initial_passed", .int result.initialPassed),
    ("best_passed", .int result.bestPassed),
    ("best_holdout", .int result.bestHoldout),
    ("accepted_count", .int result.acceptedCount),
    ("improved_count", .int result.improvedCount),
    ("no_op_count", .int result.noOpCount),
    ("invalid_count", .int result.invalidCount),
    ("event_count", .int result.events.length),
    ("best_source", .str result.bestSource),
    ("events", .arr (result.events.map AttemptEvent.toDict))]

def unreadable : SearchError := .value "unreadable cell"

/-- `payload[key]`. -/
def field (payload : Json) (key : String) : Except SearchError Json :=
  match payload.get? key with
  | some value => .ok value
  | none => .error unreadable

/-- `int(value)`. -/
def pyInt : Json → Except SearchError Int
  | .int value => .ok value
  | .bool value => .ok (if value then 1 else 0)
  | .float value => .ok (value.num.tdiv value.den)
  | .str text =>
    match text.toInt? with
    | some value => .ok value
    | none => .error unreadable
  | _ => .error unreadable

/-- A count. No run writes a negative one. -/
def count (value : Json) : Except SearchError Nat := do
  let found ← pyInt value
  require (0 ≤ found) unreadable
  return found.toNat

/-- `tuple(str(item) for item in value)`. -/
def textTuple (value : Json) : Except SearchError (List String) :=
  match pyTuple value with
  | some items => .ok (items.map pyStr)
  | none => .error unreadable

/-- `None if value is None else int(value)`. -/
def optionalCount : Json → Except SearchError (Option Nat)
  | .null => .ok none
  | value => some <$> count value

/-- What `for row in value` goes over. -/
def rowsOf (value : Json) : Except SearchError (List Json) :=
  match pyTuple value with
  | some rows => .ok rows
  | none => .error unreadable

def AttemptEvent.fromDict (row : Json) : Except SearchError AttemptEvent := do
  return {
    iteration := ← count (← field row "iteration")
    operatorIds := ← textTuple (← field row "operator_ids")
    parentSourceHash := pyStr (← field row "parent_source_hash")
    parentPassed := ← count (← field row "parent_passed")
    source := pyStr (← field row "source")
    sourceHash := pyStr (← field row "source_hash")
    astHash := pyStr (← field row "ast_hash")
    changed := truthy (← field row "changed")
    postconditionOk := truthy (← field row "postcondition_ok")
    reason := pyStr (← field row "reason")
    passedCases := ← count (← field row "passed_cases")
    totalCases := ← count (← field row "total_cases")
    accepted := truthy (← field row "accepted")
    improved := truthy (← field row "improved")
    admissionReasons := ← textTuple ((row.get? "admission_reasons").getD (.arr []))
    holdoutPassed := ← optionalCount ((row.get? "holdout_passed").getD .null) }

def CellResult.fromFullDict (payload : Json) : Except SearchError CellResult := do
  let rows ← rowsOf (← field payload "events")
  return {
    taskId := pyStr (← field payload "task_id")
    seed := ← pyInt (← field payload "seed")
    operatorIds := ← textTuple (← field payload "operator_ids")
    mode := pyStr (← field payload "mode")
    budget := ← pyInt (← field payload "budget")
    initialPassed := ← count (← field payload "initial_passed")
    bestSource := pyStr (← field payload "best_source")
    bestPassed := ← count (← field payload "best_passed")
    bestHoldout := ← count (← field payload "best_holdout")
    acceptedCount := ← count (← field payload "accepted_count")
    improvedCount := ← count (← field payload "improved_count")
    noOpCount := ← count (← field payload "no_op_count")
    invalidCount := ← count (← field payload "invalid_count")
    events := ← rows.mapM AttemptEvent.fromDict }

theorem count_int (n : Nat) : count (.int n) = .ok n := by
  rw [count, pyInt]
  refine (except_bind_ok_iff _ _ _).mpr ⟨n, rfl, ?_⟩
  exact (except_bind_ok_iff _ _ _).mpr ⟨(), (require_ok_iff _ _ _).mpr (Int.natCast_nonneg n), rfl⟩

theorem textTuple_strs (texts : List String) :
    textTuple (.arr (texts.map Json.str)) = .ok texts := by
  have hitems : (texts.map Json.str).map pyStr = texts := by
    rw [List.map_map]
    exact List.map_id texts
  exact congrArg Except.ok hitems

theorem optionalCount_toDict (passed : Option Nat) :
    optionalCount (match passed with
      | some passed => .int passed
      | none => .null) = .ok passed := by
  cases passed with
  | none => rfl
  | some passed => exact (except_map_ok_iff _ _ _).mpr ⟨passed, count_int passed, rfl⟩

theorem fromDict_toDict (event : AttemptEvent) :
    AttemptEvent.fromDict event.toDict = .ok event := by
  simp only [AttemptEvent.fromDict, except_bind_ok_iff]
  exact ⟨_, rfl, _, count_int _, _, rfl, _, textTuple_strs _, _, rfl, _, rfl, _, count_int _,
    _, rfl, _, rfl, _, rfl, _, rfl, _, rfl, _, rfl, _, rfl, _, count_int _, _, rfl, _, count_int _,
    _, rfl, _, rfl, _, textTuple_strs _, _, optionalCount_toDict _, rfl⟩

theorem fromFullDict_toFullDict (result : CellResult) :
    CellResult.fromFullDict result.toFullDict = .ok result := by
  have hevents : (result.events.map AttemptEvent.toDict).mapM AttemptEvent.fromDict =
      .ok result.events := mapM_decode_encode fun event _ => fromDict_toDict event
  simp only [CellResult.fromFullDict, except_bind_ok_iff]
  exact ⟨_, rfl, _, rfl, _, rfl, _, rfl, _, rfl, _, rfl, _, textTuple_strs _, _, rfl, _, rfl, _, rfl,
    _, rfl, _, count_int _, _, rfl, _, rfl, _, count_int _, _, rfl, _, count_int _, _, rfl, _,
    count_int _, _, rfl, _, count_int _, _, rfl, _, count_int _, _, rfl, _, count_int _, _, hevents,
    rfl⟩

def CellResult.key (result : CellResult) : String :=
  cellKey result.taskId result.seed result.operatorIds result.mode result.budget

/-- `_load_cells`: the keys to skip and the cells under them. A file whose text
is no JSON, or not that of a cell, is passed over. -/
def loadCells (files : List (Option Json)) : List String × Dict String CellResult :=
  let results := files.foldl (fun (results : Dict String CellResult) file =>
    match file with
    | none => results
    | some payload =>
      match CellResult.fromFullDict payload with
      | .error _ => results
      | .ok result => results.set result.key result) Dict.empty
  (results.keys, results)

end JlensEvolve.Epistasis
