import JlensEvolve.Library.Resumption
import JlensEvolve.Runtime.Execution

/-!
What a log of receipts settles to when the adapters answer the same whenever
they are asked. Each stage looks at the log and keeps it, appends its receipt
or refuses; the stages after a model receipt end in the status of a terminal
receipt, if they end in one. The log is without points in time here.
-/

namespace JlensEvolve.Runtime

open Library Contracts

theorem byKind_snoc (kind : String) (log : List Receipt) (receipt : Receipt) :
    byKind kind (log ++ [receipt]) =
      if receipt.kind = kind then some receipt else byKind kind log := by
  unfold byKind firstOfKind
  rw [List.reverse_append, List.reverse_singleton, List.singleton_append, List.find?_cons]
  split
  next h => rw [if_pos (of_decide_eq_true h)]
  next h => rw [if_neg (of_decide_eq_false h)]

theorem byKind_snoc_of_ne {kind : String} {receipt : Receipt} (h : receipt.kind ≠ kind)
    (log : List Receipt) : byKind kind (log ++ [receipt]) = byKind kind log := by
  rw [byKind_snoc, if_neg h]

theorem byKind_snoc_self (receipt : Receipt) (log : List Receipt) :
    byKind receipt.kind (log ++ [receipt]) = some receipt := by
  rw [byKind_snoc, if_pos rfl]

/-- The receipt that is next in a log. -/
def entry (plan : ExecutionPlan) (log : List Receipt) (kind : String) (payload : Payload) :
    Receipt :=
  runtimeReceipt plan (log.length + 1) kind "" payload

/-- The store refuses a receipt id that is taken. -/
def put (plan : ExecutionPlan) (kind : String) (payload : Payload) (log : List Receipt) :
    Option (List Receipt) :=
  if log.any (fun prior => prior.receiptId = (entry plan log kind payload).receiptId) then none
  else some (log ++ [entry plan log kind payload])

theorem put_eq_some {plan : ExecutionPlan} {kind : String} {payload : Payload}
    {log next : List Receipt} (h : put plan kind payload log = some next) :
    next = log ++ [entry plan log kind payload] := by
  unfold put at h
  split at h
  · cases h
  · exact (Option.some.inj h).symm

/-- `str(terminal.payload["status"])` of the terminal receipt. -/
def terminalStatus? (log : List Receipt) : Option String :=
  (byKind "execution_terminal" log).bind fun terminal =>
    (Json.field? terminal.payload "status").map pyStr

inductive Move where
  | keep
  | append (payload : Payload)
  | refuse

/-- A stage makes the move it decides on. -/
def settle (plan : ExecutionPlan) (kind : String) (move : List Receipt → Move)
    (log : List Receipt) : Option (List Receipt) :=
  match move log with
  | .keep => some log
  | .append payload => put plan kind payload log
  | .refuse => none

def Move.ofAnswer {ε : Type} : Except ε Payload → Move
  | .ok payload => .append payload
  | .error _ => .refuse

section Moves

variable (environment : Environment) (plan : ExecutionPlan)

def workspaceMove (log : List Receipt) : Move :=
  match byKind "workspace" log with
  | some receipt => if namesPlan plan receipt then .keep else .refuse
  | none => .ofAnswer ((environment.materialize 0 plan).map (workspacePayload plan))

def predictionMove (prediction : Option MechanismPrediction) (log : List Receipt) : Move :=
  match prediction, byKind "mechanism_prediction" log with
  | some prediction, none =>
    if byKind "model" log = none then .append prediction.asPayload else .refuse
  | _, _ => .keep

def modelMove (log : List Receipt) : Move :=
  match byKind "model" log, byKind "workspace" log with
  | some _, _ => .keep
  | none, some workspace =>
    .ofAnswer ((environment.infer 0 plan workspace.payload).map (modelPayload plan))
  | none, none => .refuse

def traceMove (log : List Receipt) : Move :=
  match byKind "model" log, byKind "external_trace" log with
  | some modelReceipt, none => .ofAnswer (externalTrace plan modelReceipt)
  | some modelReceipt, some trace =>
    if payloadGet trace.payload "model_receipt_id" = .str modelReceipt.receiptId then .keep
    else .refuse
  | none, _ => .refuse

/-- The payload of an internal trace that the model output announces. -/
def internalPayload (modelReceipt : Receipt) (trace : Json) : Except Raised Payload := do
  let (fields, path) ← (internalTracePath trace).mapError .contractViolation
  internalTrace plan modelReceipt fields (environment.traceFile 0 path)

def internalMove (log : List Receipt) : Move :=
  match byKind "model" log with
  | none => .refuse
  | some modelReceipt =>
    match byKind "internal_trace" log, payloadGet modelReceipt.payload "internal_trace" with
    | none, .null => .keep
    | none, trace => .ofAnswer (internalPayload environment plan modelReceipt trace)
    | some _, .null => .refuse
    | some _, _ => .keep

def costMove (log : List Receipt) : Move :=
  match byKind "cost" log, byKind "model" log with
  | some _, _ => .keep
  | none, some modelReceipt => .ofAnswer (costPayload environment plan modelReceipt.payload)
  | none, none => .refuse

/-- The stages that end in a receipt of their kind or none. -/
def stages (prediction : Option MechanismPrediction) :
    List (List Receipt → Option (List Receipt)) :=
  [settle plan "workspace" (workspaceMove environment plan),
    settle plan "mechanism_prediction" (predictionMove prediction),
    settle plan "model" (modelMove environment plan),
    settle plan "external_trace" (traceMove plan),
    settle plan "internal_trace" (internalMove environment plan),
    settle plan "cost" (costMove environment plan)]

/-- A terminal receipt and its status. -/
def finish (status : String) (fields : Payload) (log : List Receipt) : Option String :=
  (put plan "execution_terminal" (("status", .str status) :: fields) log).map fun _ => status

/-- What follows an answer of the evaluator. -/
def settleAnswer (modelReceipt : Receipt) (log : List Receipt) : AdapterAnswer → Option String
  | .ok answer =>
    match nativePayload plan modelReceipt answer with
    | .ok payload =>
      (put plan "native_evaluation" payload log).bind (finish plan "completed" [])
    | .error _ => none
  | .error (.evaluatorInfrastructure reason) =>
    (put plan "native_evaluation" (evaluatorErrorPayload plan modelReceipt reason) log).bind
      (finish plan "infra_failure" [("reason", .str reason)])
  | .error _ => none

/-- The evaluator's part: with a native receipt the call is complete. -/
def settleNative (workspace : Payload) (modelReceipt : Receipt) (log : List Receipt) :
    Option String :=
  match byKind "native_evaluation" log with
  | some _ => finish plan "completed" [] log
  | none =>
    settleAnswer plan modelReceipt log
      (environment.evaluate 0 plan workspace modelReceipt.payload)

def settleEnd (log : List Receipt) : Option String := do
  let workspace ← byKind "workspace" log
  let modelReceipt ← byKind "model" log
  let costReceipt ← byKind "cost" log
  let cost ← (recordedCost environment costReceipt).toOption
  if plan.limits.maxCostCny < cost then
    finish plan "budget_exhausted"
      [("reason", .str "actual model cost exceeded the plan limit")] log
  else if executionMode plan = .str "model-only-prescreen" then
    finish plan "completed" [("execution_mode", .str "model-only-prescreen")] log
  else if executionMode plan ≠ .str "full" then none
  else settleNative environment plan workspace.payload modelReceipt log

/-- The terminal status a log comes to. -/
def verdict (prediction : Option MechanismPrediction) (log : List Receipt) : Option String :=
  match byKind "execution_terminal" log with
  | some _ => terminalStatus? log
  | none => (runStages (stages environment plan prediction) log).bind (settleEnd environment plan)

end Moves

section Settle

variable {environment : Environment} {plan : ExecutionPlan}
  {prediction : Option MechanismPrediction} {log : List Receipt} {receipt : Receipt}

theorem settle_eq_self_iff (kind : String) (move : List Receipt → Move) :
    settle plan kind move log = some log ↔ move log = .keep := by
  unfold settle
  cases move log with
  | keep => simp
  | refuse => simp
  | append payload =>
    simp only [reduceCtorEq, iff_false]
    intro h
    have hlength := congrArg List.length (put_eq_some h)
    simp at hlength

theorem settle_cases {kind : String} {move : List Receipt → Move} {next : List Receipt}
    (h : settle plan kind move log = some next) :
    (move log = .keep ∧ next = log) ∨
      ∃ payload, move log = .append payload ∧ next = log ++ [entry plan log kind payload] := by
  unfold settle at h
  cases hmove : move log with
  | keep =>
    rw [hmove] at h
    exact Or.inl ⟨rfl, (Option.some.inj h).symm⟩
  | append payload =>
    rw [hmove] at h
    exact Or.inr ⟨payload, rfl, put_eq_some h⟩
  | refuse =>
    rw [hmove] at h
    cases h

theorem workspaceMove_snoc (h : receipt.kind ≠ "workspace") :
    workspaceMove environment plan (log ++ [receipt]) = workspaceMove environment plan log := by
  unfold workspaceMove
  rw [byKind_snoc_of_ne h]

theorem predictionMove_snoc (h : receipt.kind ≠ "mechanism_prediction")
    (hmodel : receipt.kind ≠ "model") :
    predictionMove prediction (log ++ [receipt]) = predictionMove prediction log := by
  unfold predictionMove
  rw [byKind_snoc_of_ne h, byKind_snoc_of_ne hmodel]

theorem predictionMove_eq_keep_iff :
    predictionMove prediction log = .keep ↔
      prediction = none ∨ byKind "mechanism_prediction" log ≠ none := by
  unfold predictionMove
  cases prediction with
  | none => simp
  | some prediction =>
    cases byKind "mechanism_prediction" log with
    | some found => simp
    | none =>
      by_cases hmodel : byKind "model" log = none
      · simp [hmodel]
      · simp [hmodel]

theorem modelMove_snoc (h : receipt.kind ≠ "model") (hworkspace : receipt.kind ≠ "workspace") :
    modelMove environment plan (log ++ [receipt]) = modelMove environment plan log := by
  unfold modelMove
  rw [byKind_snoc_of_ne h, byKind_snoc_of_ne hworkspace]

theorem traceMove_snoc (h : receipt.kind ≠ "external_trace") (hmodel : receipt.kind ≠ "model") :
    traceMove plan (log ++ [receipt]) = traceMove plan log := by
  unfold traceMove
  rw [byKind_snoc_of_ne h, byKind_snoc_of_ne hmodel]

theorem internalMove_snoc (h : receipt.kind ≠ "internal_trace") (hmodel : receipt.kind ≠ "model") :
    internalMove environment plan (log ++ [receipt]) = internalMove environment plan log := by
  unfold internalMove
  rw [byKind_snoc_of_ne h, byKind_snoc_of_ne hmodel]

theorem costMove_snoc (h : receipt.kind ≠ "cost") (hmodel : receipt.kind ≠ "model") :
    costMove environment plan (log ++ [receipt]) = costMove environment plan log := by
  unfold costMove
  rw [byKind_snoc_of_ne h, byKind_snoc_of_ne hmodel]

@[simp] theorem entry_kind (kind : String) (payload : Payload) :
    (entry plan log kind payload).kind = kind := rfl

@[simp] theorem entry_payload (kind : String) (payload : Payload) :
    (entry plan log kind payload).payload = payload := rfl

theorem byKind_entry (kind : String) (payload : Payload) :
    byKind kind (log ++ [entry plan log kind payload]) = some (entry plan log kind payload) :=
  byKind_snoc_self (entry plan log kind payload) log

/-! ### A field that is set is read back -/

theorem field?_setEntries (payload : Payload) (key name : String) (value : Json) :
    Json.field? (Dict.setEntries key value payload) name =
      if name = key then some value else Json.field? payload name := by
  induction payload with
  | nil =>
    simp only [Dict.setEntries, Json.field?_cons, Json.field?_nil]
    simp only [eq_comm]
  | cons field rest ih =>
    obtain ⟨other, held⟩ := field
    unfold Dict.setEntries
    split
    next h =>
      subst h
      simp only [Json.field?_cons]
      by_cases hname : other = name
      · simp [hname]
      · simp [hname, Ne.symm hname]
    next h =>
      simp only [Json.field?_cons, ih]
      by_cases hname : name = key
      · subst hname
        simp [h]
      · simp [hname]

theorem field?_updated_of_not_mem {fields : Payload} {name : String}
    (h : name ∉ fields.map Prod.fst) (payload : Payload) :
    Json.field? (updated payload fields) name = Json.field? payload name := by
  unfold updated
  induction fields generalizing payload with
  | nil => rfl
  | cons field rest ih =>
    simp only [List.map_cons, List.mem_cons, not_or] at h
    rw [List.foldl_cons, ih h.2, field?_setEntries, if_neg h.1]

theorem field?_updated_snoc (payload fields : Payload) (name : String) (value : Json) :
    Json.field? (updated payload (fields ++ [(name, value)])) name = some value := by
  unfold updated
  rw [List.foldl_append, List.foldl_cons, List.foldl_nil, field?_setEntries, if_pos rfl]

theorem field?_copyFields_of_not_mem {names : List String} {name : String} (h : name ∉ names)
    (source payload : Payload) :
    Json.field? (copyFields names source payload) name = Json.field? payload name := by
  apply field?_updated_of_not_mem
  intro hmem
  obtain ⟨field, hfield, rfl⟩ := List.mem_map.mp hmem
  obtain ⟨copied, hcopied, hvalue⟩ := List.mem_filterMap.mp hfield
  obtain ⟨value, -, rfl⟩ := Option.map_eq_some_iff.mp hvalue
  exact h hcopied

theorem payloadGet_externalTrace {modelReceipt : Receipt} {payload : Payload}
    (h : externalTrace plan modelReceipt = .ok payload) :
    payloadGet payload "model_receipt_id" = .str modelReceipt.receiptId := by
  simp only [externalTrace, except_bind_ok_iff] at h
  obtain ⟨prediction, -, predicted, -, hpayload⟩ := h
  cases hpayload
  have hnot : "model_receipt_id" ∉ tracedFields := by decide
  rw [payloadGet, field?_copyFields_of_not_mem hnot]
  rfl

theorem payloadGet_workspacePayload (materialized : Payload) :
    payloadGet (workspacePayload plan materialized) "plan_sha256" = .str plan.contentSha256 := by
  have h := field?_updated_snoc materialized [] "plan_sha256" (.str plan.contentSha256)
  rw [List.nil_append] at h
  rw [payloadGet, workspacePayload, h]
  rfl

/-! ### Every stage settles its part -/

theorem workspaceMove_done {payload : Payload}
    (h : workspaceMove environment plan log = .append payload) :
    workspaceMove environment plan (log ++ [entry plan log "workspace" payload]) = .keep := by
  unfold workspaceMove at *
  rw [byKind_entry]
  split at h
  · split at h <;> cases h
  · cases hanswer : environment.materialize 0 plan with
    | error raised =>
      rw [hanswer] at h
      cases h
    | ok materialized =>
      rw [hanswer] at h
      cases h
      exact if_pos (payloadGet_workspacePayload materialized)

theorem predictionMove_done {payload : Payload} :
    predictionMove prediction (log ++ [entry plan log "mechanism_prediction" payload]) =
      .keep := by
  rw [predictionMove_eq_keep_iff, byKind_entry]
  exact Or.inr nofun

theorem modelMove_done {payload : Payload} :
    modelMove environment plan (log ++ [entry plan log "model" payload]) = .keep := by
  unfold modelMove
  rw [byKind_entry]

theorem traceMove_done {payload : Payload} (h : traceMove plan log = .append payload) :
    traceMove plan (log ++ [entry plan log "external_trace" payload]) = .keep := by
  unfold traceMove at *
  rw [byKind_entry, byKind_snoc_of_ne (by simp)]
  split at h
  next modelReceipt hmodel _ =>
    rw [hmodel]
    cases htrace : externalTrace plan modelReceipt with
    | error message =>
      rw [htrace] at h
      cases h
    | ok fields =>
      rw [htrace] at h
      cases h
      exact if_pos (payloadGet_externalTrace htrace)
  next => split at h <;> cases h
  next => cases h

theorem internalMove_done {payload : Payload}
    (h : internalMove environment plan log = .append payload) :
    internalMove environment plan (log ++ [entry plan log "internal_trace" payload]) = .keep := by
  unfold internalMove at *
  rw [byKind_entry, byKind_snoc_of_ne (by simp)]
  split at h
  next => cases h
  next modelReceipt _ =>
    split at h
    next => cases h
    next hnull =>
      cases htrace : payloadGet modelReceipt.payload "internal_trace" with
      | null => exact absurd htrace hnull
      | _ => rfl
    next => cases h
    next => cases h

theorem costMove_done {payload : Payload} :
    costMove environment plan (log ++ [entry plan log "cost" payload]) = .keep := by
  unfold costMove
  rw [byKind_entry]

theorem internalMove_of_announced {modelReceipt : Receipt}
    (hmodel : byKind "model" log = some modelReceipt)
    (htrace : payloadGet modelReceipt.payload "internal_trace" ≠ .null) :
    internalMove environment plan log =
      if byKind "internal_trace" log = none then
        .ofAnswer (internalPayload environment plan modelReceipt
          (payloadGet modelReceipt.payload "internal_trace"))
      else .keep := by
  rw [internalMove, hmodel]
  dsimp only
  generalize payloadGet modelReceipt.payload "internal_trace" = trace at htrace ⊢
  cases hfound : byKind "internal_trace" log with
  | none =>
    rw [if_pos rfl]
    cases trace with
    | null => exact absurd rfl htrace
    | _ => rfl
  | some receipt =>
    rw [if_neg nofun]
    cases trace with
    | null => exact absurd rfl htrace
    | _ => rfl

theorem settles_of_done {kind : String} {move : List Receipt → Move}
    (hdone : ∀ log payload, move log = .append payload →
      move (log ++ [entry plan log kind payload]) = .keep) (next : List Receipt)
    (h : settle plan kind move log = some next) : settle plan kind move next = some next := by
  rw [settle_eq_self_iff]
  rcases settle_cases h with ⟨hkeep, rfl⟩ | ⟨payload, happend, rfl⟩
  · exact hkeep
  · exact hdone log payload happend

/-- A stage stays settled when the receipt of a later one makes it keep the
log all the same. -/
theorem keeps_of_snoc {earlier later : String} {move other : List Receipt → Move}
    (hsnoc : ∀ log receipt, receipt.kind = later → move log = .keep →
      move (log ++ [receipt]) = .keep) (next : List Receipt)
    (hearlier : settle plan earlier move log = some log)
    (hlater : settle plan later other log = some next) :
    settle plan earlier move next = some next := by
  rw [settle_eq_self_iff] at *
  rcases settle_cases hlater with ⟨-, rfl⟩ | ⟨payload, -, rfl⟩
  · exact hearlier
  · exact hsnoc log _ rfl hearlier

theorem stages_resumable : Resumable (stages environment plan prediction) where
  settles := by
    intro stage hmem log next
    simp only [stages, List.mem_cons, List.not_mem_nil, or_false] at hmem
    rcases hmem with rfl | rfl | rfl | rfl | rfl | rfl
    · exact settles_of_done (fun _ _ h => workspaceMove_done h) next
    · exact settles_of_done (fun _ _ _ => predictionMove_done) next
    · exact settles_of_done (fun _ _ _ => modelMove_done) next
    · exact settles_of_done (fun _ _ h => traceMove_done h) next
    · exact settles_of_done (fun _ _ h => internalMove_done h) next
    · exact settles_of_done (fun _ _ _ => costMove_done) next
  keeps := by
    have hworkspace {kind : String} (hne : kind ≠ "workspace") (log : List Receipt)
        (receipt : Receipt) (hkind : receipt.kind = kind)
        (h : workspaceMove environment plan log = .keep) :
        workspaceMove environment plan (log ++ [receipt]) = .keep := by
      rw [workspaceMove_snoc (hkind ▸ hne)]
      exact h
    have hprediction {kind : String} (log : List Receipt) (receipt : Receipt)
        (_ : receipt.kind = kind) (h : predictionMove prediction log = .keep) :
        predictionMove prediction (log ++ [receipt]) = .keep := by
      rw [predictionMove_eq_keep_iff] at *
      apply h.imp_right
      intro hfound
      rw [byKind_snoc]
      split
      · exact nofun
      · exact hfound
    have hmodel {kind : String} (hne : kind ≠ "model") (hother : kind ≠ "workspace")
        (log : List Receipt) (receipt : Receipt) (hkind : receipt.kind = kind)
        (h : modelMove environment plan log = .keep) :
        modelMove environment plan (log ++ [receipt]) = .keep := by
      rw [modelMove_snoc (hkind ▸ hne) (hkind ▸ hother)]
      exact h
    have htrace {kind : String} (hne : kind ≠ "external_trace") (hother : kind ≠ "model")
        (log : List Receipt) (receipt : Receipt) (hkind : receipt.kind = kind)
        (h : traceMove plan log = .keep) : traceMove plan (log ++ [receipt]) = .keep := by
      rw [traceMove_snoc (hkind ▸ hne) (hkind ▸ hother)]
      exact h
    have hinternal {kind : String} (hne : kind ≠ "internal_trace") (hother : kind ≠ "model")
        (log : List Receipt) (receipt : Receipt) (hkind : receipt.kind = kind)
        (h : internalMove environment plan log = .keep) :
        internalMove environment plan (log ++ [receipt]) = .keep := by
      rw [internalMove_snoc (hkind ▸ hne) (hkind ▸ hother)]
      exact h
    simp only [stages, List.pairwise_cons, List.mem_cons, List.not_mem_nil, or_false,
      forall_eq_or_imp, forall_eq, List.Pairwise.nil, and_true, false_imp_iff, forall_const]
    refine ⟨⟨?_, ?_, ?_, ?_, ?_⟩, ⟨?_, ?_, ?_, ?_⟩, ⟨?_, ?_, ?_⟩, ⟨?_, ?_⟩, ?_⟩
    · exact fun _ next => keeps_of_snoc (hworkspace (by decide)) next
    · exact fun _ next => keeps_of_snoc (hworkspace (by decide)) next
    · exact fun _ next => keeps_of_snoc (hworkspace (by decide)) next
    · exact fun _ next => keeps_of_snoc (hworkspace (by decide)) next
    · exact fun _ next => keeps_of_snoc (hworkspace (by decide)) next
    · exact fun _ next => keeps_of_snoc hprediction next
    · exact fun _ next => keeps_of_snoc hprediction next
    · exact fun _ next => keeps_of_snoc hprediction next
    · exact fun _ next => keeps_of_snoc hprediction next
    · exact fun _ next => keeps_of_snoc (hmodel (by decide) (by decide)) next
    · exact fun _ next => keeps_of_snoc (hmodel (by decide) (by decide)) next
    · exact fun _ next => keeps_of_snoc (hmodel (by decide) (by decide)) next
    · exact fun _ next => keeps_of_snoc (htrace (by decide) (by decide)) next
    · exact fun _ next => keeps_of_snoc (htrace (by decide) (by decide)) next
    · exact fun _ next => keeps_of_snoc (hinternal (by decide) (by decide)) next

theorem settle_snoc {kind : String} {move : List Receipt → Move}
    (hsnoc : move (log ++ [receipt]) = move log) (h : settle plan kind move log = some log) :
    settle plan kind move (log ++ [receipt]) = some (log ++ [receipt]) := by
  rw [settle_eq_self_iff] at *
  rw [hsnoc, h]

def stageKinds : List String :=
  ["workspace", "mechanism_prediction", "model", "external_trace", "internal_trace", "cost"]

theorem stages_snoc (hkind : receipt.kind ∉ stageKinds)
    {stage : List Receipt → Option (List Receipt)}
    (hmem : stage ∈ stages environment plan prediction) (h : stage log = some log) :
    stage (log ++ [receipt]) = some (log ++ [receipt]) := by
  have hne {kind : String} (hmem : kind ∈ stageKinds) : receipt.kind ≠ kind := by
    rintro rfl
    exact hkind hmem
  simp only [stages, List.mem_cons, List.not_mem_nil, or_false] at hmem
  rcases hmem with rfl | rfl | rfl | rfl | rfl | rfl
  · exact settle_snoc (workspaceMove_snoc (hne (by decide))) h
  · exact settle_snoc (predictionMove_snoc (hne (by decide)) (hne (by decide))) h
  · exact settle_snoc (modelMove_snoc (hne (by decide)) (hne (by decide))) h
  · exact settle_snoc (traceMove_snoc (hne (by decide)) (hne (by decide))) h
  · exact settle_snoc (internalMove_snoc (hne (by decide)) (hne (by decide))) h
  · exact settle_snoc (costMove_snoc (hne (by decide)) (hne (by decide))) h

end Settle

end JlensEvolve.Runtime
