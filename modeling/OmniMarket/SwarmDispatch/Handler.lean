import OmniMarket.Lib.OrderedDict
import OmniMarket.Lib.Trace
import OmniMarket.Routing.Reducer

/-!
# The records of the swarm dispatch orchestrator

The state of a run, the request that starts it and the messages that the orchestrator
publishes. The request's `decompose`, `config` and `model_tier` are read by no transition and
are left out. Costs are exact rationals.
-/

namespace OmniMarket.SwarmDispatch

/-! ## The state of a run -/

inductive EnumSwarmOrchestratorState where
  | received
  | healthChecked
  | decomposed
  | endpointsSelected
  | dispatching
  | aggregating
  | completed
  | failed
deriving DecidableEq

namespace EnumSwarmOrchestratorState

/-- The member's name. -/
def name : EnumSwarmOrchestratorState → String
  | .received => "RECEIVED"
  | .healthChecked => "HEALTH_CHECKED"
  | .decomposed => "DECOMPOSED"
  | .endpointsSelected => "ENDPOINTS_SELECTED"
  | .dispatching => "DISPATCHING"
  | .aggregating => "AGGREGATING"
  | .completed => "COMPLETED"
  | .failed => "FAILED"

/-- The member's value. -/
def value : EnumSwarmOrchestratorState → String
  | .received => "received"
  | .healthChecked => "health_checked"
  | .decomposed => "decomposed"
  | .endpointsSelected => "endpoints_selected"
  | .dispatching => "dispatching"
  | .aggregating => "aggregating"
  | .completed => "completed"
  | .failed => "failed"

/-- `repr(state)`. -/
def repr (state : EnumSwarmOrchestratorState) : String :=
  "<EnumSwarmOrchestratorState." ++ state.name ++ ": '" ++ state.value ++ "'>"

/-- The `terminal_states` of the contract. -/
def isTerminal : EnumSwarmOrchestratorState → Bool
  | .completed | .failed => true
  | _ => false

end EnumSwarmOrchestratorState

inductive EnumSwarmRunStatus where
  | succeeded
  | degraded
  | failed
  | timeout

structure ModelEndpointHealth where
  endpointId : String
  status : String
  latencyMs : Option ℤ := none
  error : Option String := none

structure ModelSubtask where
  subtaskId : String
  description : String
  modelAffinity : String := ""
  dependsOn : List String := []
  estimatedTokens : ℤ := 0
  category : String := "general"

structure ModelSubtaskDispatch where
  subtaskId : String
  endpointId : String
  status : String
  latencyMs : ℤ := 0
  resultText : String := ""
  failureReason : String := ""
  wave : ℤ := 0
  modelId : String := ""
  baseUrl : String := ""

/-- `aggregatedOutput` is copied into the state unchecked, so it need not be a string. -/
structure ModelOrchestratorState where
  fsmState : EnumSwarmOrchestratorState := .received
  runId : String := ""
  correlationId : String := ""
  originalTask : String := ""
  endpointHealth : OrderedDict String ModelEndpointHealth := .empty
  subtasks : List ModelSubtask := []
  assignments : OrderedDict String String := .empty
  dispatches : List ModelSubtaskDispatch := []
  aggregatedOutput : PyValue := .str ""
  error : String := ""
  totalLatencyMs : ℤ := 0
  dispatchWallLatencyMs : ℤ := 0
  maxSubtasks : ℤ := 6

namespace ModelOrchestratorState

section

variable (run : ModelOrchestratorState)

def withState (state : EnumSwarmOrchestratorState) :
    ModelOrchestratorState :=
  { run with fsmState := state }

def withHealth (health : OrderedDict String ModelEndpointHealth) :
    ModelOrchestratorState :=
  { run with fsmState := .healthChecked, endpointHealth := health }

def withSubtasks (subtasks : List ModelSubtask) :
    ModelOrchestratorState :=
  { run with fsmState := .decomposed, subtasks := subtasks }

def withAssignments (assignments : OrderedDict String String) :
    ModelOrchestratorState :=
  { run with fsmState := .endpointsSelected, assignments := assignments }

def withDispatches (dispatches : List ModelSubtaskDispatch) (dispatchWallLatencyMs : ℤ) :
    ModelOrchestratorState :=
  { run with
    fsmState := .dispatching
    dispatches := dispatches
    dispatchWallLatencyMs := dispatchWallLatencyMs }

def withAggregated (aggregatedOutput : PyValue) (totalLatencyMs : ℤ) : ModelOrchestratorState :=
  { run with
    fsmState := .aggregating
    aggregatedOutput := aggregatedOutput
    totalLatencyMs := totalLatencyMs }

def withError (error : String) : ModelOrchestratorState :=
  { run with fsmState := .failed, error := error }

end

end ModelOrchestratorState

/-! ## The request and the commands -/

structure ModelSwarmConfig where
  maxParallelSubtasks : ℤ := 4
  maxSubtasksPerEndpoint : ℤ := 2
  perEndpointTimeoutSeconds : ℤ := 120
  totalRunTimeoutSeconds : ℤ := 600
  retryPolicyMaxRetries : ℤ := 1
  fallbackPolicyEnabled : Bool := true

structure ModelSwarmDispatchRequest where
  task : NonEmptyString
  endpointIds : List String := []
  maxSubtasks : ℤ := 6
  correlationId : String
  runId : String

structure ModelSwarmHealthCheckCommand where
  endpointIds : List String
  correlationId : String
  runId : String

structure ModelSwarmDecomposeCommand where
  plannerOutput : String
  plannerModelId : String
  plannerOutputHash : String
  endpointIds : List String
  originalTask : String
  correlationId : String
  runId : String
  decompose : Bool := true
  maxSubtasks : ℤ := 6

structure ModelSwarmSelectEndpointsCommand where
  subtasks : List ModelSubtask
  endpointHealth : OrderedDict String ModelEndpointHealth
  correlationId : String
  runId : String

structure ModelSwarmFanoutCommand where
  subtasks : List ModelSubtask
  assignments : OrderedDict String String
  endpointHealth : OrderedDict String ModelEndpointHealth
  config : ModelSwarmConfig
  correlationId : String
  runId : String

structure ModelSwarmAggregateCommand where
  subtasks : List ModelSubtask
  dispatchesJson : String
  mode : String := "concatenation"
  synthesisOutput : Option String := none
  correlationId : String
  runId : String

/-! ## The terminal events -/

/-- The payload of `swarm-dispatch-completed`. -/
structure CompletedPayload where
  runId : String
  correlationId : String
  status : EnumSwarmRunStatus
  aggregatedOutput : PyValue
  subtaskCount : ℕ
  succeededCount : ℕ
  failedCount : ℕ
  skippedCount : ℕ
  totalLatencyMs : ℤ
  modelsUsed : List String
  dispatchWallLatencyMs : ℤ
  totalCostUsd : ℚ
  cloudEquivalentCostUsd : ℚ
  savingsUsd : ℚ
  parallelismSpeedupRatio : ℚ

/-- The payload of `swarm-dispatch-failed`. -/
structure FailedPayload where
  runId : String
  correlationId : String
  status : EnumSwarmRunStatus
  fsmState : EnumSwarmOrchestratorState
  error : String
  task : String

/-- What the orchestrator publishes. -/
inductive Message where
  | checkEndpointHealth (command : ModelSwarmHealthCheckCommand)
  | decompose (command : ModelSwarmDecomposeCommand)
  | selectEndpoints (command : ModelSwarmSelectEndpointsCommand)
  | fanout (command : ModelSwarmFanoutCommand)
  | aggregate (command : ModelSwarmAggregateCommand)
  | dispatchCompleted (payload : CompletedPayload)
  | dispatchFailed (payload : FailedPayload)

namespace Message

def terminalOf (runId : String) : Message → Bool
  | .dispatchCompleted payload => payload.runId == runId
  | .dispatchFailed payload => payload.runId == runId
  | _ => false

end Message

/-!
# The swarm dispatch handler

`HandlerSwarmDispatchOrchestrator` as a machine that takes one delivery at a time: an initial
command or a response event, together with the bus's answer to each publish. Its state is the
in-process store of runs and what the bus has accepted. The durable store is a copy of the
in-process one and is left out; so are the envelope around a published payload and logging.

Parsing a payload raises when a key is missing or a value has a wrong type. The validation of
integers and the text of values are a parameter, `SwarmText`.
-/

structure SwarmText where
  unicode : UnicodeTable
  /-- `_hash_text`: SHA-256 in hexadecimal. -/
  hashText : String → String
  /-- `str(v)` of a value that is not a string. -/
  strValue : PyValue → String
  /-- The validation of an `int` field. -/
  asInt : PyValue → Option ℤ
  /-- `int(v)`. -/
  intOf : PyValue → Option ℤ
  /-- The text of the error that parsing the payload raises. -/
  payloadError : PyDict → String

/-! ## Payloads -/

/-- `event.get(key, default)`. -/
def getOr (event : PyDict) (key : String) (default : PyValue) : PyValue :=
  (event.get? key).getD default

/-- The items that a `for` loop draws from the value. -/
def iterate : PyValue → Option (List PyValue)
  | .list items => some items
  | .dict entries => some (entries.map fun entry => .str entry.1)
  | .str value => some (value.toList.map fun c => .str (String.singleton c))
  | _ => none

/-- `len(v)`. -/
def lengthOf : PyValue → Option ℕ
  | .str value => some value.length
  | .list items => some items.length
  | .dict entries => some entries.length
  | _ => none

def optionalField {α : Type} (validate : PyValue → Option α) (value : PyValue) :
    Option (Option α) :=
  if value.isNone then some none else (validate value).map some

/-- `{**parsed, key: value}` for the entries in order. -/
def collect {ν : Type} (parse : String → PyValue → Option ν) :
    OrderedDict String ν → PyDict → Option (OrderedDict String ν)
  | parsed, [] => some parsed
  | parsed, (key, value) :: rest => do
      let item ← parse key value
      collect parse (parsed.set key item) rest

section

variable (text : SwarmText)

def parseEndpointHealth (endpointId : String) (value : PyValue) :
    Option ModelEndpointHealth := do
  let data ← value.asDict?
  let status ← (getOr data "endpoint_status" (.str "unknown")).asStr?
  let latencyMs ← optionalField text.asInt (data.get "latency_ms")
  let error ← optionalField PyValue.asStr? (data.get "error")
  return { endpointId, status, latencyMs, error }

def parseHealthEvent (event : PyDict) :
    Option (OrderedDict String ModelEndpointHealth) := do
  let raw ← (getOr event "endpoint_health" (.dict [])).asDict?
  collect (parseEndpointHealth text) .empty raw

def parseSubtask (value : PyValue) : Option ModelSubtask := do
  let s ← value.asDict?
  let subtaskId ← (← s.get? "subtask_id").asStr?
  let description ← (getOr s "description" (.str "")).asStr?
  let modelAffinity ← (getOr s "model_affinity" (.str "")).asStr?
  let dependsOn ← (← iterate (getOr s "depends_on" (.list []))).mapM PyValue.asStr?
  let estimatedTokens ← text.asInt (getOr s "estimated_tokens" (.int 0))
  let category ← (getOr s "category" (.str "general")).asStr?
  return { subtaskId, description, modelAffinity, dependsOn, estimatedTokens, category }

def parseDecomposeEvent (event : PyDict) : Option (List ModelSubtask) := do
  (← iterate (getOr event "subtasks" (.list []))).mapM (parseSubtask text)

/-- `str(v)`. -/
def strOf : PyValue → String
  | .str value => value
  | other => text.strValue other

def parseSelectEvent (event : PyDict) : Option (OrderedDict String String) := do
  let assignments ← (getOr event "assignments" (.dict [])).asDict?
  collect (fun _ value => some (strOf text value)) .empty assignments

def parseDispatch (value : PyValue) : Option ModelSubtaskDispatch := do
  let d ← value.asDict?
  let subtaskId ← (← d.get? "subtask_id").asStr?
  let endpointId ← (getOr d "endpoint_id" (.str "")).asStr?
  let status ← (getOr d "status" (.str "failed")).asStr?
  let latencyMs ← text.asInt (getOr d "latency_ms" (.int 0))
  let resultText ← (getOr d "result_text" (.str "")).asStr?
  let failureReason ← (getOr d "failure_reason" (.str "")).asStr?
  let wave ← text.asInt (getOr d "wave" (.int 0))
  let modelId ← (getOr d "model_id" (.str "")).asStr?
  let baseUrl ← (getOr d "base_url" (.str "")).asStr?
  return { subtaskId, endpointId, status, latencyMs, resultText, failureReason, wave, modelId,
           baseUrl }

def parseFanoutEvent (event : PyDict) : Option (List ModelSubtaskDispatch) := do
  (← iterate (getOr event "dispatches" (.list []))).mapM (parseDispatch text)

/-! ## Terminal payloads -/

def failedStatuses : List String := ["failed", "timeout", "context_window_exceeded"]

def determineRunStatus (dispatches : List ModelSubtaskDispatch) : EnumSwarmRunStatus :=
  let failed := dispatches.filter fun d => failedStatuses.contains d.status
  let succeeded := dispatches.filter fun d => d.status == "succeeded"
  if failed.isEmpty then .succeeded
  else if succeeded.isEmpty then .failed
  else .degraded

def t4CostPerMs : ℚ := 1044 / 10 ^ 10

section

variable (run : ModelOrchestratorState)

def buildCompletedPayload : CompletedPayload :=
  let wallMs := run.dispatchWallLatencyMs
  let sumSubtaskMs := (run.dispatches.map ModelSubtaskDispatch.latencyMs).sum
  let cloudEquivalentCostUsd := PyNumber.round 6 (sumSubtaskMs * t4CostPerMs)
  { runId := run.runId
    correlationId := run.correlationId
    status := determineRunStatus run.dispatches
    aggregatedOutput := run.aggregatedOutput
    subtaskCount := run.dispatches.length
    succeededCount := run.dispatches.countP fun d => d.status == "succeeded"
    failedCount := run.dispatches.countP fun d => failedStatuses.contains d.status
    skippedCount := run.dispatches.countP fun d => d.status == "skipped_dependency_failed"
    totalLatencyMs := run.totalLatencyMs
    modelsUsed := sortedSet ((run.dispatches.map ModelSubtaskDispatch.modelId).filter (· != ""))
    dispatchWallLatencyMs := wallMs
    totalCostUsd := 0
    cloudEquivalentCostUsd := cloudEquivalentCostUsd
    savingsUsd := PyNumber.round 6 (cloudEquivalentCostUsd - 0)
    parallelismSpeedupRatio :=
      if wallMs > 0 ∧ sumSubtaskMs > wallMs then PyNumber.round 4 (sumSubtaskMs / wallMs) else 1 }

/-! ## Errors -/

/-- What a delivery raises. -/
inductive RouteError where
  | missingRunId
  | unmappedTopic (topic : String)
  | missingRunState (runId : PyValue) (topic : String)
  | invalidTransition (expected actual : EnumSwarmOrchestratorState)
  | invalidPayload (payload : PyDict)
  | publishRefused (error : String)

/-- `repr(v)`. -/
def reprOf : PyValue → String
  | .str value => PyText.reprString text.unicode value
  | other => text.strValue other

/-- `str(exc)`. -/
def RouteError.message : RouteError → String
  | .missingRunId => "route_event payload missing run_id"
  | .unmappedTopic topic => "No FSM routing for topic: " ++ PyText.reprString text.unicode topic
  | .missingRunState runId topic =>
    "No FSM state for run_id=" ++ reprOf text runId ++ " on topic=" ++
      PyText.reprString text.unicode topic
  | .invalidTransition expected actual =>
    "Expected FSM state " ++ expected.repr ++ ", got " ++ actual.repr
  | .invalidPayload payload => text.payloadError payload
  | .publishRefused error => error

/-! ## Transitions -/

def assertState (expected : EnumSwarmOrchestratorState) :
    Except RouteError Unit :=
  if run.fsmState ≠ expected then .error (.invalidTransition expected run.fsmState) else .ok ()

def parsed {α : Type} (payload : PyDict) : Option α → Except RouteError α
  | some value => .ok value
  | none => .error (.invalidPayload payload)

abbrev Advance := ModelOrchestratorState × List Message

def transitionReceived (request : ModelSwarmDispatchRequest) :
    Except RouteError Advance := do
  assertState run .received
  return (run, [.checkEndpointHealth
    { endpointIds := request.endpointIds
      correlationId := request.correlationId
      runId := request.runId }])

/-- The routed event carries no planner output, so the task stands in for it. -/
def effectivePlannerOutput : String :=
  PyText.textOrElse (some run.originalTask) "passthrough"

def transitionHealthChecked (event : PyDict) :
    Except RouteError Advance := do
  assertState run .received
  let endpointHealth ← parsed event (parseHealthEvent text event)
  let run := run.withHealth endpointHealth
  return (run, [.decompose
    { plannerOutput := effectivePlannerOutput run
      plannerModelId := "passthrough"
      plannerOutputHash := text.hashText (effectivePlannerOutput run)
      endpointIds := endpointHealth.entries.map Prod.fst
      originalTask := run.originalTask
      correlationId := run.correlationId
      runId := run.runId
      decompose := true
      maxSubtasks := run.maxSubtasks }])

def transitionDecomposed (event : PyDict) :
    Except RouteError Advance := do
  assertState run .healthChecked
  let subtasks ← parsed event (parseDecomposeEvent text event)
  let run := run.withSubtasks subtasks
  return (run, [.selectEndpoints
    { subtasks := subtasks
      endpointHealth := run.endpointHealth
      correlationId := run.correlationId
      runId := run.runId }])

def transitionEndpointsSelected (event : PyDict) :
    Except RouteError Advance := do
  assertState run .decomposed
  let assignments ← parsed event (parseSelectEvent text event)
  let run := run.withAssignments assignments
  return (run, [.fanout
    { subtasks := run.subtasks
      assignments := assignments
      endpointHealth := run.endpointHealth
      config := {}
      correlationId := run.correlationId
      runId := run.runId }])

/-- `str([d.model_dump() for d in dispatches])`. -/
def dispatchesText (dispatches : List ModelSubtaskDispatch) : String :=
  text.strValue (.list (dispatches.map fun d => .dict
    [("subtask_id", .str d.subtaskId), ("endpoint_id", .str d.endpointId),
     ("status", .str d.status), ("latency_ms", .int d.latencyMs),
     ("result_text", .str d.resultText), ("failure_reason", .str d.failureReason),
     ("wave", .int d.wave), ("model_id", .str d.modelId), ("base_url", .str d.baseUrl)]))

def transitionDispatching (event : PyDict) :
    Except RouteError Advance := do
  assertState run .endpointsSelected
  let dispatches ← parsed event (parseFanoutEvent text event)
  let wallLatencyMs ← parsed event (text.intOf (getOr event "wall_latency_ms" (.int 0)))
  let run := run.withDispatches dispatches wallLatencyMs
  return (run, [.aggregate
    { subtasks := run.subtasks
      dispatchesJson := dispatchesText text dispatches
      mode := "concatenation"
      synthesisOutput := none
      correlationId := run.correlationId
      runId := run.runId }])

end

end

/-- The length of the output is only logged, but taking it raises for a value without one. -/
def transitionAggregating (run : ModelOrchestratorState) (event : PyDict) :
    Except RouteError Advance := do
  assertState run .dispatching
  let aggregatedOutput := getOr event "aggregated_output" (.str "")
  let _ ← parsed event (lengthOf aggregatedOutput)
  return (run.withAggregated aggregatedOutput 0, [])

def transitionCompleted (run : ModelOrchestratorState) : Except RouteError Advance := do
  assertState run .aggregating
  let run := run.withState .completed
  return (run, [.dispatchCompleted (buildCompletedPayload run)])

def transitionFailed (run : ModelOrchestratorState) (error : String)
    (request : ModelSwarmDispatchRequest) : Advance :=
  let run := run.withError error
  (run, [.dispatchFailed
    { runId := run.runId
      correlationId := run.correlationId
      status := .failed
      fsmState := run.fsmState
      error := run.error
      task := request.task.value }])

/-! ## Deliveries -/

inductive RoutingKey where
  | healthChecked
  | decomposed
  | endpointsSelected
  | dispatching
  | aggregating

/-- `_topic_routing`, as built from the contract's subscribed topics. -/
def topicRouting : List (String × RoutingKey) :=
  [("onex.evt.omnimarket.swarm-endpoint-health-completed.v1", .healthChecked),
   ("onex.evt.omnimarket.swarm-decomposition-completed.v1", .decomposed),
   ("onex.evt.omnimarket.swarm-endpoints-selected.v1", .endpointsSelected),
   ("onex.evt.omnimarket.swarm-fanout-completed.v1", .dispatching),
   ("onex.evt.omnimarket.swarm-aggregation-completed.v1", .aggregating)]

/-- The bus's answer to a publish: `none` when it accepts, else the text of what it raises. -/
abbrev Bus := Message → Option String

/-- `_flush`: what the bus accepts, in order, up to the first publish that raises. -/
def flush (bus : Bus) : List Message → List Message × Except RouteError Unit
  | [] => ([], .ok ())
  | message :: rest =>
    match bus message with
    | some error => ([], .error (.publishRefused error))
    | none => (message :: (flush bus rest).1, (flush bus rest).2)

/-- `_in_process_state`. -/
abbrev RunStore := OrderedDict String ModelOrchestratorState

def persistState (store : RunStore) (run : ModelOrchestratorState) : RunStore :=
  store.set run.runId run

structure Handled where
  store : RunStore
  published : List Message
  returned : Except RouteError (Option ModelOrchestratorState)

def initialState (request : ModelSwarmDispatchRequest) : ModelOrchestratorState where
  fsmState := .received
  runId := request.runId
  correlationId := request.correlationId
  originalTask := request.task.value
  maxSubtasks := request.maxSubtasks

section

variable (text : SwarmText)

/-- The `except` branch: the failed state is published but not persisted. -/
def failInitial (store : RunStore) (bus : Bus) (published : List Message)
    (run : ModelOrchestratorState) (raised : RouteError) (request : ModelSwarmDispatchRequest) :
    Handled :=
  let failed := transitionFailed run (raised.message text) request
  let flushed := flush bus failed.2
  { store := store
    published := published ++ flushed.1
    returned := flushed.2.map fun _ => none }

def handleAsyncInitial (store : RunStore) (request : ModelSwarmDispatchRequest) (bus : Bus) :
    Handled :=
  match transitionReceived (initialState request) request with
  | .error raised => failInitial text store bus [] (initialState request) raised request
  | .ok (run, publishes) =>
    let flushed := flush bus publishes
    match flushed.2 with
    | .ok _ => ⟨persistState store run, flushed.1, .ok none⟩
    | .error raised =>
      failInitial text (persistState store run) bus flushed.1 run raised request

def routeTransition (run : ModelOrchestratorState) (event : PyDict) :
    RoutingKey → Except RouteError Advance
  | .healthChecked => transitionHealthChecked text run event
  | .decomposed => transitionDecomposed text run event
  | .endpointsSelected => transitionEndpointsSelected text run event
  | .dispatching => transitionDispatching text run event
  | .aggregating => do
      let (run, _) ← transitionAggregating run event
      transitionCompleted run

def loadRun (store : RunStore) (topic : String) (payload : PyDict) :
    Except RouteError (ModelOrchestratorState × RoutingKey) :=
  let runId := getOr payload "run_id" (.str "")
  if runId.truthy = false then .error .missingRunId
  else
    match topicRouting.lookup topic with
    | none => .error (.unmappedTopic topic)
    | some key =>
      match runId.asStr?.bind store.get? with
      | none => .error (.missingRunState runId topic)
      | some run => .ok (run, key)

def routeEvent (store : RunStore) (topic : String) (payload : PyDict) (bus : Bus) : Handled :=
  match loadRun store topic payload with
  | .error raised => ⟨store, [], .error raised⟩
  | .ok (run, key) =>
    match routeTransition text run payload key with
    | .error raised => ⟨store, [], .error raised⟩
    | .ok (next, publishes) =>
      let flushed := flush bus publishes
      ⟨persistState store next, flushed.1, flushed.2.map fun _ => some next⟩

/-! ## Runs -/

/-- A message for the handler, with the bus's answers while it is handled. -/
inductive Delivery where
  | dispatch (request : ModelSwarmDispatchRequest) (bus : Bus)
  | response (topic : String) (payload : PyDict) (bus : Bus)

/-- The store and what the bus has accepted so far. -/
structure System where
  store : RunStore
  published : List Message

def start : System := ⟨.empty, []⟩

def handle (store : RunStore) : Delivery → Handled
  | .dispatch request bus => handleAsyncInitial text store request bus
  | .response topic payload bus => routeEvent text store topic payload bus

def step (system : System) (delivery : Delivery) : System × Handled :=
  let handled := handle text system.store delivery
  (⟨handled.store, system.published ++ handled.published⟩, handled)

end

end OmniMarket.SwarmDispatch
