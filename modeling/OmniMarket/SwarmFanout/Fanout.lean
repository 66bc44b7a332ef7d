import OmniMarket.Lib.PyText
import OmniMarket.Lib.PyValue
import OmniMarket.Lib.Trace
import OmniMarket.SwarmFanout.Waves

/-!
# The swarm fan-out handler

`HandlerSwarmFanout.handle` publishes a command for each runnable subtask of a wave, polls once
for the events of the wave and records a dispatch for each subtask it still waits for. It is a
machine whose events are the waves.

The clock is the sequence of its readings, and the queue answers each poll with a list of events.
The registry file, SHA-256 and the texts of values are parameters. The publisher does not raise.
-/

namespace OmniMarket.SwarmFanout

/-! ## Requests -/

structure ModelSwarmEndpoint where
  endpointId : String
  baseUrl : String
  modelId : String
  endpointRef : String := ""

structure ModelSwarmConfig where
  perEndpointTimeoutSeconds : ℤ := 120
  totalRunTimeoutSeconds : ℤ := 600

structure ModelSwarmFanoutRequest where
  subtasks : List ModelSubtask
  assignments : OrderedDict String String
  endpoints : List ModelSwarmEndpoint := []
  endpointHealth : OrderedDict String PyValue := .empty
  config : ModelSwarmConfig := {}
  runId : String
  endpointRegistryHash : String := ""
  routingPolicyHash : String := ""

/-- What the handler reads from outside of the request. -/
structure FanoutEnv where
  /-- `_load_endpoint_registry`. -/
  registry : OrderedDict String ModelSwarmEndpoint
  /-- The readings of `time.monotonic()`, in order. -/
  clock : ℕ → ℚ
  monotonic : Monotone clock
  /-- The answers to the polls, in order. -/
  poll : ℕ → List PyDict
  /-- `str(v)` of a value that is not a string. -/
  strValue : PyValue → String
  /-- `int(text)`; `none` is a `ValueError`. -/
  intOfText : String → Option ℤ
  sha256 : String → String

/-- `str(v)`. -/
def FanoutEnv.str (env : FanoutEnv) : PyValue → String
  | .str text => text
  | other => env.strValue other

/-- `event.get(key, default)`. -/
def getOr (event : PyDict) (key : String) (default : PyValue) : PyValue :=
  (event.get? key).getD default

/-! ## Topics of the contract -/

def subscribeTopics : List String :=
  ["onex.cmd.omnimarket.swarm-fanout.v1",
    "onex.evt.omnimarket.delegation-call-completed.v1",
    "onex.evt.omnimarket.delegation-escalation-triggered.v1",
    "onex.evt.omnimarket.delegation-all-tiers-failed.v1"]

def publishTopics : List String :=
  ["onex.evt.omnimarket.swarm-fanout-completed.v1", "onex.cmd.omnimarket.delegation-execute.v1"]

/-- `part in text`. -/
def isIn (part text : String) : Bool := PyText.containsText part.toList text.toList

def delegationExecuteTopic : String :=
  (publishTopics.find? (isIn "delegation-execute")).getD ""

def completionTopics : List String :=
  subscribeTopics.filter fun topic =>
    ["delegation-call-completed", "delegation-escalation-triggered",
      "delegation-all-tiers-failed"].any (isIn · topic)

/-! ## Dispatches -/

inductive EnumExecutionStatus
  | succeeded | failed | timeout | skippedDependencyFailed
deriving DecidableEq

structure ModelSwarmDispatch where
  subtaskId : String
  endpointId : String
  modelId : String
  baseUrl : String
  executionStatus : EnumExecutionStatus
  failureReason : String := ""
  latencyMs : ℤ := 0
  wave : ℕ := 0

structure DelegationCommand where
  requestId : String
  correlationId : String
  causationId : String
  modelId : String
  endpointRef : String
  prompt : String
  promptHash : String
  maxTokens : ℤ
  taskType : String
  taskId : String
  routingPolicyHash : String
  registryHash : String

structure Published where
  subtask : ModelSubtask
  topic : String
  command : DelegationCommand

/-- A call of `poll`. -/
structure PollCall where
  topics : List String
  runId : String
  timeoutSeconds : ℚ

inductive FanoutError
  /-- The `KeyError` of a subtask that is not known. -/
  | unknownSubtask (subtaskId : String)
  /-- The `ValueError` of a latency that is no integer. -/
  | badLatency (text : String)

structure FanoutState where
  /-- The readings of the clock so far. -/
  readings : ℕ
  polls : List PollCall := []
  published : List Published := []
  dispatches : List ModelSwarmDispatch := []
  failedIds : List String := []
  /-- An error that ends the run. -/
  raised : Option FanoutError := none

structure ModelSwarmFanoutResult where
  dispatches : List ModelSwarmDispatch
  wallLatencyMs : ℤ
  sumSubtaskLatencyMs : ℤ
  runId : String
  completedCount : ℕ
  failedCount : ℕ
  degraded : Bool
  aggregationMode : String
  endpointRegistryHash : String
  routingPolicyHash : String

/-! ## A wave -/

def correlationId (runId subtaskId : String) : String := runId ++ "-" ++ subtaskId

def ownsCorrelationId (runId correlationId : String) : Bool :=
  (runId ++ "-").toList.isPrefixOf correlationId.toList

section

variable (env : FanoutEnv) (request : ModelSwarmFanoutRequest)

def resolveEndpointMap : OrderedDict String ModelSwarmEndpoint :=
  if request.endpoints ≠ [] then
    .foldByKey ModelSwarmEndpoint.endpointId (fun _ endpoint => endpoint) .empty request.endpoints
  else if request.endpointHealth.size ≠ 0 then
    request.endpointHealth.keys.foldl
      (fun resolved endpointId =>
        match env.registry.get? endpointId with
        | some endpoint => resolved.set endpointId endpoint
        | none => resolved)
      .empty
  else .empty

def assignedEndpoint (subtask : ModelSubtask) : Option ModelSwarmEndpoint :=
  let endpointId := (request.assignments.get? subtask.subtaskId).getD ""
  match (resolveEndpointMap env request).get? endpointId with
  | none => none
  | some endpoint => if endpoint.endpointRef = "" then none else some endpoint

def commandFor (subtask : ModelSubtask) (endpoint : ModelSwarmEndpoint) : DelegationCommand where
  requestId := request.runId ++ "-" ++ subtask.subtaskId
  correlationId := correlationId request.runId subtask.subtaskId
  causationId := request.runId
  modelId := endpoint.modelId
  endpointRef := endpoint.endpointRef
  prompt := subtask.description
  promptHash := env.sha256 subtask.description
  maxTokens := if subtask.estimatedTokens ≠ 0 then subtask.estimatedTokens else 2048
  taskType := "swarm_subtask"
  taskId := subtask.subtaskId
  routingPolicyHash := request.routingPolicyHash
  registryHash := request.endpointRegistryHash

/-- The subtasks waited for, by correlation id. -/
abbrev Pending := OrderedDict String (ModelSubtask × Option ModelSwarmEndpoint)

def publishOne (totalDeadline : ℚ) (reached : FanoutState × Pending) (subtask : ModelSubtask) :
    FanoutState × Pending :=
  let (state, pending) := reached
  let timeLeft := totalDeadline - env.clock state.readings
  let state := { state with readings := state.readings + 1 }
  -- past the deadline the subtask is neither published nor waited for
  if timeLeft ≤ 0 then (state, pending)
  else
    let corrId := correlationId request.runId subtask.subtaskId
    match assignedEndpoint env request subtask with
    | none => (state, pending.set corrId (subtask, none))
    | some endpoint =>
      let command := commandFor env request subtask endpoint
      ({ state with published := state.published ++ [⟨subtask, delegationExecuteTopic, command⟩] },
        pending.set corrId (subtask, some endpoint))

/-- `str(raw_ev.get("correlation_id", ""))`. -/
def eventCorrelationId (event : PyDict) : String := env.str (getOr event "correlation_id" (.str ""))

def resultsOf (rawEvents : List PyDict) : OrderedDict String PyDict :=
  .foldByKey (eventCorrelationId env) (fun _ event => event) .empty
    (rawEvents.filter fun event => ownsCorrelationId request.runId (eventCorrelationId env event))

def isFailure (event : PyDict) : Bool :=
  isIn "all-tiers-failed" (env.str (getOr event "_topic" (.str "")))

def isSuccess (event : PyDict) : Bool :=
  -- an event without the field counts as a success
  (getOr event "success" (.bool true)).truthy && !isFailure env event

/-- `str(event.get("latency_ms", 0))`. -/
def latencyText (event : PyDict) : String := env.str (getOr event "latency_ms" (.int 0))

def dispatchOf (waveNum : ℕ) (results : OrderedDict String PyDict) (corrId : String)
    (subtask : ModelSubtask) : Option ModelSwarmEndpoint → Except FanoutError ModelSwarmDispatch
  | none =>
    .ok { subtaskId := subtask.subtaskId, endpointId := "", modelId := "", baseUrl := ""
          executionStatus := .failed, failureReason := "no_endpoint_assigned", wave := waveNum }
  | some endpoint =>
    match results.get? corrId with
    | none =>
      .ok { subtaskId := subtask.subtaskId, endpointId := endpoint.endpointId
            modelId := endpoint.modelId, baseUrl := endpoint.baseUrl
            executionStatus := .timeout, failureReason := "no_terminal_event_received"
            wave := waveNum }
    | some event =>
      match env.intOfText (latencyText env event) with
      -- `int` of the text raises
      | none => .error (.badLatency (latencyText env event))
      | some latencyMs =>
        .ok { subtaskId := subtask.subtaskId, endpointId := endpoint.endpointId
              modelId := env.str (getOr event "model_id" (.str endpoint.modelId))
              baseUrl := endpoint.baseUrl
              executionStatus := if isSuccess env event then .succeeded else .failed
              failureReason := if isSuccess env event then ""
                else env.str (getOr event "failure_class" (.str ""))
              latencyMs, wave := waveNum }

def dispatchWave (totalDeadline : ℚ) (waveNum : ℕ) (state : FanoutState)
    (subtasks : List ModelSubtask) : FanoutState × Except FanoutError (List ModelSwarmDispatch) :=
  let (state, pending) := subtasks.foldl (publishOne env request totalDeadline) (state, .empty)
  if pending.size = 0 then (state, .ok [])
  else
    -- the poll gets a second even when the deadline has passed
    let timeLeft := max (totalDeadline - env.clock state.readings) 1
    let call : PollCall :=
      { topics := completionTopics, runId := request.runId
        timeoutSeconds := min (request.config.perEndpointTimeoutSeconds : ℚ) timeLeft }
    let results := resultsOf env request (env.poll state.polls.length)
    ({ state with readings := state.readings + 1, polls := state.polls ++ [call] },
      pending.entries.mapM fun entry => dispatchOf env waveNum results entry.1 entry.2.1 entry.2.2)

def skippedDispatch (waveNum : ℕ) (subtask : ModelSubtask) : ModelSwarmDispatch where
  subtaskId := subtask.subtaskId
  endpointId := ""
  modelId := ""
  baseUrl := ""
  executionStatus := .skippedDependencyFailed
  failureReason := "dependency_failed"
  wave := waveNum

def sortOut (waveNum : ℕ) (reached : FanoutState × List ModelSubtask) (subtask : ModelSubtask) :
    FanoutState × List ModelSubtask :=
  let (state, runnable) := reached
  if subtask.dependsOn.any (state.failedIds.contains ·) then
    ({ state with dispatches := state.dispatches ++ [skippedDispatch waveNum subtask]
                  failedIds := subtask.subtaskId :: state.failedIds }, runnable)
  else (state, runnable ++ [subtask])

/-- A dispatch of a wave is recorded. -/
def record (state : FanoutState) (dispatch : ModelSwarmDispatch) : FanoutState :=
  { state with
    dispatches := state.dispatches ++ [dispatch]
    failedIds := if dispatch.executionStatus = .succeeded then state.failedIds
      else dispatch.subtaskId :: state.failedIds }

abbrev NumberedWave := List ModelSubtask × ℕ

/-- The state after a wave, with what `_dispatch_wave` returned. After an error nothing is done. -/
def waveStep (totalDeadline : ℚ) (state : FanoutState) (wave : NumberedWave) :
    FanoutState × List ModelSwarmDispatch :=
  match state.raised with
  | some _ => (state, [])
  | none =>
    let (state, runnable) := wave.1.foldl (sortOut wave.2) (state, [])
    if runnable = [] then (state, [])
    else
      match dispatchWave env request totalDeadline wave.2 state runnable with
      | (state, .error raised) => ({ state with raised := some raised }, [])
      | (state, .ok dispatches) => (dispatches.foldl record state, dispatches)

/-! ## The run -/

def deadlineOf : ℚ := env.clock 0 + request.config.totalRunTimeoutSeconds

/-- Before the first wave: the deadline and the start have been read. -/
def startState : FanoutState := { readings := 2 }

def resultOf (final : FanoutState) : ModelSwarmFanoutResult :=
  let wall := (env.clock final.readings - env.clock 1) * 1000
  let completedCount := final.dispatches.countP (·.executionStatus = .succeeded)
  let failedCount := final.dispatches.length - completedCount
  { dispatches := final.dispatches
    wallLatencyMs := wall.num.tdiv wall.den
    sumSubtaskLatencyMs := (final.dispatches.map (·.latencyMs)).sum
    runId := request.runId
    completedCount, failedCount
    degraded := decide (failedCount > 0)
    aggregationMode := "collect_all"
    endpointRegistryHash := request.endpointRegistryHash
    routingPolicyHash := request.routingPolicyHash }

def finalState (waves : List (List ModelSubtask)) : FanoutState :=
  Trace.final (waveStep env request (deadlineOf env request)) startState waves.zipIdx

/-- `none` is a recursion over the dependencies that does not end. -/
def handle : Option (Except FanoutError ModelSwarmFanoutResult) :=
  match computeWaves request.subtasks with
  | none => none
  | some (.error missing) => some (.error (.unknownSubtask missing))
  | some (.ok waves) =>
    let final := finalState env request waves
    match final.raised with
    | some raised => some (.error raised)
    | none => some (.ok (resultOf env request final))

end

end OmniMarket.SwarmFanout
