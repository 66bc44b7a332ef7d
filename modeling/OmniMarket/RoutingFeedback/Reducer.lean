import OmniMarket.Lib.OrderedDict
import OmniMarket.Lib.PyText
import OmniMarket.Lib.PyValue

/-!
# The routing feedback reducer

A terminal event of a delegation updates the statistics of its model and task type. The state is a
dictionary keyed by the model, a colon and the task type. `handle` takes what the dispatcher
delivers, finds the payload and its topic, and leaves the state as it is when they name no event.
Rates and latencies are exact rationals; `str` of a value and the clock are parameters.
-/

namespace OmniMarket.RoutingFeedback

/-! ## Events -/

inductive EnumDelegationFeedbackEventType where
  | completed
  | escalationTriggered
  | allTiersFailed
deriving DecidableEq

def EnumDelegationFeedbackEventType.value : EnumDelegationFeedbackEventType → String
  | .completed => "delegation-call-completed"
  | .escalationTriggered => "delegation-escalation-triggered"
  | .allTiersFailed => "delegation-all-tiers-failed"

structure ModelDelegationFeedbackEvent where
  eventType : EnumDelegationFeedbackEventType
  correlationId : String
  requestId : String
  taskType : String
  modelId : String
  success : Bool
  isEscalation : Bool
  latencyMs : ℤ := 0
  sourceTopic : String := ""

/-! ## State -/

structure ModelRoutingFeedback where
  modelId : String
  taskType : String
  successCount : ℕ := 0
  failureCount : ℕ := 0
  escalationCount : ℕ := 0
  totalCount : ℕ := 0
  successRate : ℚ := 0
  escalationRate : ℚ := 0
  avgLatencyMs : ℚ := 0
  windowStart : String := ""
  lastUpdated : String := ""

structure ModelRoutingFeedbackUpdatedEvent where
  correlationId : String
  feedback : ModelRoutingFeedback
  sourceTopic : String

abbrev FeedbackState := OrderedDict String ModelRoutingFeedback

def feedbackKey (modelId taskType : String) : String := modelId ++ ":" ++ taskType

def computeRates (successCount escalationCount totalCount : ℕ) : ℚ × ℚ :=
  if totalCount = 0 then (0, 0)
  else (successCount / totalCount, escalationCount / totalCount)

/-! ## Accumulation -/

section

variable (event : ModelDelegationFeedbackEvent)

def ModelDelegationFeedbackEvent.timed : Bool :=
  event.eventType = .completed && decide (0 < event.latencyMs)

/-- What an event makes of the entry under its key. -/
def updatedFeedback (now : String) (held : Option ModelRoutingFeedback) : ModelRoutingFeedback :=
  let existing := held.getD
    { modelId := event.modelId, taskType := event.taskType, windowStart := now }
  let newTotal := existing.totalCount + 1
  let newSuccess := existing.successCount + (if event.success then 1 else 0)
  let newFailure := existing.failureCount + (if event.success then 0 else 1)
  let newEscalation := existing.escalationCount + (if event.isEscalation then 1 else 0)
  let newAvgLatency :=
    if event.timed then
      (existing.avgLatencyMs * existing.totalCount + event.latencyMs) / newTotal
    else existing.avgLatencyMs
  let rates := computeRates newSuccess newEscalation newTotal
  { modelId := event.modelId
    taskType := event.taskType
    successCount := newSuccess
    failureCount := newFailure
    escalationCount := newEscalation
    totalCount := newTotal
    successRate := rates.1
    escalationRate := rates.2
    avgLatencyMs := newAvgLatency
    windowStart := existing.windowStart
    lastUpdated := now }

/-- `accumulate`: the entry of the event and the new state. -/
def accumulate (now : String) (state : FeedbackState) :
    ModelRoutingFeedback × FeedbackState :=
  let key := feedbackKey event.modelId event.taskType
  let updated := updatedFeedback event now (state.get? key)
  (updated, state.set key updated)

end

/-- An event and the time at which it is accumulated. -/
abbrev Terminal := ModelDelegationFeedbackEvent × String

/-- The state after the events, each call given the state of the one before. -/
def accumulateAll (terminals : List Terminal) : FeedbackState :=
  terminals.foldl (fun state terminal => (accumulate terminal.1 terminal.2 state).2)
    OrderedDict.empty

/-! ## Dispatch -/

/-- What the dispatcher delivers: its view as a mapping, or another value, and the attribute
`topic` of an object. -/
structure DispatchInput where
  view : PyValue
  topicAttribute : PyValue := .none

/-- An exception of `int(latency_ms)`. -/
inductive FeedbackRaise where
  | latency

structure HandleResult where
  feedback : Option ModelRoutingFeedback
  state : FeedbackState
  event : Option ModelRoutingFeedbackUpdatedEvent
  skipped : Bool

def dispatchMarkers : List String :=
  ["_db", "_event_type", "_topic", "_partition", "_offset", "_terminal_event_id", "_state",
    "envelope_id", "envelope_timestamp", "partition_key", "__debug_trace"]

def topicToEventType : List (String × EnumDelegationFeedbackEventType) :=
  [("onex.evt.omnimarket.delegation-call-completed.v1", .completed),
    ("onex.evt.omnimarket.delegation-escalation-triggered.v1", .escalationTriggered),
    ("onex.evt.omnimarket.delegation-all-tiers-failed.v1", .allTiersFailed)]

def eventTypeOfTopic (topic : String) : Option EnumDelegationFeedbackEventType :=
  (topicToEventType.find? fun entry => entry.1 = topic).map Prod.snd

def filledText (value : PyValue) : Option String :=
  value.asStr?.filter fun text => text ≠ ""

/-- `_unwrap_envelope`, for the wrappers that are left to look into. -/
def unwrapEnvelope : ℕ → PyValue → PyValue
  | 0, current => current
  | wrappers + 1, current =>
    match current.asDict? with
    | none => current
    | some mapping =>
      match PyDict.get? mapping "payload" with
      | none => current
      | some payload => unwrapEnvelope wrappers payload

def stripMarkers (payload : PyDict) : PyDict :=
  payload.filter fun entry => entry.1 ∉ dispatchMarkers

/-- The topic that the mapping view of a dispatch input names. -/
def topicOfMapping (mapping : PyDict) : Option String :=
  (filledText (PyDict.get mapping "_topic")).or <|
    (filledText (PyDict.get mapping "topic")).or <|
    ((PyDict.get mapping "__debug_trace").asDict?.bind fun trace =>
      filledText (PyDict.get trace "topic")).or <|
    (PyDict.get mapping "event_type").asStr?.filter fun topic => (eventTypeOfTopic topic).isSome

def resolveSourceTopic (input : DispatchInput) (payload : PyDict) : String :=
  ((input.view.asDict?.bind topicOfMapping).or <|
    (filledText input.topicAttribute).or <|
    filledText (PyDict.get payload "source_topic")).getD ""

def resolveModelId (payload : PyDict) (eventType : EnumDelegationFeedbackEventType) : String :=
  match filledText (PyDict.get payload "model_id") with
  | some modelId => modelId
  | none =>
    if eventType = .allTiersFailed then
      (((PyDict.get payload "attempted_models").asList?.bind List.getLast?).bind filledText).getD ""
    else ""

def resolveEventType (payload : PyDict) (sourceTopic : String) :
    Option EnumDelegationFeedbackEventType :=
  (eventTypeOfTopic sourceTopic).or <|
    (PyDict.get payload "event_type").asStr?.bind fun text =>
      [EnumDelegationFeedbackEventType.completed, .escalationTriggered, .allTiersFailed].find?
        fun eventType => eventType.value = text

/-- `int(latency_ms)` of a number, zero of anything else. -/
def latencyOf : PyValue → Except FeedbackRaise ℤ
  | .int value => .ok value
  | .bool value => .ok (if value then 1 else 0)
  | .float (.finite value) => .ok (if value < 0 then ⌈value⌉ else ⌊value⌋)
  | .float _ => .error .latency
  | _ => .ok 0

section

variable (str : PyValue → String)

/-- `str(value or "")`. -/
def identifierText (value : PyValue) : String := if value.truthy then str value else ""

def feedbackEvent (payload : PyDict) (sourceTopic taskType modelId : String)
    (eventType : EnumDelegationFeedbackEventType) :
    Except FeedbackRaise ModelDelegationFeedbackEvent := do
  let latencyMs ←
    if eventType = .completed then
      latencyOf ((PyDict.get? payload "latency_ms").getD (.int 0))
    else pure 0
  return {
    eventType := eventType
    correlationId := identifierText str (PyDict.get payload "correlation_id")
    requestId := identifierText str (PyDict.get payload "request_id")
    taskType := taskType
    modelId := modelId
    success := eventType = .completed && ((PyDict.get? payload "success").getD (.bool false)).truthy
    isEscalation := eventType = .escalationTriggered
    latencyMs := latencyMs
    sourceTopic := sourceTopic }

def buildFeedbackEvent (payload : PyDict) (sourceTopic : String) :
    Except FeedbackRaise (Option ModelDelegationFeedbackEvent) :=
  if payload.isEmpty then .ok none
  else
    match resolveEventType payload sourceTopic, filledText (PyDict.get payload "task_type") with
    | some eventType, some taskType =>
      let modelId := resolveModelId payload eventType
      if modelId = "" then .ok none
      else (feedbackEvent str payload sourceTopic taskType modelId eventType).map some
    | _, _ => .ok none

def eventOfInput (input : DispatchInput) :
    Except FeedbackRaise (Option ModelDelegationFeedbackEvent) :=
  match (unwrapEnvelope 8 input.view).asDict? with
  | none => .ok none
  | some domain =>
    let payload := stripMarkers domain
    buildFeedbackEvent str payload (resolveSourceTopic input payload)

/-- `handle`, with the state that the input carries. -/
def handle (input : DispatchInput) (now : String) (state : FeedbackState) :
    Except FeedbackRaise HandleResult := do
  match ← eventOfInput str input with
  | none => return ⟨none, state, none, true⟩
  | some event =>
    let (updated, newState) := accumulate event now state
    return ⟨some updated, newState, some ⟨event.correlationId, updated, event.sourceTopic⟩, false⟩

/-- The state that the caller keeps: a call that raises leaves it. -/
def keptState (state : FeedbackState) (delivery : DispatchInput × String) : FeedbackState :=
  match handle str delivery.1 delivery.2 state with
  | .ok result => result.state
  | .error _ => state

def terminalOf (delivery : DispatchInput × String) : Option Terminal :=
  (eventOfInput str delivery.1).toOption.join.map fun event => (event, delivery.2)

/-- One call of `handle` accumulates the event that it is given, or nothing. -/
theorem keptState_eq (state : FeedbackState) (delivery : DispatchInput × String) :
    keptState str state delivery =
      match terminalOf str delivery with
      | some terminal => (accumulate terminal.1 terminal.2 state).2
      | none => state := by
  unfold keptState terminalOf handle
  cases eventOfInput str delivery.1 with
  | error raised => rfl
  | ok event => cases event <;> rfl

/-- The calls of `handle` accumulate the events of their inputs. -/
theorem handle_accumulates (deliveries : List (DispatchInput × String)) :
    deliveries.foldl (keptState str) OrderedDict.empty =
      accumulateAll (deliveries.filterMap (terminalOf str)) := by
  induction deliveries using List.reverseRecOn with
  | nil => rfl
  | append_singleton deliveries delivery ih =>
    rw [List.foldl_append, ih, List.foldl_cons, List.foldl_nil, keptState_eq,
      List.filterMap_append, List.filterMap_cons]
    unfold accumulateAll
    cases terminalOf str delivery with
    | none => rw [List.filterMap_nil, List.append_nil]
    | some terminal => rw [List.filterMap_nil, List.foldl_append, List.foldl_cons, List.foldl_nil]

end

end OmniMarket.RoutingFeedback
