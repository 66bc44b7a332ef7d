import OmniMarket.SwarmDispatch.Handler

/-!
# The swarm aggregator

`HandlerSwarmAggregator`: dispatches are sorted by wave, place of the subtask and id, and the
texts of those that succeeded are concatenated. Requests carry the dispatches typed or as JSON;
`json.loads` and the validation of integers are parameters.
-/

namespace OmniMarket.SwarmAggregator

inductive EnumSubtaskStatus
  | succeeded | failed | timeout | skippedDependencyFailed | contextWindowExceeded
deriving DecidableEq

def EnumSubtaskStatus.value : EnumSubtaskStatus → String
  | .succeeded => "succeeded"
  | .failed => "failed"
  | .timeout => "timeout"
  | .skippedDependencyFailed => "skipped_dependency_failed"
  | .contextWindowExceeded => "context_window_exceeded"

def EnumSubtaskStatus.validate? (value : String) : Option EnumSubtaskStatus :=
  [EnumSubtaskStatus.succeeded, .failed, .timeout, .skippedDependencyFailed,
    .contextWindowExceeded].find? fun status => status.value == value

/-- The values of `EnumSubtaskCategory`. -/
def subtaskCategories : List String :=
  ["code", "reasoning", "synthesis", "analysis", "planning", "general"]

structure ModelSwarmDispatchResult where
  responseText : String := ""
  handlerSource : String := ""
  contractYaml : String := ""
  taskDescription : String := ""

structure ModelSwarmDispatch where
  subtaskId : String
  endpointId : String
  modelId : String
  baseUrl : String
  status : EnumSubtaskStatus
  result : Option ModelSwarmDispatchResult := none
  failureClass : String := ""
  failureReason : String := ""
  retryCount : ℤ := 0
  fallbackEndpointId : Option String := none
  latencyMs : ℤ := 0
  startedAt : String := ""
  completedAt : String := ""
  wave : ℤ := 0

/-- Of a subtask, the handler reads the id alone. -/
structure ModelSwarmAggregateRequest where
  /-- The ids of the subtasks of the decomposition, where one is given. -/
  decomposition : Option (List String) := none
  dispatches : List ModelSwarmDispatch := []
  /-- The ids of the subtasks. -/
  subtasks : List String := []
  dispatchesJson : String := ""
  mode : String := "concatenation"
  synthesisOutput : Option String := none
  synthesisModelId : Option String := none
  synthesisInputHash : Option String := none
  correlationId : String := ""
  runId : String := ""

structure ModelSwarmAggregateResult where
  aggregatedOutput : String
  aggregationMode : String
  failedSubtasks : List String := []
  skippedSubtasks : List String := []
  degradedReason : String := ""
  synthesisInputHash : String := ""
  synthesisModelId : String := ""
  runId : String := ""

/-- What the standard library and the field validation supply. -/
structure AggregatorText where
  /-- `json.loads(text)`; `none` where it raises. -/
  loads : String → Option PyValue
  /-- The validation of an `int` field. -/
  asInt : PyValue → Option ℤ

def failedStatuses : List EnumSubtaskStatus := [.failed, .timeout, .contextWindowExceeded]

def sectionSeparator : String := "\n\n---\n\n"

/-! ## Validation -/

/-- `extra="forbid"`. -/
def onlyFields (fields : List String) (entries : PyDict) : Option Unit :=
  if entries.all fun entry => fields.contains entry.1 then some () else none

def textField (entries : PyDict) (key : String) : Option String :=
  (SwarmDispatch.getOr entries key (.str "")).asStr?

def validateResult (value : PyValue) : Option ModelSwarmDispatchResult := do
  let r ← value.asDict?
  onlyFields ["response_text", "handler_source", "contract_yaml", "task_description"] r
  let responseText ← textField r "response_text"
  let handlerSource ← textField r "handler_source"
  let contractYaml ← textField r "contract_yaml"
  let taskDescription ← textField r "task_description"
  return { responseText, handlerSource, contractYaml, taskDescription }

/-- `ModelSwarmDispatch.model_validate`. -/
def validateDispatch (text : AggregatorText) (value : PyValue) : Option ModelSwarmDispatch := do
  let d ← value.asDict?
  onlyFields ["subtask_id", "endpoint_id", "model_id", "base_url", "status", "result",
    "failure_class", "failure_reason", "retry_count", "fallback_endpoint_id", "latency_ms",
    "started_at", "completed_at", "wave"] d
  let subtaskId ← (← d.get? "subtask_id").asStr?
  let endpointId ← (← d.get? "endpoint_id").asStr?
  let modelId ← (← d.get? "model_id").asStr?
  let baseUrl ← (← d.get? "base_url").asStr?
  let status ← EnumSubtaskStatus.validate? (← (← d.get? "status").asStr?)
  let result ← SwarmDispatch.optionalField validateResult (d.get "result")
  let failureClass ← textField d "failure_class"
  let failureReason ← textField d "failure_reason"
  let retryCount ← text.asInt (SwarmDispatch.getOr d "retry_count" (.int 0))
  let fallbackEndpointId ← SwarmDispatch.optionalField PyValue.asStr? (d.get "fallback_endpoint_id")
  let latencyMs ← text.asInt (SwarmDispatch.getOr d "latency_ms" (.int 0))
  let startedAt ← textField d "started_at"
  let completedAt ← textField d "completed_at"
  let wave ← text.asInt (SwarmDispatch.getOr d "wave" (.int 0))
  return { subtaskId, endpointId, modelId, baseUrl, status, result, failureClass, failureReason,
           retryCount, fallbackEndpointId, latencyMs, startedAt, completedAt, wave }

/-- `ModelSwarmAggregateRequest` from the payload of the orchestrator's command: its subtasks
must have a category that this node knows. -/
def validateRequest (command : SwarmDispatch.ModelSwarmAggregateCommand) :
    Option ModelSwarmAggregateRequest :=
  if command.subtasks.all fun subtask => subtaskCategories.contains subtask.category then
    some
      { subtasks := command.subtasks.map SwarmDispatch.ModelSubtask.subtaskId
        dispatchesJson := command.dispatchesJson
        mode := command.mode
        synthesisOutput := command.synthesisOutput
        correlationId := command.correlationId
        runId := command.runId }
  else none

/-! ## Aggregation -/

def resolveSubtasks (request : ModelSwarmAggregateRequest) : List String :=
  request.decomposition.getD request.subtasks

/-- The typed dispatches, or those of the JSON text; none where it cannot be read. -/
def resolveDispatches (text : AggregatorText) (request : ModelSwarmAggregateRequest) :
    List ModelSwarmDispatch :=
  if !request.dispatches.isEmpty then request.dispatches
  else if request.dispatchesJson ≠ "" then
    match text.loads request.dispatchesJson with
    | some (.list raw) => (raw.mapM (validateDispatch text)).getD []
    | _ => []
  else []

def extractText (dispatch : ModelSwarmDispatch) : String :=
  match dispatch.result with
  | none => ""
  | some r =>
    if r.responseText ≠ "" then r.responseText
    else if r.handlerSource ≠ "" then r.handlerSource
    else if r.contractYaml ≠ "" then r.contractYaml
    else r.taskDescription

def sectionOf (subtaskId text : String) : String := "## Subtask: " ++ subtaskId ++ "\n\n" ++ text

/-- `subtask_order`: the last place of each id. -/
def subtaskOrder (subtasks : List String) : OrderedDict String ℕ :=
  subtasks.zipIdx.foldl (fun order entry => order.set entry.1 entry.2) .empty

def sortKey (order : OrderedDict String ℕ) (dispatch : ModelSwarmDispatch) : ℤ ×ₗ (ℕ ×ₗ String) :=
  toLex (dispatch.wave, toLex ((order.get? dispatch.subtaskId).getD 999, dispatch.subtaskId))

def degradedReason (failed skipped : List String) : String :=
  if !failed.isEmpty then
    "Failed subtasks: " ++ ", ".intercalate failed ++
      if !skipped.isEmpty then "; Skipped subtasks: " ++ ", ".intercalate skipped else ""
  else if !skipped.isEmpty then "Skipped subtasks: " ++ ", ".intercalate skipped
  else ""

def failedOf (dispatches : List ModelSwarmDispatch) : List String :=
  (dispatches.filter fun d => failedStatuses.contains d.status).map ModelSwarmDispatch.subtaskId

def skippedOf (dispatches : List ModelSwarmDispatch) : List String :=
  (dispatches.filter fun d => d.status == .skippedDependencyFailed).map
    ModelSwarmDispatch.subtaskId

def concatenation (text : AggregatorText) (request : ModelSwarmAggregateRequest) :
    ModelSwarmAggregateResult :=
  let order := subtaskOrder (resolveSubtasks request)
  let sortedDispatches := (resolveDispatches text request).insertionSort fun a b =>
    sortKey order a ≤ sortKey order b
  let sections := (sortedDispatches.filter fun d => d.status == .succeeded).map fun d =>
    sectionOf d.subtaskId (extractText d)
  { aggregatedOutput := sectionSeparator.intercalate sections
    aggregationMode := "concatenation"
    failedSubtasks := failedOf sortedDispatches
    skippedSubtasks := skippedOf sortedDispatches
    degradedReason := degradedReason (failedOf sortedDispatches) (skippedOf sortedDispatches)
    runId := request.runId }

def synthesis (text : AggregatorText) (request : ModelSwarmAggregateRequest) (output : String) :
    ModelSwarmAggregateResult :=
  let dispatches := resolveDispatches text request
  { aggregatedOutput := output
    aggregationMode := "synthesis"
    failedSubtasks := failedOf dispatches
    skippedSubtasks := skippedOf dispatches
    synthesisInputHash := request.synthesisInputHash.getD ""
    synthesisModelId := request.synthesisModelId.getD ""
    runId := request.runId }

def handle (text : AggregatorText) (request : ModelSwarmAggregateRequest) :
    ModelSwarmAggregateResult :=
  match request.synthesisOutput with
  | some output =>
    if request.mode = "synthesis" then synthesis text request output
    else concatenation text request
  | none => concatenation text request

/-!
# Swarm results across three nodes

The result of the fan-out is dumped as JSON and read by the dispatch orchestrator, which sends
its own dispatches to the aggregator as a text in a field. The orchestrator reads `status` and
`result_text`, which the fan-out does not write, and the text is a Python `repr`, which the
aggregator's `json.loads` rejects.

1. `survives_iff`: a result survives the hops iff it has no dispatches and counts none completed
   (and the aggregator knows the categories of the run's subtasks).
2. `succeeded_lost`: the result of a single successful subtask.
-/

section

open SwarmDispatch (SwarmText ModelOrchestratorState CompletedPayload)

/-! ## The result of the fan-out -/

inductive EnumExecutionStatus
  | succeeded | failed | timeout | skippedDependencyFailed
deriving DecidableEq

def EnumExecutionStatus.value : EnumExecutionStatus → String
  | .succeeded => "succeeded"
  | .failed => "failed"
  | .timeout => "timeout"
  | .skippedDependencyFailed => "skipped_dependency_failed"

/-- The fan-out's own `ModelSwarmDispatch`. -/
structure ModelFanoutDispatch where
  subtaskId : String
  endpointId : String
  modelId : String
  baseUrl : String
  endpointStatus : String := ""
  executionStatus : EnumExecutionStatus
  responseText : String := ""
  failureClass : String := ""
  failureReason : String := ""
  retryCount : ℤ := 0
  fallbackEndpointId : String := ""
  startedAt : String := ""
  completedAt : String := ""
  latencyMs : ℤ := 0
  wave : ℤ := 0

structure ModelSwarmFanoutResult where
  dispatches : List ModelFanoutDispatch
  wallLatencyMs : ℤ
  sumSubtaskLatencyMs : ℤ
  runId : String := ""
  completedCount : ℤ := 0
  failedCount : ℤ := 0
  degraded : Bool := false
  aggregationMode : String := "collect_all"
  endpointRegistryHash : String := ""
  routingPolicyHash : String := ""
  projectionRef : String := ""

/-- `d.model_dump(mode="json")`. -/
def dumpDispatch (d : ModelFanoutDispatch) : PyValue := .dict
  [("subtask_id", .str d.subtaskId), ("endpoint_id", .str d.endpointId),
   ("model_id", .str d.modelId), ("base_url", .str d.baseUrl),
   ("endpoint_status", .str d.endpointStatus),
   ("execution_status", .str d.executionStatus.value), ("response_text", .str d.responseText),
   ("failure_class", .str d.failureClass), ("failure_reason", .str d.failureReason),
   ("retry_count", .int d.retryCount), ("fallback_endpoint_id", .str d.fallbackEndpointId),
   ("started_at", .str d.startedAt), ("completed_at", .str d.completedAt),
   ("latency_ms", .int d.latencyMs), ("wave", .int d.wave)]

/-- `r.model_dump(mode="json")`. -/
def dumpResult (r : ModelSwarmFanoutResult) : PyDict :=
  [("dispatches", .list (r.dispatches.map dumpDispatch)), ("wall_latency_ms", .int r.wallLatencyMs),
   ("sum_subtask_latency_ms", .int r.sumSubtaskLatencyMs), ("run_id", .str r.runId),
   ("completed_count", .int r.completedCount), ("failed_count", .int r.failedCount),
   ("degraded", .bool r.degraded), ("aggregation_mode", .str r.aggregationMode),
   ("endpoint_registry_hash", .str r.endpointRegistryHash),
   ("routing_policy_hash", .str r.routingPolicyHash), ("projection_ref", .str r.projectionRef)]

/-! ## The hops -/

/-- The payload of the aggregator's completion event. -/
def dumpAggregate (result : ModelSwarmAggregateResult) : PyDict :=
  [("aggregated_output", .str result.aggregatedOutput),
   ("aggregation_mode", .str result.aggregationMode),
   ("failed_subtasks", .list (result.failedSubtasks.map .str)),
   ("skipped_subtasks", .list (result.skippedSubtasks.map .str)),
   ("degraded_reason", .str result.degradedReason),
   ("synthesis_input_hash", .str result.synthesisInputHash),
   ("synthesis_model_id", .str result.synthesisModelId), ("run_id", .str result.runId)]

/-- The fan-out event taken by the orchestrator, its command by the aggregator, and the
aggregator's result by the orchestrator; `none` where one of them raises. -/
def hops (text : SwarmText) (aggregator : AggregatorText) (run : ModelOrchestratorState)
    (r : ModelSwarmFanoutResult) : Option (ModelSwarmAggregateResult × CompletedPayload) :=
  match SwarmDispatch.transitionDispatching text run (dumpResult r) with
  | .ok (dispatching, [.aggregate command]) => do
      let request ← validateRequest command
      let result := handle aggregator request
      match SwarmDispatch.transitionAggregating dispatching (dumpAggregate result) with
      | .ok (aggregating, _) =>
        match SwarmDispatch.transitionCompleted aggregating with
        | .ok (_, [.dispatchCompleted payload]) => some (result, payload)
        | _ => none
      | .error _ => none
  | _ => none

/-- What the parameters do on the values that the hops pass on. -/
structure StandardText (text : SwarmText) (aggregator : AggregatorText) : Prop where
  asInt_int : ∀ n, text.asInt (.int n) = some n
  intOf_int : ∀ n, text.intOf (.int n) = some n
  /-- `str([])`. -/
  str_nil : text.strValue (.list []) = "[]"
  /-- The `repr` of a list of dictionaries quotes the first key with an apostrophe. -/
  str_dicts : ∀ value entries rest, ∃ tail,
    text.strValue (.list (.dict (("subtask_id", value) :: entries) :: rest)) = "[\x7b'" ++ tail
  loads_nil : aggregator.loads "[]" = some (.list [])
  /-- JSON names its members in double quotes. -/
  loads_apostrophe : ∀ tail, aggregator.loads ("[\x7b'" ++ tail) = none

/-! ## What has to survive -/

def withStatus (dispatches : List ModelFanoutDispatch) (statuses : List EnumExecutionStatus) :
    List ModelFanoutDispatch :=
  dispatches.filter fun d => statuses.contains d.executionStatus

structure Aggregated (dispatches : List ModelFanoutDispatch) (result : ModelSwarmAggregateResult) :
    Prop where
  sections : ∃ ordered : List ModelFanoutDispatch, ordered.Perm (withStatus dispatches [.succeeded]) ∧
    result.aggregatedOutput = sectionSeparator.intercalate
      (ordered.map fun d => sectionOf d.subtaskId d.responseText)
  failed : result.failedSubtasks.Perm
    ((withStatus dispatches [.failed, .timeout]).map ModelFanoutDispatch.subtaskId)
  skipped : result.skippedSubtasks.Perm
    ((withStatus dispatches [.skippedDependencyFailed]).map ModelFanoutDispatch.subtaskId)

structure Counted (r : ModelSwarmFanoutResult) (payload : CompletedPayload) : Prop where
  succeeded : (payload.succeededCount : ℤ) = r.completedCount
  total : payload.succeededCount + payload.failedCount + payload.skippedCount = r.dispatches.length
  status : payload.status = .succeeded → ∀ d ∈ r.dispatches, d.executionStatus = .succeeded

def Survives (text : SwarmText) (aggregator : AggregatorText) (run : ModelOrchestratorState)
    (r : ModelSwarmFanoutResult) : Prop :=
  ∃ result payload, hops text aggregator run r = some (result, payload) ∧
    Aggregated r.dispatches result ∧ Counted r payload ∧
    ∀ dispatches : List ModelFanoutDispatch, dispatches.Perm r.dispatches →
      (hops text aggregator run { r with dispatches := dispatches }).map Prod.fst = some result

/-! ## What is read -/

section Hops

variable {text : SwarmText} {aggregator : AggregatorText}

/-- A dispatch as the orchestrator reads it: failed and without a text, whatever it was. -/
def readDispatch (d : ModelFanoutDispatch) : SwarmDispatch.ModelSubtaskDispatch where
  subtaskId := d.subtaskId
  endpointId := d.endpointId
  status := "failed"
  latencyMs := d.latencyMs
  resultText := ""
  failureReason := d.failureReason
  wave := d.wave
  modelId := d.modelId
  baseUrl := d.baseUrl

section

variable (standard : StandardText text aggregator)

include standard

theorem parseDispatch_dump (d : ModelFanoutDispatch) :
    SwarmDispatch.parseDispatch text (dumpDispatch d) = some (readDispatch d) := by
  simp [SwarmDispatch.parseDispatch, dumpDispatch, PyValue.asDict?, PyValue.asStr?,
    SwarmDispatch.getOr, PyDict.get?, List.lookup, standard.asInt_int, readDispatch]

theorem parseFanoutEvent_dump (r : ModelSwarmFanoutResult) :
    SwarmDispatch.parseFanoutEvent text (dumpResult r) = some (r.dispatches.map readDispatch) := by
  show (r.dispatches.map dumpDispatch).mapM (SwarmDispatch.parseDispatch text) = _
  induction r.dispatches with
  | nil => rfl
  | cons d rest ih =>
    rw [List.map_cons, List.mapM_cons, parseDispatch_dump standard, ih]
    rfl

theorem loads_dispatchesText (dispatches : List SwarmDispatch.ModelSubtaskDispatch) :
    aggregator.loads (SwarmDispatch.dispatchesText text dispatches) = some (.list []) ∨
      aggregator.loads (SwarmDispatch.dispatchesText text dispatches) = none := by
  cases dispatches with
  | nil =>
    left
    rw [SwarmDispatch.dispatchesText, List.map_nil, standard.str_nil, standard.loads_nil]
  | cons d rest =>
    right
    obtain ⟨tail, repr⟩ := standard.str_dicts (.str d.subtaskId)
      [("endpoint_id", .str d.endpointId), ("status", .str d.status),
       ("latency_ms", .int d.latencyMs), ("result_text", .str d.resultText),
       ("failure_reason", .str d.failureReason), ("wave", .int d.wave),
       ("model_id", .str d.modelId), ("base_url", .str d.baseUrl)]
      (rest.map fun d => .dict
        [("subtask_id", .str d.subtaskId), ("endpoint_id", .str d.endpointId),
         ("status", .str d.status), ("latency_ms", .int d.latencyMs),
         ("result_text", .str d.resultText), ("failure_reason", .str d.failureReason),
         ("wave", .int d.wave), ("model_id", .str d.modelId), ("base_url", .str d.baseUrl)])
    rw [SwarmDispatch.dispatchesText, List.map_cons, repr, standard.loads_apostrophe]

theorem resolveDispatches_eq_nil
    {dispatches : List SwarmDispatch.ModelSubtaskDispatch} {request : ModelSwarmAggregateRequest}
    (untyped : request.dispatches = [])
    (sent : request.dispatchesJson = SwarmDispatch.dispatchesText text dispatches) :
    resolveDispatches aggregator request = [] := by
  rw [resolveDispatches, untyped, sent, if_neg (by decide)]
  rcases loads_dispatchesText standard dispatches with empty | unreadable
  · rw [empty]
    exact ite_self _
  · rw [unreadable]
    exact ite_self _

end

def emptyAggregate (run : ModelOrchestratorState) : ModelSwarmAggregateResult where
  aggregatedOutput := ""
  aggregationMode := "concatenation"
  runId := run.runId

theorem handle_unread (standard : StandardText text aggregator) (run : ModelOrchestratorState)
    (dispatches : List SwarmDispatch.ModelSubtaskDispatch) :
    handle aggregator
      { subtasks := run.subtasks.map SwarmDispatch.ModelSubtask.subtaskId
        dispatchesJson := SwarmDispatch.dispatchesText text dispatches
        mode := "concatenation"
        synthesisOutput := none
        correlationId := run.correlationId
        runId := run.runId } = emptyAggregate run := by
  show concatenation aggregator _ = _
  rw [concatenation, resolveDispatches_eq_nil standard rfl rfl]
  rfl

/-- The terminal payload counts every dispatch as failed. -/
def completedOf (run : ModelOrchestratorState) (r : ModelSwarmFanoutResult) : CompletedPayload :=
  SwarmDispatch.buildCompletedPayload
    (((run.withDispatches (r.dispatches.map readDispatch) r.wallLatencyMs).withAggregated
      (.str "") 0).withState .completed)

variable {run : ModelOrchestratorState}

theorem hops_eq (standard : StandardText text aggregator)
    (selected : run.fsmState = .endpointsSelected) (r : ModelSwarmFanoutResult) :
    hops text aggregator run r =
      if run.subtasks.all fun subtask => subtaskCategories.contains subtask.category then
        some (emptyAggregate run, completedOf run r)
      else none := by
  have wall : text.intOf (SwarmDispatch.getOr (dumpResult r) "wall_latency_ms" (.int 0)) =
      some r.wallLatencyMs := standard.intOf_int _
  have sent : SwarmDispatch.transitionDispatching text run (dumpResult r) = .ok
      (run.withDispatches (r.dispatches.map readDispatch) r.wallLatencyMs,
        [.aggregate
          { subtasks := run.subtasks
            dispatchesJson := SwarmDispatch.dispatchesText text (r.dispatches.map readDispatch)
            mode := "concatenation"
            synthesisOutput := none
            correlationId := run.correlationId
            runId := run.runId }]) := by
    rw [SwarmDispatch.transitionDispatching, SwarmDispatch.assertState, selected,
      parseFanoutEvent_dump standard, wall]
    rfl
  rw [hops, sent]
  simp only [validateRequest]
  by_cases known : run.subtasks.all fun subtask => subtaskCategories.contains subtask.category
  · rw [if_pos known, if_pos known]
    simp only [Option.bind_eq_bind, Option.bind_some]
    rw [handle_unread standard run (r.dispatches.map readDispatch)]
    rfl
  · rw [if_neg known, if_neg known]
    rfl

/-! ## What survives -/

theorem intercalate_cons (separator first : String) (rest : List String) :
    ∃ tail, separator.intercalate (first :: rest) = first ++ tail := by
  cases rest with
  | nil => exact ⟨"", by rw [String.intercalate_singleton, String.append_empty]⟩
  | cons second rest =>
    exact ⟨_, by rw [String.intercalate_cons_cons, String.append_assoc]⟩

theorem section_ne_empty (subtaskId text : String) (rest : List String) :
    sectionSeparator.intercalate (sectionOf subtaskId text :: rest) ≠ "" := by
  obtain ⟨tail, joined⟩ := intercalate_cons sectionSeparator (sectionOf subtaskId text) rest
  rw [joined, sectionOf]
  intro blank
  have lead := (String.append_eq_empty_iff.1 (String.append_eq_empty_iff.1
    (String.append_eq_empty_iff.1 (String.append_eq_empty_iff.1 blank).1).1).1).1
  revert lead
  decide

theorem dispatches_eq_nil {dispatches : List ModelFanoutDispatch}
    (aggregated : Aggregated dispatches (emptyAggregate run)) : dispatches = [] := by
  have none_with {statuses : List EnumExecutionStatus}
      (empty : withStatus dispatches statuses = []) :
      ∀ d ∈ dispatches, d.executionStatus ∉ statuses := by
    intro d listed among
    have kept : d ∈ withStatus dispatches statuses :=
      List.mem_filter.2 ⟨listed, List.contains_iff_mem.2 among⟩
    rw [empty] at kept
    cases kept
  have unsuccessful : withStatus dispatches [.succeeded] = [] := by
    obtain ⟨ordered, reordered, output⟩ := aggregated.sections
    cases ordered with
    | nil => exact reordered.symm.eq_nil
    | cons d rest =>
      exact absurd output.symm (section_ne_empty _ _ _)
  have unfailed : withStatus dispatches [.failed, .timeout] = [] :=
    List.map_eq_nil_iff.1 aggregated.failed.symm.eq_nil
  have unskipped : withStatus dispatches [.skippedDependencyFailed] = [] :=
    List.map_eq_nil_iff.1 aggregated.skipped.symm.eq_nil
  refine List.eq_nil_iff_forall_not_mem.2 fun d listed => ?_
  cases status : d.executionStatus with
  | succeeded => exact none_with unsuccessful d listed (by simp [status])
  | failed => exact none_with unfailed d listed (by simp [status])
  | timeout => exact none_with unfailed d listed (by simp [status])
  | skippedDependencyFailed => exact none_with unskipped d listed (by simp [status])

theorem succeededCount_completedOf (run : ModelOrchestratorState) (r : ModelSwarmFanoutResult) :
    (completedOf run r).succeededCount = 0 := by
  show (r.dispatches.map readDispatch).countP (fun d => d.status == "succeeded") = 0
  rw [List.countP_map, List.countP_eq_zero]
  intro d _ read
  cases read

/-- A result survives the hops iff there is nothing in it to lose. -/
theorem survives_iff (standard : StandardText text aggregator) {run : ModelOrchestratorState}
    (selected : run.fsmState = .endpointsSelected) (r : ModelSwarmFanoutResult) :
    Survives text aggregator run r ↔
      r.dispatches = [] ∧ r.completedCount = 0 ∧
        ∀ subtask ∈ run.subtasks, subtask.category ∈ subtaskCategories := by
  have categories : (run.subtasks.all fun subtask => subtaskCategories.contains subtask.category) =
      true ↔ ∀ subtask ∈ run.subtasks, subtask.category ∈ subtaskCategories := by
    simp only [List.all_eq_true, List.contains_iff_mem]
  rw [← categories]
  constructor
  · rintro ⟨result, payload, arrived, aggregated, counted, -⟩
    rw [hops_eq standard selected] at arrived
    split at arrived
    · next known =>
      obtain ⟨rfl, rfl⟩ := Prod.mk.inj (Option.some.inj arrived)
      refine ⟨dispatches_eq_nil aggregated, ?_, known⟩
      rw [← counted.succeeded, succeededCount_completedOf]
      rfl
    · cases arrived
  · rintro ⟨none_dispatched, none_completed, known⟩
    refine ⟨emptyAggregate run, completedOf run r, ?_, ?_, ?_, ?_⟩
    · rw [hops_eq standard selected, if_pos known]
    · rw [none_dispatched]
      exact ⟨⟨[], .refl _, rfl⟩, .refl _, .refl _⟩
    · refine ⟨?_, ?_, ?_⟩
      · rw [succeededCount_completedOf, none_completed]
        rfl
      · simp [completedOf, SwarmDispatch.buildCompletedPayload, ModelOrchestratorState.withState,
          ModelOrchestratorState.withAggregated, ModelOrchestratorState.withDispatches,
          none_dispatched]
      · rw [none_dispatched]
        exact fun _ d listed => nomatch listed
    · intro dispatches _
      rw [hops_eq standard selected, if_pos known]
      rfl

end Hops

/-! ## A run of one subtask -/

mutual

/-- `repr` of the values that are dumped, for texts without quotes. -/
def sampleRepr : PyValue → String
  | .none => "None"
  | .bool value => if value then "True" else "False"
  | .int value => toString value
  | .float _ => "nan"
  | .str value => "'" ++ value ++ "'"
  | .list items => "[" ++ ", ".intercalate (sampleReprItems items) ++ "]"
  | .dict entries => "\x7b" ++ ", ".intercalate (sampleReprEntries entries) ++ "\x7d"

def sampleReprItems : List PyValue → List String
  | [] => []
  | item :: rest => sampleRepr item :: sampleReprItems rest

def sampleReprEntries : List (String × PyValue) → List String
  | [] => []
  | (key, value) :: rest =>
    ("'" ++ (key ++ ("': " ++ sampleRepr value))) :: sampleReprEntries rest

end

def sampleInt : PyValue → Option ℤ
  | .int value => some value
  | _ => none

def sampleText : SwarmText where
  unicode := PyText.asciiTable
  hashText := id
  strValue := sampleRepr
  asInt := sampleInt
  intOf := sampleInt
  payloadError _ := "bad payload"

/-- JSON reads the empty list; the other texts of the run are no JSON. -/
def sampleAggregator : AggregatorText where
  loads text := if text = "[]" then some (.list []) else none
  asInt := sampleInt

theorem sample_standard : StandardText sampleText sampleAggregator where
  asInt_int _ := rfl
  intOf_int _ := rfl
  str_nil := by decide
  str_dicts := by
    intro value entries rest
    show ∃ tail, sampleRepr _ = _
    obtain ⟨others, items⟩ := intercalate_cons ", "
      (sampleRepr (.dict (("subtask_id", value) :: entries))) (sampleReprItems rest)
    obtain ⟨more, members⟩ := intercalate_cons ", "
      ("'" ++ ("subtask_id" ++ ("': " ++ sampleRepr value))) (sampleReprEntries entries)
    rw [sampleRepr, sampleReprItems, items, sampleRepr, sampleReprEntries, members]
    refine ⟨"subtask_id" ++ ("': " ++ (sampleRepr value ++ (more ++ ("\x7d" ++ (others ++ "]"))))), ?_⟩
    simp only [String.append_assoc]
    rfl
  loads_nil := by decide
  loads_apostrophe := by
    intro tail
    show (if "[\x7b'" ++ tail = "[]" then some (PyValue.list []) else none) = none
    refine if_neg fun same => ?_
    have texts := congrArg String.toList same
    rw [String.toList_append] at texts
    cases texts

def sampleRun : ModelOrchestratorState where
  fsmState := .endpointsSelected
  runId := "run-1"
  correlationId := "c-1"
  subtasks := [{ subtaskId := "a", description := "say done" }]

/-- Where nothing was dispatched, nothing is lost. -/
theorem survives_nothing : Survives sampleText sampleAggregator sampleRun
    { dispatches := [], wallLatencyMs := 0, sumSubtaskLatencyMs := 0 } :=
  (survives_iff sample_standard rfl _).2 ⟨rfl, rfl, by decide⟩

def sampleResult : ModelSwarmFanoutResult where
  dispatches :=
    [{ subtaskId := "a", endpointId := "e", modelId := "m", baseUrl := "http://e"
       executionStatus := .succeeded, responseText := "done", latencyMs := 10 }]
  wallLatencyMs := 10
  sumSubtaskLatencyMs := 10
  runId := "run-1"
  completedCount := 1

/-- Its answer is dropped, and the terminal event counts it as failed. -/
theorem succeeded_lost : (∃ result payload,
      hops sampleText sampleAggregator sampleRun sampleResult = some (result, payload) ∧
        result.aggregatedOutput = "" ∧ payload.succeededCount = 0 ∧ payload.failedCount = 1) ∧
      ¬ Survives sampleText sampleAggregator sampleRun sampleResult := by
  have known : (sampleRun.subtasks.all fun subtask =>
      subtaskCategories.contains subtask.category) = true := by decide
  have selected : sampleRun.fsmState = .endpointsSelected := rfl
  have arrived := hops_eq sample_standard selected sampleResult
  rw [if_pos known] at arrived
  refine ⟨⟨_, _, arrived, rfl, rfl, rfl⟩, ?_⟩
  rintro ⟨result, payload, found, aggregated, -⟩
  rw [arrived] at found
  obtain ⟨rfl, -⟩ := Prod.mk.inj (Option.some.inj found)
  cases dispatches_eq_nil aggregated

end

end OmniMarket.SwarmAggregator
