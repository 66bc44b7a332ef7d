import OmniMarket.Delegation.State
import OmniMarket.Lib.Trace
import OmniMarket.Routing.Escalation

/-!
# The delegation workflow

One function for each inbound event of a workflow that exists. Each returns the
workflow the call leaves behind and the messages it emits, or the error it raises.
-/

namespace OmniMarket.Delegation

section

open PyNumber

variable (env : WorkflowEnv) (nowNs : ℤ) (w : DelegationWorkflowState)

/-- Milliseconds since the workflow started. -/
def elapsedMs : ℤ := (nowNs - w.startedAtNs) / 1000000

/-! ## Requests and commands -/

def newWorkflow (request : ModelDelegationRequest) : DelegationWorkflowState where
  correlationId := request.correlationId
  request := some request
  contextPackHash := contextPackHashForEvent request
  startedAtNs := nowNs
  tenantId := nonEmpty request.tenantId <|> nonEmpty env.onexTenantId

/-- A request whose workflow exists already: the routing intent is re-issued once. -/
def handleDuplicateRequest (request : ModelDelegationRequest) : StepResult :=
  if w.state = .received ∧ w.routingDecision = none ∧ w.routingIntentReplayed = false then
    emitting { w with routingIntentReplayed := true }
      [.routingIntent { payload := w.request.getD request }]
  else ignored w

def handleInvocationCommand (command : ModelInvocationCommand) : StepResult :=
  if w.state ≠ .received then ignored w
  else
    advance w .routed fun w =>
      emitting { w with invocationCommand := some command } [.invocationCommand command]

/-! ## Routing decisions -/

/-- The dispatch at the end of `handle_routing_decision`. -/
def dispatchInference (decision : ModelRoutingDecision) : StepResult :=
  if w.inferenceIntentInFlight then ignored w
  else
    let w := { w with inferenceIntentInFlight := true }
    match w.request with
    | none => raising w .assertion
    | some request => issueInference env w request decision request.prompt

def adoptDecision (decision : ModelRoutingDecision) (attempts : ℕ) : DelegationWorkflowState :=
  { w with
    routingDecision := some decision
    currentTierName := nonEmpty (some decision.tierName)
    complianceAttempts := attempts }

def handleRoutingDecision (decision : ModelRoutingDecision) : StepResult :=
  if w.state = .received then
    advance w .routed fun w => dispatchInference env (adoptDecision w decision 1) decision
  else if w.state = .routed ∧ w.routingDecision = none then
    dispatchInference env (adoptDecision w decision (w.complianceAttempts + 1)) decision
  else if w.state = .routed ∧ w.routingDecision ≠ none ∧ w.inferenceContent = none then
    dispatchInference env w decision
  else ignored w

/-! ## Retries and escalation -/

/-- The failed backends of `tier`, with one more; those of another tier do not count. -/
def failedBackendsOf (tier failedBackendRef : String) : List String :=
  let refs := if w.sameTierFailedBackendTier = some tier then w.sameTierFailedBackendRefs else []
  if failedBackendRef ∈ refs then refs else refs ++ [failedBackendRef]

def noteFailedBackend (tier failedBackendRef : String) : DelegationWorkflowState :=
  { w with
    sameTierFailedBackendTier := some tier
    sameTierFailedBackendRefs := failedBackendsOf w tier failedBackendRef }

section

variable (request : ModelDelegationRequest)

/-- Try a sibling backend of the same tier; `otherwise` runs when there is none. -/
def maybeRetrySiblingBackend (failedBackendRef : String) (costUsd : ℚ)
    (promptTokens completionTokens : ℕ) (otherwise : DelegationWorkflowState → StepResult) :
    StepResult :=
  match w.currentTierName with
  | none => otherwise w
  | some tier =>
    -- Without a concrete ref the selection would resolve the same backend again.
    if failedBackendRef.isEmpty then otherwise w
    else
      let w := noteFailedBackend w tier failedBackendRef
      let excluded := w.sameTierFailedBackendRefs
      match siblingBackendAvailableInTier env.routing tier request.taskType excluded with
      | .error raised => raising w (.routing raised)
      | .ok none => otherwise w
      | .ok (some _) =>
        let w := bankAttemptSpend w costUsd promptTokens completionTokens
        advance (resetInference w) .routed fun w =>
          emitting w [.routingIntent
            { payload := request, minTierName := some tier
              excludedBackendRefs := sortedSet excluded }]

def openLocalRetryBudget (tier : String) : DelegationWorkflowState :=
  { w with
    localRetryTier := some tier
    localRetryCount := if w.localRetryTier = some tier then w.localRetryCount else 0 }

/-- Retry the same free tier within its budget; `otherwise` runs when that is over. -/
def maybeRetryLocal (costUsd : ℚ) (otherwise : DelegationWorkflowState → StepResult) : StepResult :=
  match w.currentTierName with
  | none => otherwise w
  | some tier =>
    if !isFreeTier env.routing tier then otherwise w
    else
      let w := openLocalRetryBudget w tier
      match tierMaxRetries env.routing tier with
      | .error raised => raising w (.routing raised)
      | .ok maxRetries =>
        if maxRetries ≤ w.localRetryCount then otherwise w
        else
          let w := { w with localRetryCount := w.localRetryCount + 1 }
          let w := bankAttemptSpend w costUsd w.inferencePromptTokens
            w.inferenceCompletionTokens
          advance (resetInference w) .routed fun w =>
            emitting w [.routingIntent { payload := request, minTierName := some tier }]

def escalationEvent (failureClass : DelegationFailureClass) (escalationReason modelId : String) :
    ModelLlmDelegationEscalationTriggeredEvent where
  correlationId := w.correlationId
  taskType := request.taskType
  modelId := modelId
  attemptNumber := w.escalationCount + 1
  failureClass := failureClass
  escalationReason := escalationReason
  createdAtNs := nowNs

def escalateTo (nextTier : String) (event : ModelLlmDelegationEscalationTriggeredEvent)
    (costUsd : ℚ) (promptTokens completionTokens : ℕ) : StepResult :=
  advance (bankAttemptSpend w costUsd promptTokens completionTokens) .escalating fun w =>
    let w := { w with escalationCount := w.escalationCount + 1 }
    advance (resetInference w) .routed fun w =>
      emitting w [.routingIntent { payload := request, minTierName := some nextTier },
        .escalationTriggered event]

/-! ## Inference responses -/

def NON_RETRYABLE_INFERENCE_ERROR_MARKERS : List String :=
  ["empty message content", "empty choices array"]

/-- Whether one of the markers occurs in the lower-cased text. -/
def mentions (normalized : List Char) (markers : List String) : Bool :=
  markers.any fun marker => PyText.containsText marker.toList normalized

def shouldEscalateInferenceError (errorMessage : String) : Bool :=
  !mentions (PyText.lowerString env.routing.unicode errorMessage)
    NON_RETRYABLE_INFERENCE_ERROR_MARKERS

def inferenceErrorFailureClass (errorMessage : String) : DelegationFailureClass :=
  let normalized := PyText.lowerString env.routing.unicode errorMessage
  if mentions normalized ["finish_reason=length", "truncat"] then .contextTooLarge
  else if mentions normalized ["timed out", "timeout"] then .timeout
  else if mentions normalized ["rate limit", "429"] then .rateLimited
  else if mentions normalized ["401", "unauthorized", "auth"] then .providerAuthFailed
  else if mentions normalized ["unavailable", "connection", "503"] then .modelUnavailable
  else .unknown

section

variable (decision : ModelRoutingDecision)

section

variable (response : ModelInferenceResponseData)

/-- `response.model_used or decision.selected_model`. -/
def responseModel :
    String :=
  if response.modelUsed.isEmpty then decision.selectedModel else response.modelUsed

/-- `workflow.current_tier_name or fallback`. -/
def currentTierOr (fallback : String) : String :=
  (nonEmpty w.currentTierName).getD fallback

def failedInferenceAttempt :
    ModelDelegationEscalationAttempt where
  tierName := currentTierOr w "unknown"
  modelUsed := responseModel decision response
  qualityScore := .finite 0
  failureReasons := [response.errorMessage]
  latencyMs := elapsedMs nowNs w
  fallbackRecommended := true
  attemptedAtNs := nowNs
  routingDecisionId := some decision.selectedBackendId
  cost_nonneg := noCost_nonneg

def inferenceTerminalInputs (terminalFailureReason : String) :
    TerminalEmissionInputs where
  completed := false
  correlationId := response.correlationId
  taskType := request.taskType
  modelUsed := responseModel decision response
  endpointUrl := decision.endpointUrl
  content := response.content
  qualityPassed := false
  qualityScore := .finite 0
  latencyMs := elapsedMs nowNs w
  promptTokens := w.inferencePromptTokens
  completionTokens := w.inferenceCompletionTokens
  totalTokens := w.inferenceTotalTokens
  fallbackToClaude := false
  failureReason := response.errorMessage
  tokensToCompliance := w.accumulatedTokens
  complianceAttempts := complianceAttemptsOrOne w
  costTierName := currentTierOr w ""
  escalationCount := w.escalationCount
  escalationHistory := w.escalationHistory
  terminalFailureReason := some terminalFailureReason
  routingTiersHash := env.routingTiersHash
  attemptsCount := w.escalationCount + 1
  contextPackHash := w.contextPackHash
  priorAttemptCostUsd := w.cumulativeAttemptCostUsd
  priorAttemptPromptTokens := w.cumulativeAttemptPromptTokens
  priorAttemptCompletionTokens := w.cumulativeAttemptCompletionTokens
  tenantId := resolveTenantId env w
  attempts_pos := complianceAttemptsOrOne_pos w

def escalateOrFailInference (retryable : Bool) (costUsd : ℚ) : StepResult :=
  match decideEscalation env w request.taskType retryable "non_retryable_inference_response" with
  | .error raised => raising w raised
  | .ok (.escalate nextTier) =>
    escalateTo w request nextTier
      (escalationEvent nowNs w request
        (inferenceErrorFailureClass env response.errorMessage) response.errorMessage
        (responseModel decision response))
      costUsd response.promptTokens response.completionTokens
  | .ok (.terminate reason) =>
    let w := recordInferenceResponse w response
    let inputs := inferenceTerminalInputs env nowNs w request decision response reason
    advance w .failed fun w => emitting w [emitTerminal env inputs]

/-- The `error_message` branch of `handle_inference_response`. -/
def handleInferenceError : StepResult :=
  let attempt := failedInferenceAttempt nowNs w decision response
  let costUsd :=
    (attemptCost env attempt response.promptTokens response.completionTokens).cashCostUsd
  let w := recordEscalationAttempt env w attempt response.promptTokens response.completionTokens
  let retryable := shouldEscalateInferenceError env response.errorMessage
  let escalateOrFail (w : DelegationWorkflowState) : StepResult :=
    escalateOrFailInference env nowNs w request decision response retryable costUsd
  if retryable then
    maybeRetrySiblingBackend env w request decision.selectedBackendRef costUsd
      response.promptTokens response.completionTokens escalateOrFail
  else escalateOrFail w

def forwardToGate (accumulatedTokens : ℕ) : StepResult :=
  advance w .inferenceCompleted fun w =>
    emitting { recordInferenceResponse w response with accumulatedTokens }
      [.qualityGateIntent (gateInput request decision response)]

end

/-- `_evaluate_compliance`: one iteration of the loop. Cost and time are not fed. -/
def evaluateCompliance (schemaKey : String) (budget : ModelBudgetLimits)
    (response : ModelInferenceResponseData) :
    StepResult :=
  match evaluate env.compliance response.content schemaKey request.prompt w.complianceAttempts
      w.accumulatedTokens response.totalTokens budget with
  | .error raised => raising w (.compliance raised)
  | .ok result =>
    if result.asksRepair then
      advance { w with accumulatedTokens := result.tokensToCompliance } .routed fun w =>
        issueInference env
          { w with
            complianceAttempts := w.complianceAttempts + 1
            inferenceIntentInFlight := true }
          request decision result.repairPrompt
    else forwardToGate w request decision response result.tokensToCompliance

end

end

def handleInferenceResponse (response : ModelInferenceResponseData) : StepResult :=
  if w.state ≠ .routed then ignored w
  else
    match w.request, w.routingDecision with
    | none, _ => raising w .assertion
    | some _, none => ignored w
    | some request, some decision =>
      if response.errorMessage ≠ "" then
        handleInferenceError env nowNs w request decision response
      else
        match request.outputSchemaKey, request.complianceBudget with
        | none, _ => forwardToGate w request decision response response.totalTokens
        | some _, none => raising w .assertion
        | some schemaKey, some budget =>
          evaluateCompliance env w request decision schemaKey budget response

end

/-!
# Gate results and remote lifecycle

The two handlers that end a delegation on a verdict from outside: the quality
gate's result and the lifecycle event of a remote agent.
-/

section

variable (env : WorkflowEnv) (nowNs : ℤ) (w : DelegationWorkflowState)

/-! ## Quality gate -/

section

variable (result : ModelQualityGateResult)

def preFilterRejected : Bool :=
  result.failCategory == .failDeterministic

def judgeUnavailableFloor : Bool :=
  result.passed && result.scoreSource == SCORE_SOURCE_DETERMINISTIC_ACCEPTANCE

def qualityAccepted (authority : RequiredBarAuthority) : Bool :=
  !preFilterRejected result && result.passed &&
    (judgeUnavailableFloor result || !scoreBelowBar result.qualityScore authority)

def scoreVsBarReason (authority : RequiredBarAuthority) :
    String :=
  let reasonPrefix :=
    if preFilterRejected result then "pre_filter_rejected" else "score_below_required_bar"
  let detail := reasonPrefix ++ ": actual_score=" ++
    PyNumber.formatFloat 3 result.qualityScore ++ " required_bar=" ++
    PyNumber.formatFixed 3 authority.requiredBar.value ++ " authority_source=" ++
    authority.authoritySource ++ " score_source=" ++ authority.scoreSource
  if result.failureReasons.isEmpty then detail
  else detail ++ "; failures=" ++ "; ".intercalate result.failureReasons

/-- `workflow.accumulated_tokens or workflow.inference_total_tokens`. -/
def tokensToCompliance : ℕ :=
  if w.accumulatedTokens = 0 then w.inferenceTotalTokens else w.accumulatedTokens

/-- What a handler of the gate path has asserted about its workflow. -/
structure GateSubject where
  request : ModelDelegationRequest
  decision : ModelRoutingDecision
  content : String
  modelUsed : String

def gateSubject? : Option GateSubject := do
  let request ← w.request
  let decision ← w.routingDecision
  let content ← w.inferenceContent
  let modelUsed ← w.inferenceModelUsed
  pure { request, decision, content, modelUsed }

section

variable (subject : GateSubject)

section

variable (result : ModelQualityGateResult)

def gateTerminalInputs (completed fallbackToClaude : Bool) (failureReason : String)
    (terminalFailureReason : Option String) : TerminalEmissionInputs where
  completed := completed
  correlationId := result.correlationId
  taskType := subject.request.taskType
  modelUsed := subject.modelUsed
  endpointUrl := subject.decision.endpointUrl
  content := subject.content
  qualityPassed := completed
  qualityScore := result.qualityScore
  latencyMs := elapsedMs nowNs w
  promptTokens := w.inferencePromptTokens
  completionTokens := w.inferenceCompletionTokens
  totalTokens := w.inferenceTotalTokens
  fallbackToClaude := fallbackToClaude
  failureReason := failureReason
  tokensToCompliance := tokensToCompliance w
  complianceAttempts := complianceAttemptsOrOne w
  costTierName := currentTierOr w ""
  escalationCount := w.escalationCount
  escalationHistory := w.escalationHistory
  terminalFailureReason := terminalFailureReason
  routingTiersHash := env.routingTiersHash
  attemptsCount := w.escalationCount + 1
  contextPackHash := w.contextPackHash
  priorAttemptCostUsd := w.cumulativeAttemptCostUsd
  priorAttemptPromptTokens := w.cumulativeAttemptPromptTokens
  priorAttemptCompletionTokens := w.cumulativeAttemptCompletionTokens
  tenantId := resolveTenantId env w
  attempts_pos := complianceAttemptsOrOne_pos w

def rejectedAttempt (authority : RequiredBarAuthority) :
    ModelDelegationEscalationAttempt where
  tierName := currentTierOr w "unknown"
  modelUsed := if subject.modelUsed.isEmpty then "unknown" else subject.modelUsed
  qualityScore := result.qualityScore
  requiredBar := some authority.requiredBar.value
  actualScore := some result.qualityScore
  authoritySource := some authority.authoritySource
  scoreSource := some authority.scoreSource
  failureReasons := result.failureReasons
  latencyMs := elapsedMs nowNs w
  fallbackRecommended := true
  attemptedAtNs := nowNs
  routingDecisionId := some subject.decision.selectedBackendId
  cost_nonneg := noCost_nonneg

/-- Escalate off the tier of a rejected draft, or end the workflow. -/
def escalateOrFailGate (authority : RequiredBarAuthority) (costUsd : ℚ) : StepResult :=
  let reason := scoreVsBarReason result authority
  match decideEscalation env w subject.request.taskType true "non_retryable_quality_result" with
  | .error raised => raising w raised
  | .ok (.escalate nextTier) =>
    escalateTo w subject.request nextTier
      (escalationEvent nowNs w subject.request .qualityGateFailed reason
        ((nonEmpty w.inferenceModelUsed).getD "unknown"))
      costUsd w.inferencePromptTokens w.inferenceCompletionTokens
  | .ok (.terminate terminalReason) =>
    let inputs := gateTerminalInputs env nowNs w subject result false true reason
      (some terminalReason)
    advance w .failed fun w => emitting w [emitTerminal env inputs]

def rejectGateResult (authority : RequiredBarAuthority) :
    StepResult :=
  let attempt := rejectedAttempt nowNs w subject result authority
  let costUsd :=
    (attemptCost env attempt w.inferencePromptTokens w.inferenceCompletionTokens).cashCostUsd
  let w := recordEscalationAttempt env w attempt w.inferencePromptTokens
    w.inferenceCompletionTokens
  maybeRetryLocal env w subject.request costUsd fun w =>
    escalateOrFailGate env nowNs w subject result authority costUsd

/-- The verdict on a workflow in `GATE_EVALUATED`. -/
def settleGateResult : StepResult :=
  match resolveRequiredBarAuthority env.parseFloat env.routing subject.request.taskType with
  | .error .overflow => raising w .requiredBarOverflow
  | .error (.authority message) =>
    let inputs := gateTerminalInputs env nowNs w subject result false false
      ("required_bar_missing: " ++ message) (some "required_bar_missing")
    advance w .failed fun w => emitting w [emitTerminal env inputs]
  | .ok authority =>
    if qualityAccepted result authority then
      let inputs := gateTerminalInputs env nowNs w subject result true false "" none
      advance w .completed fun w => emitting w [emitTerminal env inputs]
    else rejectGateResult env nowNs w subject result authority

end

end

def handleGateResult : StepResult :=
  if w.state ≠ .inferenceCompleted then ignored w
  else
    advance w .gateEvaluated fun w =>
      let w := { w with gateResult := some result }
      match gateSubject? w with
      | none => raising w .assertion
      | some subject => settleGateResult env nowNs w subject result

end

/-! ## Remote lifecycle -/

def nextStateFromLifecycle : AgentTaskLifecycleType → EnumDelegationState
  | .submitted => .executing
  | .accepted => .executing
  | .progress => .executing
  | .artifact => .executing
  | .completed => .completed
  | .other _ => .failed

section

variable (event : ModelAgentTaskLifecycleEvent)

def renderLifecycleContent : String :=
  match event.artifact with
  | some artifact => env.compliance.dumpsSorted artifact
  | none => (nonEmpty event.error).getD event.lifecycleType.value

def lifecycleTerminalInputs (request : ModelDelegationRequest)
    (event : ModelAgentTaskLifecycleEvent) (completed : Bool) : TerminalEmissionInputs :=
  let delegatedTo := (w.invocationCommand.map (·.targetRef)).getD "remote-agent"
  { completed
    correlationId := event.correlationId
    taskType := request.taskType
    modelUsed := delegatedTo
    endpointUrl := delegatedTo
    content := renderLifecycleContent env event
    qualityPassed := completed
    qualityScore := .finite (if completed then 1 else 0)
    latencyMs := elapsedMs nowNs w
    promptTokens := 0
    completionTokens := 0
    totalTokens := 0
    fallbackToClaude := false
    failureReason := event.error.getD ""
    tokensToCompliance := 0
    complianceAttempts := 1
    costTierName := currentTierOr w ""
    escalationCount := 0
    escalationHistory := []
    terminalFailureReason := none
    routingTiersHash := none
    attemptsCount := 1
    contextPackHash := w.contextPackHash
    tenantId := resolveTenantId env w }

/-- The end of `handle_agent_task_lifecycle`, in the terminal state. -/
def endByLifecycle (completed : Bool) : StepResult :=
  match w.request with
  | none => raising w .assertion
  | some request =>
    emitting w [emitTerminal env (lifecycleTerminalInputs env nowNs w request event completed)]

def handleAgentTaskLifecycle : StepResult :=
  let nextState := nextStateFromLifecycle event.lifecycleType
  if nextState = .executing then
    if w.state = .routed then advance w .executing ignored else ignored w
  else if w.state ≠ .routed ∧ w.state ≠ .executing then ignored w
  else
    advance w nextState fun w => endByLifecycle env nowNs w event (nextState == .completed)

end

end

/-!
# The workflow machine

The orchestrator as a machine: a workflow for each correlation id, moved by the
events delivered under that id.
-/

/-- The six inbound event kinds. -/
inductive Event where
  | request (payload : ModelDelegationRequest)
  | command (payload : ModelInvocationCommand)
  | decision (payload : ModelRoutingDecision)
  | response (payload : ModelInferenceResponseData)
  | gateResult (payload : ModelQualityGateResult)
  | lifecycle (payload : ModelAgentTaskLifecycleEvent)

def Event.correlationId : Event → UUID
  | .request payload => payload.correlationId
  | .command payload => payload.correlationId
  | .decision payload => payload.correlationId
  | .response payload => payload.correlationId
  | .gateResult payload => payload.correlationId
  | .lifecycle payload => payload.correlationId

/-- An event together with the wall clock its handler reads. -/
structure Delivery where
  event : Event
  nowNs : ℤ

def Delivery.correlationId (delivery : Delivery) : UUID := delivery.event.correlationId

abbrev Outputs := Except WorkflowError (List Emission)

/-- What a call published: nothing when it raised. -/
def Outputs.messages (outputs : Outputs) : List Emission :=
  match outputs with
  | .ok messages => messages
  | .error _ => []

@[simp] theorem Outputs.messages_ok (messages : List Emission) :
    Outputs.messages (.ok messages) = messages := rfl

@[simp] theorem Outputs.messages_error (raised : WorkflowError) :
    Outputs.messages (.error raised) = [] := rfl

def inferenceIntents (outputs : Outputs) : ℕ :=
  outputs.messages.countP Emission.isInferenceIntent

theorem inferenceIntents_ok (messages : List Emission) :
    inferenceIntents (.ok messages) = messages.countP Emission.isInferenceIntent := rfl

theorem inferenceIntents_error (raised : WorkflowError) : inferenceIntents (.error raised) = 0 :=
  rfl

section

variable (env : WorkflowEnv)

/-- `_PER_STEP_DISPATCH` on a workflow that exists. -/
def handleExisting (nowNs : ℤ) (w : DelegationWorkflowState) :
    Event → StepResult
  | .request request => handleDuplicateRequest w request
  | .command command => handleInvocationCommand w command
  | .decision decision => handleRoutingDecision env w decision
  | .response response => handleInferenceResponse env nowNs w response
  | .gateResult result => handleGateResult env nowNs w result
  | .lifecycle event => handleAgentTaskLifecycle env nowNs w event

/-- One call for one correlation id. Only a request creates a workflow. -/
def step (slot : Option DelegationWorkflowState) (delivery : Delivery) :
    Option DelegationWorkflowState × Outputs :=
  match slot, delivery.event with
  | none, .request request =>
    (some (newWorkflow env delivery.nowNs request), .ok [.routingIntent { payload := request }])
  | none, _ => (none, .ok [])
  | some w, event =>
    let result := handleExisting env delivery.nowNs w event
    (some result.workflow, result.outputs)

abbrev Workflows := UUID → Option DelegationWorkflowState

def emptyWorkflows : Workflows := fun _ => none

/-- `HandlerDelegationWorkflow.handle` over the map of workflows. -/
def handle : Workflows → Delivery → Workflows × Outputs :=
  Trace.keyed Delivery.correlationId (step env)

abbrev SlotTransition := Trace.Transition (Option DelegationWorkflowState) Delivery Outputs

abbrev slotRun (deliveries : List Delivery) : List SlotTransition :=
  Trace.run (step env) none deliveries

/-- The workflow that a run of one correlation id ends with. -/
abbrev slotFinal (deliveries : List Delivery) :
    Option DelegationWorkflowState :=
  Trace.final (step env) none deliveries

end

/-! ## A small orchestrator -/

/-- Only JSON texts that no provider of the samples sends would parse; the one
registered schema keeps the member that the check reads. -/
def sampleRuntime : ComplianceRuntime where
  loads _ := .error (.decode "Expecting value")
  dumpsIndented _ := "\x7b\n  \"required\": [\n    \"verdict\",\n    \"summary\"\n  ]\n\x7d"
  dumpsSorted _ := "\x7b\x7d"
  str
    | .str text => text
    | _ => ""
  getSchema key :=
    if key = "review_output" then some [("required", .list [.str "verdict", .str "summary"])]
    else none
  reprKey key := PyText.reprString PyText.asciiTable key

/-- An orchestrator over `config` with unpriced tiers and no provider directives. -/
def sampleWorkflowEnv (config : ModelDelegationConfig) : WorkflowEnv where
  routing := sampleEnv config
  pricingConfig := { tiers := [] }
  parseFloat _ := none
  onexTenantId := none
  routingTiersHash := none
  applyInferenceProtocol systemPrompt prompt _ _ := .ok (systemPrompt, prompt, [])
  compliance := sampleRuntime

theorem sampleTokens_pos : 0 < 100 := by decide

def sampleRequest (schemaKey : Option String) (maxTokens : ℕ) (positive : 0 < maxTokens) :
    ModelDelegationRequest where
  prompt := "Review the ladder."
  taskType := "research"
  correlationId := 7
  outputSchemaKey := schemaKey
  complianceBudget := some
    { maxTokens, maxCostUsd := 1, maxTimeS := 1
      maxTokens_pos := positive, maxCostUsd_pos := by decide, maxTimeS_pos := by decide }
  schema_budget := fun _ => rfl

/-- The reducer's decision for the backend `ref` of `tier`. -/
def sampleDecision (tier ref : String) : ModelRoutingDecision where
  correlationId := 7
  taskType := "research"
  selectedModel := ref
  selectedBackendId := 0
  endpointUrl := "https://example.invalid/v1/chat/completions"
  costTier := "low"
  maxContextTokens := 100
  maxTokens := 65536
  systemPrompt := ""
  rationale := ""
  tierName := tier
  selectedBackendRef := ref
  timeoutMs_bounds := (sampleBackend ref).timeoutMs_bounds
  maxTokens_pos := (sampleBackend ref).maxTokens_pos

def sampleResponse (content errorMessage : String) (promptTokens completionTokens : ℕ) :
    ModelInferenceResponseData where
  correlationId := 7
  content := content
  modelUsed := "qwen"
  latencyMs := 10
  promptTokens := promptTokens
  completionTokens := completionTokens
  totalTokens := promptTokens + completionTokens
  errorMessage := errorMessage

def sampleDeliver (events : List Event) : List Delivery :=
  events.map fun event => { event, nowNs := 0 }

end OmniMarket.Delegation
