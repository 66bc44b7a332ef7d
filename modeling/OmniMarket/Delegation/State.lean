import OmniMarket.Delegation.Compliance
import OmniMarket.Delegation.Limits
import OmniMarket.Routing.ReducerSpec

/-!
# Workflow state of the delegation orchestrator

The state machine of one correlation id: its states, the edges that the contract
declares, the data a workflow keeps, the messages it emits and what it reads from
its surroundings.
-/

namespace OmniMarket.Delegation

/-! ## Finite-state machine -/

inductive EnumDelegationState where
  | received
  | routed
  | executing
  | inferenceCompleted
  | gateEvaluated
  | escalating
  | completed
  | failed
deriving DecidableEq

/-- `contract.yaml`, block `fsm.transitions`. -/
def DECLARED_TRANSITIONS : List (EnumDelegationState × EnumDelegationState) :=
  [(.received, .routed),
   (.routed, .routed),
   (.routed, .executing),
   (.routed, .inferenceCompleted),
   (.executing, .completed),
   (.executing, .failed),
   (.inferenceCompleted, .gateEvaluated),
   (.gateEvaluated, .escalating),
   (.escalating, .routed),
   (.gateEvaluated, .completed),
   (.gateEvaluated, .failed),
   (.gateEvaluated, .routed),
   (.routed, .escalating),
   (.routed, .failed),
   (.routed, .completed)]

/-- `fsm.terminal_states`. -/
def EnumDelegationState.isTerminal : EnumDelegationState → Bool
  | .completed => true
  | .failed => true
  | _ => false

/-! ## Workflow data -/

@[ext]
structure ModelDelegationEscalationAttempt where
  tierName : String
  modelUsed : String
  qualityScore : PyFloat
  requiredBar : Option ℚ := none
  actualScore : Option PyFloat := none
  authoritySource : Option String := none
  scoreSource : Option String := none
  failureReasons : List String := []
  promptTokens : ℕ := 0
  completionTokens : ℕ := 0
  costUsd : ℚ := 0
  latencyMs : ℤ
  fallbackRecommended : Bool
  attemptedAtNs : ℤ
  routingDecisionId : Option UUID := none
  cost_nonneg : 0 ≤ costUsd := by decide

instance : DecidableEq ModelDelegationEscalationAttempt := fun _ _ => decidable_of_iff _ ModelDelegationEscalationAttempt.ext_iff.symm

structure DelegationWorkflowState where
  correlationId : UUID
  state : EnumDelegationState := .received
  request : Option ModelDelegationRequest := none
  routingDecision : Option ModelRoutingDecision := none
  invocationCommand : Option ModelInvocationCommand := none
  inferenceContent : Option String := none
  inferenceModelUsed : Option String := none
  inferenceLatencyMs : ℤ := 0
  inferencePromptTokens : ℕ := 0
  inferenceCompletionTokens : ℕ := 0
  inferenceTotalTokens : ℕ := 0
  inferenceLlmCallId : String := ""
  contextPackHash : String := ""
  gateResult : Option ModelQualityGateResult := none
  startedAtNs : ℤ
  complianceAttempts : ℕ := 0
  accumulatedTokens : ℕ := 0
  inferenceIntentInFlight : Bool := false
  routingIntentReplayed : Bool := false
  escalationCount : ℕ := 0
  currentTierName : Option String := none
  escalationHistory : List ModelDelegationEscalationAttempt := []
  cumulativeAttemptCostUsd : ℚ := 0
  cumulativeAttemptPromptTokens : ℕ := 0
  cumulativeAttemptCompletionTokens : ℕ := 0
  localRetryCount : ℕ := 0
  localRetryTier : Option String := none
  sameTierFailedBackendRefs : List String := []
  sameTierFailedBackendTier : Option String := none
  tenantId : Option String := none
deriving DecidableEq

/-! ## Messages -/

@[ext]
structure ModelDelegationResult where
  correlationId : UUID
  taskType : String
  modelUsed : String
  endpointUrl : String
  content : String
  qualityPassed : Bool
  qualityScore : PyFloat
  latencyMs : ℤ
  promptTokens : ℕ
  completionTokens : ℕ
  totalTokens : ℕ
  fallbackToClaude : Bool
  failureReason : String
  tokensToCompliance : ℕ
  complianceAttempts : ℕ
  escalationCount : ℕ
  escalationHistory : List ModelDelegationEscalationAttempt
  terminalFailureReason : Option String
  routingTiersHash : Option String
  attemptsCount : ℕ
  cumulativeAttemptCost : ℚ
  cumulativeInputTokens : ℕ
  cumulativeOutputTokens : ℕ
  finalAttemptCost : ℚ
  contextPackHash : String
  costTierName : String
  tenantId : Option String
  attempts_pos : 1 ≤ complianceAttempts

instance : DecidableEq ModelDelegationResult := fun _ _ => decidable_of_iff _ ModelDelegationResult.ext_iff.symm

/-- Proof of an escalation decision. -/
structure ModelLlmDelegationEscalationTriggeredEvent where
  correlationId : UUID
  taskType : String
  modelId : String
  attemptNumber : ℕ
  failureClass : DelegationFailureClass
  escalationReason : String
  createdAtNs : ℤ

/-- What a handler call returns to the runtime for publication. -/
inductive Emission where
  | routingIntent (intent : ModelRoutingIntent)
  | invocationCommand (command : ModelInvocationCommand)
  | inferenceIntent (intent : ModelInferenceIntent)
  | qualityGateIntent (payload : ModelQualityGateInput)
  | escalationTriggered (event : ModelLlmDelegationEscalationTriggeredEvent)
  | delegationCompleted (result : ModelDelegationResult)
  | delegationFailed (result : ModelDelegationResult)

/-- The result a terminal event carries; nothing for any other message. -/
def Emission.terminal? : Emission → Option ModelDelegationResult
  | .delegationCompleted result => some result
  | .delegationFailed result => some result
  | _ => none

def Emission.isInferenceIntent : Emission → Bool
  | .inferenceIntent _ => true
  | _ => false

inductive WorkflowError where
  /-- `InvalidStateTransitionError`. -/
  | invalidStateTransition (source target : EnumDelegationState) (correlationId : UUID)
  /-- A failed `assert`. -/
  | assertion
  | routing (raised : RoutingError)
  /-- A required bar that does not fit a double. -/
  | requiredBarOverflow
  /-- The inference protocol configuration could not be loaded. -/
  | inferenceProtocol (message : String)
  /-- An exception of the compliance loop that nobody catches. -/
  | compliance (raised : JsonError)
  /-- `ValueError` of the escalation decision. -/
  | missingNoHigherTierReason

/-- What the orchestrator reads: the routing authority, the pricing registry, the
settings, the provider directives and the compliance runtime. -/
structure WorkflowEnv where
  routing : RoutingEnv
  /-- The tiers of `configs/routing_tiers.yaml`, which price an attempt. -/
  pricingConfig : ModelDelegationConfig
  parseFloat : ParseFloat
  /-- `get_settings().onex_tenant_id`. -/
  onexTenantId : Option String
  /-- SHA-256 of the tier configuration file. -/
  routingTiersHash : Option String
  /-- `apply_inference_protocol(system_prompt, prompt, model, task_type)`. -/
  applyInferenceProtocol : String → String → String → String →
    Except String (String × String × PyDict)
  compliance : ComplianceRuntime

/-! ## One handler call -/

/-- The workflow a call leaves behind, mutated or not, and what it returns. -/
structure StepResult where
  workflow : DelegationWorkflowState
  outputs : Except WorkflowError (List Emission)

section

variable (w : DelegationWorkflowState)

/-- The call ignores its event. -/
def ignored : StepResult := ⟨w, .ok []⟩

def emitting (messages : List Emission) : StepResult :=
  ⟨w, .ok messages⟩

/-- The call raises; what it had mutated so far stays. -/
def raising (raised : WorkflowError) : StepResult :=
  ⟨w, .error raised⟩

def advance (target : EnumDelegationState) (next : DelegationWorkflowState → StepResult) :
    StepResult :=
  if DECLARED_TRANSITIONS.contains (w.state, target) then next { w with state := target }
  else raising w (.invalidStateTransition w.state target w.correlationId)

theorem advance_declared {w : DelegationWorkflowState} {target : EnumDelegationState}
    {next : DelegationWorkflowState → StepResult}
    (declared : DECLARED_TRANSITIONS.contains (w.state, target) = true) :
    advance w target next = next { w with state := target } := by
  simp only [advance, declared, if_true]

/-!
# Attempts of a delegation

What the handlers of the workflow share: the inference intent of an attempt, the
record of its response, its price, the escalation verdict and the terminal event.
-/

/-! ## Request texts -/

/-- `value or None` of a string. -/
def nonEmpty (value : Option String) : Option String :=
  value.filter (fun text => !text.isEmpty)

section

variable (request : ModelDelegationRequest)

def normalizedContextPack : String :=
  PyText.stripString request.contextPack

def contextPackHashForEvent : String :=
  if (normalizedContextPack request).isEmpty then ""
  else PyText.stripString request.contextPackHash

def promptWithContextPack (prompt : String) : String :=
  if (normalizedContextPack request).isEmpty then prompt
  else normalizedContextPack request ++ "\n\n" ++ prompt

def resolveTenantId (env : WorkflowEnv) (w : DelegationWorkflowState) : Option String :=
  nonEmpty w.tenantId <|> nonEmpty (w.request.bind (·.tenantId)) <|> nonEmpty env.onexTenantId

def TASK_TEMPERATURE : List (String × ℚ) :=
  [("test", 3 / 10), ("document", 1 / 2), ("research", 7 / 10)]

def taskTemperature (taskType : String) : ℚ :=
  (TASK_TEMPERATURE.lookup taskType).getD (3 / 10)

/-! ## Inference intents -/

/-- The timeout of the selected backend in seconds, within the wire bounds. -/
def inferenceTimeoutSeconds : ℚ :=
  match w.routingDecision with
  | none => 30
  | some decision => max 1 (min 600 (decision.timeoutMs / 1000))

/-- Issue an inference for `prompt` at the backend of `decision`. -/
def issueInference (env : WorkflowEnv) (w : DelegationWorkflowState)
    (request : ModelDelegationRequest) (decision : ModelRoutingDecision) (prompt : String) :
    StepResult :=
  match env.applyInferenceProtocol decision.systemPrompt (promptWithContextPack request prompt)
      decision.selectedModel request.taskType with
  | .error message => raising w (.inferenceProtocol message)
  | .ok (systemPrompt, outboundPrompt, providerRequestOptions) =>
    emitting w [.inferenceIntent
      { baseUrl := decision.endpointUrl
        model := decision.selectedModel
        systemPrompt
        prompt := outboundPrompt
        maxTokens := decision.maxTokens
        temperature := taskTemperature request.taskType
        timeoutSeconds := inferenceTimeoutSeconds w
        correlationId := w.correlationId
        apiKeyRef := decision.apiKeyRef
        extraHeaders := decision.extraHeaders
        providerRequestOptions
        tenantId := resolveTenantId env w }]

/-- `ModelQualityGateInput` of a response that is forwarded to the gate. -/
def gateInput (decision : ModelRoutingDecision) (response : ModelInferenceResponseData) :
    ModelQualityGateInput where
  correlationId := response.correlationId
  taskType := request.taskType
  llmResponseContent := response.content
  dodDeterministic := decision.dodDeterministic
  dodHeuristic := decision.dodHeuristic
  qualityContractMode := request.qualityContractMode
  acceptanceCriteria := request.acceptanceCriteria

end

/-! ## Attempt records -/

/-- `_record_inference_response`: the total is the sum of the two counts. -/
def recordInferenceResponse (response : ModelInferenceResponseData) :
    DelegationWorkflowState :=
  { w with
    inferenceIntentInFlight := false
    inferenceContent := some response.content
    inferenceModelUsed := some response.modelUsed
    inferenceLatencyMs := response.latencyMs
    inferencePromptTokens := response.promptTokens
    inferenceCompletionTokens := response.completionTokens
    inferenceTotalTokens := response.promptTokens + response.completionTokens
    inferenceLlmCallId := response.llmCallId }

/-- The reset before a re-route: the next decision starts a fresh attempt. -/
def resetInference : DelegationWorkflowState :=
  { w with
    inferenceContent := none
    inferenceModelUsed := none
    inferenceIntentInFlight := false
    routingDecision := none }

def attemptCost (env : WorkflowEnv) (attempt : ModelDelegationEscalationAttempt)
    (promptTokens completionTokens : ℕ) : ModelActualCostMeasurement :=
  recomputeActualCost env.pricingConfig attempt.tierName promptTokens completionTokens

def recordEscalationAttempt (env : WorkflowEnv) (w : DelegationWorkflowState)
    (attempt : ModelDelegationEscalationAttempt) (promptTokens completionTokens : ℕ) :
    DelegationWorkflowState :=
  let measurement := attemptCost env attempt promptTokens completionTokens
  let pricedAttempt := { attempt with
    promptTokens, completionTokens
    costUsd := measurement.cashCostUsd
    cost_nonneg := measurement.cash_nonneg }
  { w with escalationHistory := w.escalationHistory ++ [pricedAttempt] }

def bankAttemptSpend (costUsd : ℚ) (promptTokens completionTokens : ℕ) : DelegationWorkflowState :=
  { w with
    cumulativeAttemptCostUsd := w.cumulativeAttemptCostUsd + costUsd
    cumulativeAttemptPromptTokens := w.cumulativeAttemptPromptTokens + promptTokens
    cumulativeAttemptCompletionTokens := w.cumulativeAttemptCompletionTokens + completionTokens }

end

/-! ## Escalation verdict -/

def MAX_ESCALATION_ATTEMPTS : ℕ := 2

def MAX_ATTEMPTS_REACHED_REASON : String := "max_escalation_attempts_reached"

def CURRENT_TIER_UNKNOWN_REASON : String := "current_tier_unknown"

inductive ModelEscalationDecisionResult where
  | escalate (nextTierName : String)
  | terminate (terminalFailureReason : String)

structure ModelEscalationDecisionRequest where
  escalationCount : ℕ
  maxEscalationAttempts : ℕ
  currentTierName : Option String
  errorRetryable : Bool
  nextTierName : Option String
  nonRetryableReason : String
  noHigherTierReason : Option String

/-- `HandlerEscalationDecision.handle`. -/
def escalationDecision (request : ModelEscalationDecisionRequest) :
    Except WorkflowError ModelEscalationDecisionResult :=
  if !request.errorRetryable then .ok (.terminate request.nonRetryableReason)
  else if request.maxEscalationAttempts ≤ request.escalationCount then
    .ok (.terminate MAX_ATTEMPTS_REACHED_REASON)
  else
    match request.currentTierName with
    | none => .ok (.terminate CURRENT_TIER_UNKNOWN_REASON)
    | some _ =>
      match request.nextTierName, request.noHigherTierReason with
      | some next, _ => .ok (.escalate next)
      | none, some reason => .ok (.terminate reason)
      | none, none => .error .missingNoHigherTierReason

section

variable (env : WorkflowEnv)

def resolveNextTier (current : String) (taskType : String) :
    Except RoutingError (Option String × Option String) := do
  match ← nextEligibleTier env.routing current [] (some taskType) with
  | some next => pure (some next, none)
  | none =>
    let reason ← describeNoHigherTierAvailable env.routing current [] taskType
    pure (none, some reason)

/-- `_decide_escalation`. The ladder is only consulted when the cheap conditions
allow an escalation. Neither caller excludes a tier. -/
def decideEscalation (w : DelegationWorkflowState) (taskType : String) (errorRetryable : Bool)
    (nonRetryableReason : String) :
    Except WorkflowError ModelEscalationDecisionResult :=
  let verdict (resolved : Option String × Option String) := escalationDecision
    { escalationCount := w.escalationCount
      maxEscalationAttempts := MAX_ESCALATION_ATTEMPTS
      currentTierName := w.currentTierName
      errorRetryable
      nextTierName := resolved.1
      nonRetryableReason
      noHigherTierReason := resolved.2 }
  match w.currentTierName with
  | none => verdict (none, none)
  | some current =>
    if errorRetryable && decide (w.escalationCount < MAX_ESCALATION_ATTEMPTS) then
      match resolveNextTier env current taskType with
      | .error raised => .error (.routing raised)
      | .ok resolved => verdict resolved
    else verdict (none, none)

/-!
# The terminal event

`emitTerminal` is the one builder of the terminal event. It prices the final
attempt, adds the spend banked on the attempts before it, and falls back to the
last metered attempt of the history when a failed delegation carries no spend.
-/

/-- What every terminal site resolves its outcome into. -/
structure TerminalEmissionInputs where
  completed : Bool
  correlationId : UUID
  taskType : String
  modelUsed : String
  endpointUrl : String
  content : String
  qualityPassed : Bool
  qualityScore : PyFloat
  latencyMs : ℤ
  promptTokens : ℕ
  completionTokens : ℕ
  totalTokens : ℕ
  fallbackToClaude : Bool
  failureReason : String
  tokensToCompliance : ℕ
  complianceAttempts : ℕ
  costTierName : String
  escalationCount : ℕ
  escalationHistory : List ModelDelegationEscalationAttempt
  terminalFailureReason : Option String
  routingTiersHash : Option String
  attemptsCount : ℕ
  contextPackHash : String
  priorAttemptCostUsd : ℚ := 0
  priorAttemptPromptTokens : ℕ := 0
  priorAttemptCompletionTokens : ℕ := 0
  tenantId : Option String
  attempts_pos : 1 ≤ complianceAttempts := by decide

/-- `workflow.compliance_attempts or 1`. -/
def complianceAttemptsOrOne (w : DelegationWorkflowState) : ℕ := max w.complianceAttempts 1

theorem complianceAttemptsOrOne_pos (w : DelegationWorkflowState) :
    1 ≤ complianceAttemptsOrOne w := Nat.le_max_right _ _

/-- The history tier hoisted onto a failed terminal without any spend. -/
structure HoistedTierCost where
  measurement : ModelActualCostMeasurement
  promptTokens : ℕ
  completionTokens : ℕ

def hoistAttempt (attempt : ModelDelegationEscalationAttempt) :
    Option HoistedTierCost :=
  if attempt.tierName.isEmpty then none
  else if attempt.promptTokens = 0 ∧ attempt.completionTokens = 0 then none
  else
    let measurement := recomputeActualCost env.pricingConfig attempt.tierName
      attempt.promptTokens attempt.completionTokens
    if 0 < measurement.cashCostUsd then
      some { measurement, promptTokens := attempt.promptTokens
             completionTokens := attempt.completionTokens }
    else none

def hoistMeteredHistoryTier (history : List ModelDelegationEscalationAttempt) :
    Option HoistedTierCost :=
  history.reverse.findSome? (hoistAttempt env)

structure TerminalSpend where
  costTierName : String
  finalAttemptCost : ℚ
  cumulativeAttemptCost : ℚ
  servedInputTokens : ℕ
  servedOutputTokens : ℕ
  servedTotalTokens : ℕ
  cumulativeInputTokens : ℕ
  cumulativeOutputTokens : ℕ

def TerminalSpend.ofHoisted (hoisted : HoistedTierCost) : TerminalSpend where
  costTierName := hoisted.measurement.costTierName
  finalAttemptCost := hoisted.measurement.cashCostUsd
  cumulativeAttemptCost := hoisted.measurement.cashCostUsd
  servedInputTokens := hoisted.promptTokens
  servedOutputTokens := hoisted.completionTokens
  servedTotalTokens := hoisted.promptTokens + hoisted.completionTokens
  cumulativeInputTokens := hoisted.promptTokens
  cumulativeOutputTokens := hoisted.completionTokens

def summedSpend (inputs : TerminalEmissionInputs) : TerminalSpend :=
  let cost := recomputeActualCost env.pricingConfig inputs.costTierName inputs.promptTokens
    inputs.completionTokens
  { costTierName := cost.costTierName
    finalAttemptCost := cost.cashCostUsd
    cumulativeAttemptCost := cost.cashCostUsd + inputs.priorAttemptCostUsd
    servedInputTokens := inputs.promptTokens
    servedOutputTokens := inputs.completionTokens
    servedTotalTokens := inputs.totalTokens
    cumulativeInputTokens := inputs.promptTokens + inputs.priorAttemptPromptTokens
    cumulativeOutputTokens := inputs.completionTokens + inputs.priorAttemptCompletionTokens }

def carriesNoSpend (inputs : TerminalEmissionInputs) (spend : TerminalSpend) : Prop :=
  inputs.completed = false ∧ spend.cumulativeAttemptCost ≤ 0 ∧
    spend.cumulativeInputTokens = 0 ∧ spend.cumulativeOutputTokens = 0

instance (inputs : TerminalEmissionInputs) (spend : TerminalSpend) :
    Decidable (carriesNoSpend inputs spend) :=
  inferInstanceAs (Decidable (_ ∧ _ ∧ _ ∧ _))

section

variable (inputs : TerminalEmissionInputs)

def terminalSpend : TerminalSpend :=
  if carriesNoSpend inputs (summedSpend env inputs) then
    match hoistMeteredHistoryTier env inputs.escalationHistory with
    | some hoisted => TerminalSpend.ofHoisted hoisted
    | none => summedSpend env inputs
  else summedSpend env inputs

def terminalResult :
    ModelDelegationResult :=
  let spend := terminalSpend env inputs
  { correlationId := inputs.correlationId
    taskType := inputs.taskType
    modelUsed := inputs.modelUsed
    endpointUrl := inputs.endpointUrl
    content := inputs.content
    qualityPassed := inputs.qualityPassed
    qualityScore := inputs.qualityScore
    latencyMs := inputs.latencyMs
    promptTokens := spend.servedInputTokens
    completionTokens := spend.servedOutputTokens
    totalTokens := spend.servedTotalTokens
    fallbackToClaude := inputs.fallbackToClaude
    failureReason := inputs.failureReason
    tokensToCompliance := inputs.tokensToCompliance
    complianceAttempts := inputs.complianceAttempts
    escalationCount := inputs.escalationCount
    escalationHistory := inputs.escalationHistory
    terminalFailureReason := inputs.terminalFailureReason
    routingTiersHash := inputs.routingTiersHash
    attemptsCount := inputs.attemptsCount
    cumulativeAttemptCost := spend.cumulativeAttemptCost
    cumulativeInputTokens := spend.cumulativeInputTokens
    cumulativeOutputTokens := spend.cumulativeOutputTokens
    finalAttemptCost := spend.finalAttemptCost
    contextPackHash := inputs.contextPackHash
    costTierName := spend.costTierName
    tenantId := inputs.tenantId
    attempts_pos := inputs.attempts_pos }

def emitTerminal : Emission :=
  if inputs.completed then .delegationCompleted (terminalResult env inputs)
  else .delegationFailed (terminalResult env inputs)

@[simp] theorem emitTerminal_terminal :
    (emitTerminal env inputs).terminal? = some (terminalResult env inputs) := by
  unfold emitTerminal
  split <;> rfl

@[simp] theorem emitTerminal_not_inference :
    (emitTerminal env inputs).isInferenceIntent = false := by
  unfold emitTerminal
  split <;> rfl

end

end

theorem terminalSpend_summed {env : WorkflowEnv} {inputs : TerminalEmissionInputs}
    (intact : carriesNoSpend inputs (summedSpend env inputs) →
      hoistMeteredHistoryTier env inputs.escalationHistory = none) :
    terminalSpend env inputs = summedSpend env inputs := by
  unfold terminalSpend
  split
  · rename_i residual
    rw [intact residual]
  · rfl

end OmniMarket.Delegation
