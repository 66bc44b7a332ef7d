import OmniMarket.Delegation.Workflow

/-!
# The steps of a workflow

`Leg` lists everything one handler call can do to a workflow. The invariants and
the ledgers of the workflow are read off its constructors.
-/

namespace OmniMarket.Delegation

section

variable (w : DelegationWorkflowState)

/-- What every reachable workflow keeps between two calls. -/
structure Coherent : Prop where
  known : w.request.isSome
  received : w.state = .received → w.inferenceContent = none ∧
    w.routingDecision = none ∧ w.inferenceIntentInFlight = false
  routed : w.state = .routed → w.inferenceContent = none ∧
    w.inferenceIntentInFlight = w.routingDecision.isSome
  completed : w.state = .inferenceCompleted → (gateSubject? w).isSome
  settled : w.state ≠ .escalating

/-- Whether the workflow waits for an event of this kind. -/
def Awaits : Event → Prop
  | .decision _ => w.state = .received ∨ w.state = .routed ∧ w.routingDecision = none
  | .response _ => w.state = .routed ∧ w.routingDecision ≠ none
  | .gateResult _ => w.state = .inferenceCompleted
  | _ => False

/-! ## Legs -/

/-- An inference of `decision` is under way. -/
structure Attempting (request : ModelDelegationRequest) (decision : ModelRoutingDecision) :
    Prop where
  routed : w.state = .routed
  known : w.request = some request
  decided : w.routingDecision = some decision

/-- A draft of `subject` is at the quality gate. -/
structure AtGate (subject : GateSubject) : Prop where
  completed : w.state = .inferenceCompleted
  known : w.request = some subject.request
  decided : w.routingDecision = some subject.decision
  drafted : w.inferenceContent = some subject.content
  modelled : w.inferenceModelUsed = some subject.modelUsed

def NotedFailure (failedBackendRef : String) (w' : DelegationWorkflowState) : Prop :=
  w' = w ∨ ∃ tier, w.currentTierName = some tier ∧ failedBackendRef ≠ "" ∧
    w' = noteFailedBackend w tier failedBackendRef

def OpenedRetries (w' : DelegationWorkflowState) : Prop :=
  w' = w ∨ ∃ tier, w.currentTierName = some tier ∧ w' = openLocalRetryBudget w tier

def inferenceFailed (env : WorkflowEnv) (nowNs : ℤ) (w : DelegationWorkflowState)
    (decision : ModelRoutingDecision) (response : ModelInferenceResponseData) :
    DelegationWorkflowState :=
  recordEscalationAttempt env w (failedInferenceAttempt nowNs w decision response)
    response.promptTokens response.completionTokens

def gateEvaluated (result : ModelQualityGateResult) :
    DelegationWorkflowState :=
  { w with state := .gateEvaluated, gateResult := some result }

def draftRejected (env : WorkflowEnv) (nowNs : ℤ) (w : DelegationWorkflowState)
    (subject : GateSubject) (result : ModelQualityGateResult)
    (authority : RequiredBarAuthority) : DelegationWorkflowState :=
  recordEscalationAttempt env (gateEvaluated w result)
    (rejectedAttempt nowNs (gateEvaluated w result) subject result authority)
    w.inferencePromptTokens w.inferenceCompletionTokens

/-- The workflow that a retry sends back to the routing reducer. -/
def rerouted (costUsd : ℚ) (promptTokens completionTokens : ℕ) :
    DelegationWorkflowState :=
  { resetInference (bankAttemptSpend w costUsd promptTokens completionTokens) with
    state := .routed }

/-- The workflow that an escalation sends back to the routing reducer. -/
def escalated (costUsd : ℚ) (promptTokens completionTokens : ℕ) :
    DelegationWorkflowState :=
  { rerouted w costUsd promptTokens completionTokens with
    escalationCount := w.escalationCount + 1 }

/-- The next tier of an escalation comes from the ladder. -/
def NextTierOf (env : WorkflowEnv) (w : DelegationWorkflowState)
    (request : ModelDelegationRequest) (nextTier : String) : Prop :=
  ∃ current, w.currentTierName = some current ∧
    nextEligibleTier env.routing current [] (some request.taskType) = .ok (some nextTier)

def dispatched (decision : ModelRoutingDecision) (attempts : ℕ) :
    DelegationWorkflowState :=
  { adoptDecision w decision attempts with
    state := .routed
    inferenceIntentInFlight := true }

/-- The workflow that re-prompts within its attempt. -/
def repaired (tokens : ℕ) : DelegationWorkflowState :=
  { w with
    accumulatedTokens := tokens
    complianceAttempts := w.complianceAttempts + 1
    inferenceIntentInFlight := true }

end

def RepairDue (env : WorkflowEnv) (w : DelegationWorkflowState)
    (response : ModelInferenceResponseData) : Prop :=
  ∃ request schemaKey budget, w.request = some request ∧ response.errorMessage = "" ∧
    request.outputSchemaKey = some schemaKey ∧ request.complianceBudget = some budget ∧
    SchemaRejects env.compliance response.content schemaKey ∧
    w.accumulatedTokens + response.totalTokens ≤ budget.maxTokens

def siblingLookup (env : WorkflowEnv) (w : DelegationWorkflowState)
    (request : ModelDelegationRequest) (failedBackendRef : String) :
    Except RoutingError (Option String) :=
  match w.currentTierName with
  | none => .ok none
  | some tier =>
    if failedBackendRef.isEmpty then .ok none
    else siblingBackendAvailableInTier env.routing tier request.taskType
      (failedBackendsOf w tier failedBackendRef)

def LookupsRaise (env : WorkflowEnv) (w : DelegationWorkflowState)
    (response : ModelInferenceResponseData) : Prop :=
  ∃ request decision, Attempting w request decision ∧ response.errorMessage ≠ "" ∧
    shouldEscalateInferenceError env response.errorMessage = true ∧
    ((∃ raised, siblingLookup env w request decision.selectedBackendRef = .error raised) ∨
      siblingLookup env w request decision.selectedBackendRef = .ok none ∧
      w.escalationCount < MAX_ESCALATION_ATTEMPTS ∧
      ∃ current raised, w.currentTierName = some current ∧
        resolveNextTier env current request.taskType = .error raised)

def IssuesInference (outputs : Outputs) : Prop :=
  (∃ intent, outputs = .ok [.inferenceIntent intent]) ∨
    ∃ message, outputs = .error (.inferenceProtocol message)

/-- Everything one call can do to the workflow `w`. -/
inductive Leg (env : WorkflowEnv) (nowNs : ℤ) (w : DelegationWorkflowState) :
    Event → DelegationWorkflowState → Outputs → Prop where
  | ignored {event : Event} (idle : ¬ Awaits w event) : Leg env nowNs w event w (.ok [])
  | replayed {request : ModelDelegationRequest} (fresh : w.state = .received) :
      Leg env nowNs w (.request request) { w with routingIntentReplayed := true }
        (.ok [.routingIntent { payload := w.request.getD request }])
  | commanded {command : ModelInvocationCommand} (fresh : w.state = .received) :
      Leg env nowNs w (.command command)
        { w with state := .routed, invocationCommand := some command }
        (.ok [.invocationCommand command])
  | decided {decision : ModelRoutingDecision} {attempts : ℕ} {outputs : Outputs}
      (awaited : Awaits w (.decision decision)) (issued : IssuesInference outputs) :
      Leg env nowNs w (.decision decision) (dispatched w decision attempts) outputs
  | inferenceRaised {response : ModelInferenceResponseData} {request : ModelDelegationRequest}
      {decision : ModelRoutingDecision} {w' : DelegationWorkflowState} {raised : RoutingError}
      (attempting : Attempting w request decision) (lookup : LookupsRaise env w response)
      (noted : NotedFailure (inferenceFailed env nowNs w decision response)
        decision.selectedBackendRef w') :
      Leg env nowNs w (.response response) w' (.error (.routing raised))
  | siblingRetried {response : ModelInferenceResponseData} {request : ModelDelegationRequest}
      {decision : ModelRoutingDecision} {tier sibling : String} {costUsd : ℚ}
      (attempting : Attempting w request decision) (failed : response.errorMessage ≠ "")
      (onTier : w.currentTierName = some tier) (identified : decision.selectedBackendRef ≠ "")
      (available : siblingBackendAvailableInTier env.routing tier request.taskType
        (failedBackendsOf w tier decision.selectedBackendRef) = .ok (some sibling)) :
      Leg env nowNs w (.response response)
        (rerouted (noteFailedBackend (inferenceFailed env nowNs w decision response) tier
            decision.selectedBackendRef) costUsd response.promptTokens response.completionTokens)
        (.ok [.routingIntent
          { payload := request, minTierName := some tier
            excludedBackendRefs :=
              sortedSet (failedBackendsOf w tier decision.selectedBackendRef) }])
  | inferenceEscalated {response : ModelInferenceResponseData}
      {request : ModelDelegationRequest} {decision : ModelRoutingDecision}
      {w' : DelegationWorkflowState} {nextTier : String} {costUsd : ℚ}
      {proof : ModelLlmDelegationEscalationTriggeredEvent}
      (attempting : Attempting w request decision) (failed : response.errorMessage ≠ "")
      (noted : NotedFailure (inferenceFailed env nowNs w decision response)
        decision.selectedBackendRef w')
      (next : NextTierOf env w request nextTier) :
      Leg env nowNs w (.response response)
        (escalated w' costUsd response.promptTokens response.completionTokens)
        (.ok [.routingIntent { payload := request, minTierName := some nextTier },
          .escalationTriggered proof])
  | inferenceEnded {response : ModelInferenceResponseData} {request : ModelDelegationRequest}
      {decision : ModelRoutingDecision} {w' : DelegationWorkflowState} {reason : String}
      (attempting : Attempting w request decision) (failed : response.errorMessage ≠ "")
      (noted : NotedFailure (inferenceFailed env nowNs w decision response)
        decision.selectedBackendRef w') :
      Leg env nowNs w (.response response)
        { recordInferenceResponse w' response with state := .failed }
        (.ok [emitTerminal env (inferenceTerminalInputs env nowNs
          (recordInferenceResponse w' response) request decision response reason)])
  | forwarded {response : ModelInferenceResponseData} {request : ModelDelegationRequest}
      {decision : ModelRoutingDecision} {tokens : ℕ}
      (attempting : Attempting w request decision) (settled : ¬ RepairDue env w response) :
      Leg env nowNs w (.response response)
        { recordInferenceResponse w response with
          state := .inferenceCompleted
          accumulatedTokens := tokens }
        (.ok [.qualityGateIntent (gateInput request decision response)])
  | repairAsked {response : ModelInferenceResponseData} {request : ModelDelegationRequest}
      {decision : ModelRoutingDecision} {outputs : Outputs}
      (attempting : Attempting w request decision) (due : RepairDue env w response)
      (issued : IssuesInference outputs) :
      Leg env nowNs w (.response response)
        (repaired w (w.accumulatedTokens + response.totalTokens)) outputs
  | complianceRaised {response : ModelInferenceResponseData} {request : ModelDelegationRequest}
      {decision : ModelRoutingDecision} {raised : JsonError}
      (attempting : Attempting w request decision) (settled : ¬ RepairDue env w response) :
      Leg env nowNs w (.response response) w (.error (.compliance raised))
  | barOverflowed {result : ModelQualityGateResult} {subject : GateSubject}
      (atGate : AtGate w subject) :
      Leg env nowNs w (.gateResult result) (gateEvaluated w result)
        (.error .requiredBarOverflow)
  | gateEnded {result : ModelQualityGateResult} {subject : GateSubject}
      {w' : DelegationWorkflowState} {target : EnumDelegationState} {completed fallback : Bool}
      {failureReason : String} {reason : Option String}
      (atGate : AtGate w subject) (terminal : target.isTerminal = true)
      (outcome : completed = true ↔ target = .completed)
      (recorded : w' = gateEvaluated w result ∨ ∃ authority,
        OpenedRetries (draftRejected env nowNs w subject result authority) w') :
      Leg env nowNs w (.gateResult result) { w' with state := target }
        (.ok [emitTerminal env (gateTerminalInputs env nowNs w' subject result completed fallback
          failureReason reason)])
  | gateRaised {result : ModelQualityGateResult} {subject : GateSubject}
      {authority : RequiredBarAuthority} {w' : DelegationWorkflowState} {raised : RoutingError}
      (atGate : AtGate w subject)
      (opened : OpenedRetries (draftRejected env nowNs w subject result authority) w') :
      Leg env nowNs w (.gateResult result) w' (.error (.routing raised))
  | localRetried {result : ModelQualityGateResult} {subject : GateSubject}
      {authority : RequiredBarAuthority} {tier : String} {maxRetries : ℤ} {costUsd : ℚ}
      {w' : DelegationWorkflowState}
      (atGate : AtGate w subject) (onTier : w.currentTierName = some tier)
      (opened : w' = openLocalRetryBudget (draftRejected env nowNs w subject result authority) tier)
      (budget : tierMaxRetries env.routing tier = .ok maxRetries)
      (left : (w'.localRetryCount : ℤ) < maxRetries) :
      Leg env nowNs w (.gateResult result)
        (rerouted { w' with localRetryCount := w'.localRetryCount + 1 } costUsd
          w.inferencePromptTokens w.inferenceCompletionTokens)
        (.ok [.routingIntent { payload := subject.request, minTierName := some tier }])
  | gateEscalated {result : ModelQualityGateResult} {subject : GateSubject}
      {authority : RequiredBarAuthority} {w' : DelegationWorkflowState} {nextTier : String}
      {costUsd : ℚ} {proof : ModelLlmDelegationEscalationTriggeredEvent}
      (atGate : AtGate w subject)
      (opened : OpenedRetries (draftRejected env nowNs w subject result authority) w')
      (next : NextTierOf env w subject.request nextTier) :
      Leg env nowNs w (.gateResult result)
        (escalated w' costUsd w.inferencePromptTokens w.inferenceCompletionTokens)
        (.ok [.routingIntent { payload := subject.request, minTierName := some nextTier },
          .escalationTriggered proof])
  | progressed {event : ModelAgentTaskLifecycleEvent} (routed : w.state = .routed) :
      Leg env nowNs w (.lifecycle event) { w with state := .executing } (.ok [])
  | lifecycleEnded {event : ModelAgentTaskLifecycleEvent} {request : ModelDelegationRequest}
      {target : EnumDelegationState} {completed : Bool}
      (active : w.state = .routed ∨ w.state = .executing) (terminal : target.isTerminal = true)
      (outcome : completed = true ↔ target = .completed) :
      Leg env nowNs w (.lifecycle event) { w with state := target }
        (.ok [emitTerminal env (lifecycleTerminalInputs env nowNs { w with state := target }
          request event completed)])

end OmniMarket.Delegation
