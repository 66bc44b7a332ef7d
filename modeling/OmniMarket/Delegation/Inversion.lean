import OmniMarket.Delegation.Steps

/-!
# Every call is a leg

The handlers unfold here once; nothing above this module unfolds them again.
-/

namespace OmniMarket.Delegation

variable {env : WorkflowEnv} {nowNs : ℤ} {w : DelegationWorkflowState}
  {retryable : Bool} {costUsd : ℚ} {failedBackendRef : String} {w' : DelegationWorkflowState}
  {request : ModelDelegationRequest}

def StepResult.IsLeg (env : WorkflowEnv) (nowNs : ℤ) (w : DelegationWorkflowState)
    (event : Event) (result : StepResult) : Prop :=
  Leg env nowNs w event result.workflow result.outputs

section

variable (request : ModelDelegationRequest)

theorem issueInference_workflow (decision : ModelRoutingDecision) (prompt : String) :
    (issueInference env w request decision prompt).workflow = w := by
  unfold issueInference
  split <;> rfl

theorem issueInference_issues (decision : ModelRoutingDecision) (prompt : String) :
    IssuesInference (issueInference env w request decision prompt).outputs := by
  unfold issueInference
  split
  · exact Or.inr ⟨_, rfl⟩
  · exact Or.inl ⟨_, rfl⟩

theorem IssuesInference.intents_le {outputs : Outputs} (issued : IssuesInference outputs) :
    inferenceIntents outputs ≤ 1 := by
  rcases issued with ⟨intent, rfl⟩ | ⟨message, rfl⟩
  · exact Nat.le_refl 1
  · exact Nat.zero_le 1

/-! ## Requests, commands and decisions -/

theorem handleDuplicateRequest_leg :
    (handleDuplicateRequest w request).IsLeg env nowNs w (.request request) := by
  unfold handleDuplicateRequest
  split
  · rename_i fresh
    exact .replayed fresh.1
  · exact .ignored id

end

theorem handleInvocationCommand_leg (command : ModelInvocationCommand) :
    (handleInvocationCommand w command).IsLeg env nowNs w (.command command) := by
  unfold handleInvocationCommand
  split
  · exact .ignored id
  · rename_i fresh
    have received : w.state = .received := not_not.mp fresh
    rw [advance_declared (by rw [received]; decide)]
    exact .commanded received

theorem dispatchInference_eq {decision : ModelRoutingDecision}
    (idle : w.inferenceIntentInFlight = false) (known : w.request = some request) :
    dispatchInference env w decision =
      issueInference env { w with inferenceIntentInFlight := true } request decision
        request.prompt := by
  unfold dispatchInference
  rw [idle]
  simp only [Bool.false_eq_true, if_false]
  split
  · rename_i unknown
    cases unknown.symm.trans known
  · rename_i other isOther
    cases isOther.symm.trans known
    rfl

theorem dispatchInference_leg {adopted : DelegationWorkflowState} (attempts : ℕ)
    {decision : ModelRoutingDecision} (awaited : Awaits w (.decision decision))
    (idle : adopted.inferenceIntentInFlight = false) (known : adopted.request.isSome)
    (result : { adopted with inferenceIntentInFlight := true } = dispatched w decision attempts) :
    (dispatchInference env adopted decision).IsLeg env nowNs w (.decision decision) := by
  obtain ⟨request, isRequest⟩ := Option.isSome_iff_exists.mp known
  rw [dispatchInference_eq idle isRequest, result]
  unfold StepResult.IsLeg
  rw [issueInference_workflow]
  exact .decided awaited (issueInference_issues ..)

theorem handleRoutingDecision_leg (coherent : Coherent w) (decision : ModelRoutingDecision) :
    (handleRoutingDecision env w decision).IsLeg env nowNs w (.decision decision) := by
  unfold handleRoutingDecision
  split
  · rename_i received
    -- the first decision
    obtain ⟨-, -, idle⟩ := coherent.received received
    rw [advance_declared (by rw [received]; decide)]
    exact dispatchInference_leg 1 (Or.inl received) idle coherent.known rfl
  · rename_i notReceived
    split
    · rename_i rerouted
      -- the decision after a retry or an escalation
      have idle := (coherent.routed rerouted.1).2
      rw [rerouted.2] at idle
      refine dispatchInference_leg (w.complianceAttempts + 1) (Or.inr rerouted) idle
        coherent.known ?_
      simp [dispatched, adoptDecision, rerouted.1]
    · rename_i notRerouted
      have idle : ¬ Awaits w (.decision decision) := by
        rintro (received | rerouted)
        · exact notReceived received
        · exact notRerouted rerouted
      split
      · rename_i underWay
        -- The decision is known, so its inference is in flight already.
        have inFlight : w.inferenceIntentInFlight = true := by
          rw [(coherent.routed underWay.1).2]
          exact Option.isSome_iff_ne_none.mpr underWay.2.1
        unfold dispatchInference
        rw [if_pos inFlight]
        exact .ignored idle
      · exact .ignored idle

/-! ## Escalation verdict -/

theorem escalationDecision_escalates {request : ModelEscalationDecisionRequest} {next : String}
    (escalates : escalationDecision request = .ok (.escalate next)) :
    request.nextTierName = some next := by
  unfold escalationDecision at escalates
  split at escalates
  · cases escalates
  · split at escalates
    · cases escalates
    · split at escalates
      · cases escalates
      · split at escalates
        · rename_i isNext
          cases escalates
          exact isNext
        · cases escalates
        · cases escalates

theorem resolveNextTier_reason {current taskType : String}
    {resolved : Option String × Option String}
    (found : resolveNextTier env current taskType = .ok resolved) :
    (∃ next, resolved = (some next, none) ∧
      nextEligibleTier env.routing current [] (some taskType) = .ok (some next)) ∨
    ∃ reason, resolved = (none, some reason) := by
  simp only [resolveNextTier, bind, Except.bind] at found
  match walked : nextEligibleTier env.routing current [] (some taskType) with
  | .error raised => simp [walked] at found
  | .ok (some next) =>
    simp only [walked, pure, Except.pure, Except.ok.injEq] at found
    exact Or.inl ⟨next, found.symm, rfl⟩
  | .ok none =>
    simp only [walked] at found
    match described : describeNoHigherTierAvailable env.routing current [] taskType with
    | .error raised => simp [described] at found
    | .ok reason =>
      simp only [described, pure, Except.pure, Except.ok.injEq] at found
      exact Or.inr ⟨reason, found.symm⟩

theorem decideEscalation_escalates {reason next : String}
    (escalates : decideEscalation env w request.taskType retryable reason = .ok (.escalate next)) :
    NextTierOf env w request next := by
  unfold decideEscalation at escalates
  match onTier : w.currentTierName with
  | none =>
    simp only [onTier] at escalates
    cases escalationDecision_escalates escalates
  | some current =>
    simp only [onTier] at escalates
    split at escalates
    · match found : resolveNextTier env current request.taskType with
      | .error raised => simp [found] at escalates
      | .ok resolved =>
        simp only [found] at escalates
        have isNext := escalationDecision_escalates escalates
        rcases resolveNextTier_reason found with ⟨other, rfl, walked⟩ | ⟨_, rfl⟩
        · cases isNext
          exact ⟨current, onTier, walked⟩
        · cases isNext
    · cases escalationDecision_escalates escalates

theorem decideEscalation_raises {taskType reason : String} {raised : WorkflowError}
    (raises : decideEscalation env w taskType retryable reason = .error raised) :
    ∃ routing, raised = .routing routing ∧ retryable = true ∧
      w.escalationCount < MAX_ESCALATION_ATTEMPTS ∧
      ∃ current, w.currentTierName = some current ∧
        resolveNextTier env current taskType = .error routing := by
  unfold decideEscalation at raises
  match onTier : w.currentTierName with
  | none =>
    simp only [onTier, escalationDecision] at raises
    split_ifs at raises
  | some current =>
    simp only [onTier] at raises
    split at raises
    · rename_i consulted
      simp only [Bool.and_eq_true, decide_eq_true_eq] at consulted
      match found : resolveNextTier env current taskType with
      | .error routing =>
        simp only [found, Except.error.injEq] at raises
        exact ⟨routing, raises.symm, consulted.1, consulted.2, current, rfl, found⟩
      | .ok resolved =>
        simp only [found, escalationDecision] at raises
        rcases resolveNextTier_reason found with ⟨next, rfl, _⟩ | ⟨_, rfl⟩ <;>
          split_ifs at raises
    · rename_i notConsulted
      simp only [escalationDecision] at raises
      split_ifs at raises with final exhausted
      simp only [Bool.not_eq_true', Bool.not_eq_false, not_le] at final exhausted
      simp [final, exhausted] at notConsulted

/-! ## Inference responses -/

theorem escalateTo_eq {nextTier : String}
    {proof : ModelLlmDelegationEscalationTriggeredEvent} {promptTokens completionTokens : ℕ}
    (active : w.state = .routed ∨ w.state = .gateEvaluated) :
    escalateTo w request nextTier proof costUsd promptTokens completionTokens =
      emitting (escalated w costUsd promptTokens completionTokens)
        [.routingIntent { payload := request, minTierName := some nextTier },
          .escalationTriggered proof] := by
  unfold escalateTo
  have leaves : DECLARED_TRANSITIONS.contains
      ((bankAttemptSpend w costUsd promptTokens completionTokens).state, .escalating) = true := by
    rcases active with state | state
    · exact (congrArg (fun s => DECLARED_TRANSITIONS.contains (s, .escalating)) state).trans rfl
    · exact (congrArg (fun s => DECLARED_TRANSITIONS.contains (s, .escalating)) state).trans rfl
  rw [advance_declared leaves]
  exact advance_declared rfl

/-- A re-route from a state that may re-enter `ROUTED`. -/
theorem advance_rerouted {promptTokens completionTokens : ℕ}
    {next : DelegationWorkflowState → StepResult}
    (active : w.state = .routed ∨ w.state = .gateEvaluated) :
    advance (resetInference (bankAttemptSpend w costUsd promptTokens completionTokens)) .routed
      next = next (rerouted w costUsd promptTokens completionTokens) := by
  refine advance_declared ?_
  rcases active with state | state
  · exact (congrArg (fun s => DECLARED_TRANSITIONS.contains (s, .routed)) state).trans rfl
  · exact (congrArg (fun s => DECLARED_TRANSITIONS.contains (s, .routed)) state).trans rfl

section

variable (noted : NotedFailure w failedBackendRef w')

include noted

theorem NotedFailure.state : w'.state = w.state := by
  rcases noted with rfl | ⟨tier, -, -, rfl⟩ <;> rfl

theorem NotedFailure.currentTierName : w'.currentTierName = w.currentTierName := by
  rcases noted with rfl | ⟨tier, -, -, rfl⟩ <;> rfl

theorem NotedFailure.escalationCount : w'.escalationCount = w.escalationCount := by
  rcases noted with rfl | ⟨tier, -, -, rfl⟩ <;> rfl

end

variable {request : ModelDelegationRequest} {decision : ModelRoutingDecision}
  {response : ModelInferenceResponseData}

section

variable (attempting : Attempting w request decision)

include attempting

theorem escalateOrFailInference_leg (failed : response.errorMessage ≠ "")
    (retries : retryable = true → shouldEscalateInferenceError env response.errorMessage = true ∧
      siblingLookup env w request decision.selectedBackendRef = .ok none)
    (noted : NotedFailure (inferenceFailed env nowNs w decision response)
      decision.selectedBackendRef w') :
    (escalateOrFailInference env nowNs w' request decision response retryable costUsd).IsLeg
      env nowNs w (.response response) := by
  have routed : w'.state = .routed := noted.state.trans attempting.routed
  unfold escalateOrFailInference
  split
  · rename_i raised raises
    obtain ⟨routing, rfl, isRetryable, within, current, onTier, unresolved⟩ :=
      decideEscalation_raises raises
    -- the ladder was consulted, and its lookup raised
    have lookup : LookupsRaise env w response :=
      ⟨request, decision, attempting, failed, (retries isRetryable).1,
        Or.inr ⟨(retries isRetryable).2, noted.escalationCount ▸ within, current, routing,
          noted.currentTierName.symm.trans onTier, unresolved⟩⟩
    exact .inferenceRaised attempting lookup noted
  · rename_i nextTier escalates
    rw [escalateTo_eq (Or.inl routed)]
    obtain ⟨current, onTier, walked⟩ := decideEscalation_escalates escalates
    exact .inferenceEscalated attempting failed noted
      ⟨current, noted.currentTierName.symm.trans onTier, walked⟩
  · rename_i reason terminates
    have declared : DECLARED_TRANSITIONS.contains
        ((recordInferenceResponse w' response).state, .failed) = true :=
      (congrArg (fun s => DECLARED_TRANSITIONS.contains (s, .failed)) routed).trans rfl
    rw [advance_declared declared]
    exact .inferenceEnded attempting failed noted

theorem handleInferenceError_leg (failed : response.errorMessage ≠ "") :
    (handleInferenceError env nowNs w request decision response).IsLeg env nowNs w
      (.response response) := by
  unfold handleInferenceError
  simp only []
  split
  · rename_i retryable
    unfold maybeRetrySiblingBackend
    split
    · rename_i noTier
      -- without a tier there is no sibling to look up
      have noLookup : siblingLookup env w request decision.selectedBackendRef = .ok none := by
        have untiered : w.currentTierName = none := noTier
        simp only [siblingLookup, untiered]
      exact escalateOrFailInference_leg attempting failed (fun _ => ⟨retryable, noLookup⟩)
        (Or.inl rfl)
    · rename_i tier onTier
      have tiered : w.currentTierName = some tier := onTier
      split
      · rename_i anonymous
        -- a response without a backend ref has none either
        have noLookup : siblingLookup env w request decision.selectedBackendRef = .ok none := by
          simp only [siblingLookup, tiered, anonymous, if_true]
        exact escalateOrFailInference_leg attempting failed (fun _ => ⟨retryable, noLookup⟩)
          (Or.inl rfl)
      · rename_i identified
        have nonempty : decision.selectedBackendRef ≠ "" := by simpa using identified
        have lookup : siblingLookup env w request decision.selectedBackendRef =
            siblingBackendAvailableInTier env.routing tier request.taskType
              (failedBackendsOf w tier decision.selectedBackendRef) := by
          simp only [siblingLookup, tiered]
          exact if_neg identified
        have noted : NotedFailure (inferenceFailed env nowNs w decision response)
            decision.selectedBackendRef
            (noteFailedBackend (inferenceFailed env nowNs w decision response) tier
              decision.selectedBackendRef) := Or.inr ⟨tier, onTier, nonempty, rfl⟩
        dsimp only
        split
        · rename_i raised raises
          exact .inferenceRaised attempting ⟨request, decision, attempting, failed, retryable,
            Or.inl ⟨raised, lookup.trans raises⟩⟩ noted
        · rename_i noSibling
          exact escalateOrFailInference_leg attempting failed
            (fun _ => ⟨retryable, lookup.trans noSibling⟩) noted
        · rename_i sibling available
          rw [advance_rerouted]
          · exact .siblingRetried attempting failed onTier nonempty available
          · exact Or.inl attempting.routed
  · rename_i notRetryable
    exact escalateOrFailInference_leg attempting failed
      (fun retryable => absurd retryable notRetryable) (Or.inl rfl)

theorem forwardToGate_leg (settled : ¬ RepairDue env w response) {tokens : ℕ} :
    (forwardToGate w request decision response tokens).IsLeg env nowNs w
      (.response response) := by
  unfold forwardToGate
  rw [advance_declared (by rw [attempting.routed]; decide)]
  exact .forwarded attempting settled

theorem repairDue_iff
    (succeeded : response.errorMessage = "") {schemaKey : String} {budget : ModelBudgetLimits}
    (schema : request.outputSchemaKey = some schemaKey)
    (limits : request.complianceBudget = some budget) :
    RepairDue env w response ↔ SchemaRejects env.compliance response.content schemaKey ∧
      w.accumulatedTokens + response.totalTokens ≤ budget.maxTokens := by
  constructor
  · rintro ⟨other, key, ceiling, known, -, isSchema, isLimit, rejects⟩
    cases attempting.known.symm.trans known
    cases schema.symm.trans isSchema
    cases limits.symm.trans isLimit
    exact rejects
  · intro rejects
    exact ⟨request, schemaKey, budget, attempting.known, succeeded, schema, limits, rejects⟩

theorem evaluateCompliance_leg
    (succeeded : response.errorMessage = "") {schemaKey : String} {budget : ModelBudgetLimits}
    (schema : request.outputSchemaKey = some schemaKey)
    (limits : request.complianceBudget = some budget) :
    (evaluateCompliance env w request decision schemaKey budget response).IsLeg env nowNs w
      (.response response) := by
  have due := @repairDue_iff env w request decision response attempting succeeded schemaKey
    budget schema limits
  unfold evaluateCompliance
  split
  · rename_i raised raises
    exact .complianceRaised attempting fun isDue => evaluate_raises raises (due.mp isDue).1
  · rename_i result evaluated
    obtain ⟨tokens, asks⟩ := evaluate_spec evaluated
    split
    · rename_i asksRepair
      rw [advance_declared (by rw [attempting.routed]; decide), tokens]
      unfold StepResult.IsLeg
      rw [issueInference_workflow]
      have issued : IssuesInference (issueInference env
          (repaired w (w.accumulatedTokens + response.totalTokens)) request decision
          result.repairPrompt).outputs := issueInference_issues ..
      have leg : Leg env nowNs w _ _ _ :=
        .repairAsked attempting (due.mpr (asks.mp asksRepair)) issued
      have stays : { repaired w (w.accumulatedTokens + response.totalTokens) with
          state := .routed } = repaired w (w.accumulatedTokens + response.totalTokens) :=
        congrArg (fun s => { repaired w (w.accumulatedTokens + response.totalTokens) with
          state := s }) attempting.routed.symm
      exact stays ▸ leg
    · rename_i settled
      exact forwardToGate_leg attempting fun isDue => settled (asks.mpr (due.mp isDue))

end

theorem handleInferenceResponse_leg (coherent : Coherent w)
    (response : ModelInferenceResponseData) :
    (handleInferenceResponse env nowNs w response).IsLeg env nowNs w (.response response) := by
  unfold handleInferenceResponse
  split
  · rename_i notRouted
    exact .ignored fun awaits => notRouted awaits.1
  · rename_i routed
    have isRouted : w.state = .routed := not_not.mp routed
    split
    · rename_i unknown
      -- a coherent workflow knows its request
      have known := coherent.known
      simp [unknown] at known
    · rename_i undecided
      exact .ignored fun awaits => awaits.2 undecided
    · rename_i request decision known decided
      have attempting : Attempting w request decision := ⟨isRouted, known, decided⟩
      split
      · rename_i failed
        exact handleInferenceError_leg attempting failed
      · rename_i succeeded
        have noError : response.errorMessage = "" := not_not.mp succeeded
        split
        · rename_i noSchema
          refine forwardToGate_leg attempting ?_
          rintro ⟨other, key, budget, isKnown, -, schema, -⟩
          cases known.symm.trans isKnown
          cases noSchema.symm.trans schema
        · rename_i schemaKey schema unlimited
          -- a request with a schema carries a budget
          have limits := request.schema_budget (schema ▸ rfl)
          simp [unlimited] at limits
        · rename_i schemaKey budget schema limits
          exact evaluateCompliance_leg attempting noError schema limits

/-! ## Gate results -/

theorem OpenedRetries.state (opened : OpenedRetries w w') : w'.state = w.state := by
  rcases opened with rfl | ⟨tier, -, rfl⟩ <;> rfl

theorem OpenedRetries.currentTierName (opened : OpenedRetries w w') :
    w'.currentTierName = w.currentTierName := by
  rcases opened with rfl | ⟨tier, -, rfl⟩ <;> rfl

theorem gateSubject?_eq_some {subject : GateSubject} :
    gateSubject? w = some subject ↔ w.request = some subject.request ∧
      w.routingDecision = some subject.decision ∧ w.inferenceContent = some subject.content ∧
      w.inferenceModelUsed = some subject.modelUsed := by
  unfold gateSubject?
  constructor
  · intro found
    simp only [Option.bind_eq_bind, Option.bind_eq_some_iff, Option.pure_def,
      Option.some.injEq] at found
    obtain ⟨request, known, decision, decided, content, drafted, model, modelled, rfl⟩ := found
    exact ⟨known, decided, drafted, modelled⟩
  · rintro ⟨known, decided, drafted, modelled⟩
    simp [known, decided, drafted, modelled]

variable {subject : GateSubject} {result : ModelQualityGateResult}
  {authority : RequiredBarAuthority}

theorem escalateOrFailGate_leg (atGate : AtGate w subject)
    (opened : OpenedRetries (draftRejected env nowNs w subject result authority) w')
    (served : w'.inferencePromptTokens = w.inferencePromptTokens ∧
      w'.inferenceCompletionTokens = w.inferenceCompletionTokens) :
    (escalateOrFailGate env nowNs w' subject result authority costUsd).IsLeg env nowNs w
      (.gateResult result) := by
  have evaluated : w'.state = .gateEvaluated := opened.state
  unfold escalateOrFailGate
  dsimp only
  split
  · rename_i raised raises
    obtain ⟨routing, rfl, -⟩ := decideEscalation_raises raises
    exact .gateRaised atGate opened
  · rename_i nextTier escalates
    rw [escalateTo_eq (Or.inr evaluated), served.1, served.2]
    obtain ⟨current, onTier, walked⟩ := decideEscalation_escalates escalates
    exact .gateEscalated atGate opened ⟨current, opened.currentTierName.symm.trans onTier, walked⟩
  · rw [advance_declared (by rw [evaluated]; decide)]
    exact .gateEnded atGate rfl (by simp) (Or.inr ⟨authority, opened⟩)

theorem rejectGateResult_leg (atGate : AtGate w subject) :
    (rejectGateResult env nowNs (gateEvaluated w result) subject result authority).IsLeg env nowNs w
      (.gateResult result) := by
  have untouched {costUsd : ℚ} :
      (escalateOrFailGate env nowNs (draftRejected env nowNs w subject result authority) subject
        result authority costUsd).IsLeg env nowNs w (.gateResult result) :=
    escalateOrFailGate_leg atGate (Or.inl rfl) ⟨rfl, rfl⟩
  unfold rejectGateResult
  dsimp only
  unfold maybeRetryLocal
  split
  · exact untouched
  · rename_i tier onTier
    have opened : OpenedRetries (draftRejected env nowNs w subject result authority)
        (openLocalRetryBudget (draftRejected env nowNs w subject result authority) tier) :=
      Or.inr ⟨tier, onTier, rfl⟩
    split
    · exact untouched
    · dsimp only
      split
      · exact .gateRaised atGate opened
      · rename_i maxRetries budget
        split
        · exact escalateOrFailGate_leg atGate opened ⟨rfl, rfl⟩
        · rename_i notSpent
          rw [advance_rerouted]
          · exact .localRetried atGate onTier rfl budget (not_le.mp notSpent)
          · exact Or.inr rfl

theorem settleGateResult_leg (atGate : AtGate w subject) :
    (settleGateResult env nowNs (gateEvaluated w result) subject result).IsLeg env nowNs w
      (.gateResult result) := by
  unfold settleGateResult
  split
  · exact .barOverflowed atGate
  · dsimp only
    rw [advance_declared rfl]
    exact .gateEnded atGate rfl (by simp) (Or.inl rfl)
  · dsimp only
    split
    · rw [advance_declared rfl]
      exact .gateEnded atGate rfl (by simp) (Or.inl rfl)
    · exact rejectGateResult_leg atGate

theorem handleGateResult_leg (coherent : Coherent w) (result : ModelQualityGateResult) :
    (handleGateResult env nowNs w result).IsLeg env nowNs w (.gateResult result) := by
  unfold handleGateResult
  split
  · rename_i notCompleted
    exact .ignored notCompleted
  · rename_i completed
    have isCompleted : w.state = .inferenceCompleted := not_not.mp completed
    rw [advance_declared (by rw [isCompleted]; decide)]
    dsimp only
    obtain ⟨subject, found⟩ := Option.isSome_iff_exists.mp (coherent.completed isCompleted)
    obtain ⟨known, decided, content, model⟩ := gateSubject?_eq_some.mp found
    have drafted : gateSubject? (gateEvaluated w result) = some subject := found
    split
    · rename_i missing
      cases missing.symm.trans drafted
    · rename_i other isOther
      cases isOther.symm.trans drafted
      exact settleGateResult_leg ⟨isCompleted, known, decided, content, model⟩

/-! ## Remote lifecycle -/

theorem nextStateFromLifecycle_terminal {kind : AgentTaskLifecycleType}
    (ends : nextStateFromLifecycle kind ≠ .executing) :
    (nextStateFromLifecycle kind).isTerminal = true := by
  cases kind <;> first | rfl | exact absurd rfl ends

theorem handleAgentTaskLifecycle_leg (coherent : Coherent w)
    (event : ModelAgentTaskLifecycleEvent) :
    (handleAgentTaskLifecycle env nowNs w event).IsLeg env nowNs w (.lifecycle event) := by
  unfold handleAgentTaskLifecycle
  dsimp only
  split
  · split
    · rename_i routed
      rw [advance_declared (by rw [routed]; decide)]
      exact .progressed routed
    · exact .ignored id
  · rename_i ends
    split
    · exact .ignored id
    · rename_i active
      have isActive : w.state = .routed ∨ w.state = .executing := by tauto
      have terminal := nextStateFromLifecycle_terminal ends
      have declared : DECLARED_TRANSITIONS.contains
          (w.state, nextStateFromLifecycle event.lifecycleType) = true := by
        revert terminal
        generalize nextStateFromLifecycle event.lifecycleType = target
        rcases isActive with state | state <;> rw [state] <;> cases target <;> decide
      obtain ⟨request, known⟩ := Option.isSome_iff_exists.mp coherent.known
      rw [advance_declared declared]
      unfold endByLifecycle
      split
      · rename_i unknown
        cases unknown.symm.trans known
      · exact .lifecycleEnded isActive terminal (by simp)

theorem handleExisting_leg (coherent : Coherent w) (event : Event) :
    Leg env nowNs w event (handleExisting env nowNs w event).workflow
      (handleExisting env nowNs w event).outputs := by
  cases event with
  | request payload => exact handleDuplicateRequest_leg payload
  | command payload => exact handleInvocationCommand_leg payload
  | decision payload => exact handleRoutingDecision_leg coherent payload
  | response payload => exact handleInferenceResponse_leg coherent payload
  | gateResult payload => exact handleGateResult_leg coherent payload
  | lifecycle payload => exact handleAgentTaskLifecycle_leg coherent payload

end OmniMarket.Delegation
