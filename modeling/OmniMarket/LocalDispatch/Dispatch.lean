import OmniMarket.Routing.Escalation
import OmniMarket.Delegation.Limits
import OmniMarket.Lib.Raising
import Mathlib.Algebra.BigOperators.Group.List.Basic
import Mathlib.Data.List.Dedup

/-!
# The bus-less local dispatch port

`dispatch` resolves a backend, runs an attempt, and on failure re-drafts on a
free tier or escalates up the task's tier order. The outcome of each attempt is
an input: the model call and the quality gate are effects of the port.
-/

namespace OmniMarket.LocalDispatch

/-! ## Attempts -/

/-- A resolved backend, as far as the escalation loop reads it. -/
structure ModelResolvedDelegationBackend where
  backendId : String
  modelId : String
  endpointRef : String
  tier : String := "unknown"

/-- The call result of the effect handler, as far as the loop reads it. -/
structure CallResult where
  content : Option String := none
  failureClass : Option DelegationFailureClass := none
  errorMessage : Option String := none
  actualCostUsd : ℚ := 0
  savingsUsd : ℚ := 0
  latencyMs : ℤ := 0
  tokensIn : ℕ := 0
  tokensOut : ℕ := 0

/-- What one attempt of the port produced. -/
inductive AttemptOutcome where
  /-- The dispatch deadline expired before the call returned. -/
  | timedOut (message : String) (result : CallResult)
  /-- The call returned a failure. -/
  | transportFailed (result : CallResult)
  /-- The call succeeded and the quality gate judged its content. -/
  | gated (result : CallResult) (gate : ModelQualityGateResult)

def nonRetryableTransportFailureClasses : List DelegationFailureClass :=
  [.providerAuthFailed, .invalidJson]

def isRetryableTransportFailure : Option DelegationFailureClass → Bool
  | none => true
  | some failureClass => !nonRetryableTransportFailureClasses.contains failureClass

structure AttemptRecord where
  tier : String
  backendId : String
  modelId : String
  qualityGatePassed : Bool
  qualityScore : Option PyFloat
  costUsd : ℚ
  failureClass : Option DelegationFailureClass := none
  errorMessage : Option String := none
deriving DecidableEq

/-! ## The environment of the port -/

structure LocalEnv where
  routing : RoutingEnv
  parseFloat : ParseFloat
  /-- `resolve_delegation_backend(task_type, backend_id=...)`; an error is its
  `RuntimeError`. It reads the endpoints of the local overlay, not those of the
  routing reducer. -/
  resolveDelegationBackend : String → Option String → Except String ModelResolvedDelegationBackend
  roiOverlayReader : String → Option (List String)

inductive DispatchError where
  | routing (raised : RoutingError)
  | requiredBar (raised : RequiredBarError)
  /-- No backend resolves at all. -/
  | runtime (message : String)

/-- Acceptance under the task-class required bar. Without a declared bar the
reducer verdict decides. -/
def isQualityAccepted (parseFloat : ParseFloat) (env : RoutingEnv) (taskType : String)
    (result : ModelQualityGateResult) : Except RequiredBarError Bool :=
  if result.failCategory = .failDeterministic then .ok false
  else if result.passed && result.scoreSource == SCORE_SOURCE_DETERMINISTIC_ACCEPTANCE then
    .ok true
  else
    match resolveRequiredBarAuthority parseFloat env taskType with
    | .error (.authority _) => .ok result.passed
    | .error .overflow => .error .overflow
    | .ok authority =>
      if scoreBelowBar result.qualityScore authority then .ok false else .ok result.passed

def DEFAULT_MAX_ESCALATIONS : ℕ := 2

def maxEscalations (env : LocalEnv) (taskType : String) : ℕ :=
  (resolveTaskClassMaxEscalations env.routing taskType).getD DEFAULT_MAX_ESCALATIONS

def resolveInitialBackend (env : LocalEnv) (taskType : String) :
    Except DispatchError ModelResolvedDelegationBackend := do
  let untargeted := (env.resolveDelegationBackend taskType none).mapError DispatchError.runtime
  let firstTier ← (firstEligibleTier env.routing taskType
    (env.roiOverlayReader taskType)).mapError DispatchError.routing
  match firstTier with
  | none => untargeted
  | some tier =>
    let backendId ← (backendIdForTier env.routing tier taskType).mapError DispatchError.routing
    match backendId with
    | none => untargeted
    | some backendId =>
      match env.resolveDelegationBackend taskType (some backendId) with
      | .ok backend => .ok backend
      | .error _ => untargeted

def resolveNextBackend (env : LocalEnv) (currentTier taskType : String)
    (excludedTiers : List String) : Except RoutingError (Option ModelResolvedDelegationBackend) :=
  do
    let nextTier ← nextEligibleTier env.routing currentTier excludedTiers (some taskType)
      (env.roiOverlayReader taskType)
    match nextTier with
    | none => .ok none
    | some tier =>
      let backendId ← backendIdForTier env.routing tier taskType
      match backendId with
      | none => .ok none
      | some backendId =>
        match env.resolveDelegationBackend taskType (some backendId) with
        | .ok backend => .ok (some backend)
        | .error _ => .ok none

/-! ## The loop -/

structure DispatchState where
  backend : ModelResolvedDelegationBackend
  excludedTiers : List String := []
  cumulativeCostUsd : ℚ := 0
  cumulativeSavingsUsd : ℚ := 0
  attempts : List AttemptRecord := []
  escalationCount : ℕ := 0
  bestContent : String := ""
  bestContentScore : PyFloat := .finite (-1)
  /-- Re-drafts already issued on each free tier. -/
  localRetryCounts : String → ℕ := fun _ => 0

def chargedTier (env : LocalEnv) (backendId backendTier : String) : String :=
  match tierForBackend env.routing backendId with
  | some tier => if tier.isEmpty then backendTier else tier
  | none => backendTier

inductive DispatchStatus where
  | completed
  | failed
deriving DecidableEq

/-- The payload `dispatch` returns. -/
structure DispatchResult where
  status : DispatchStatus
  content : String
  delegatedTo : String
  modelName : String
  errorMessage : Option String := none
  qualityGatePassed : Option Bool := none
  qualityScore : Option PyFloat := none
  qualityGatesFailed : List String := []
  latencyMs : ℤ := 0
  inputTokens : ℕ := 0
  outputTokens : ℕ := 0
  escalationCount : ℕ
  costUsd : ℚ
  attempts : List AttemptRecord
deriving DecidableEq

abbrev AttemptStep := DispatchState ⊕ DispatchResult

section

variable (env : LocalEnv)

section

variable (taskType : String)

/-- Escalate to the next backend, or fail with `exhausted`. -/
def escalateOr (currentTier : String) (retryable : Bool) (state : DispatchState)
    (exhausted : DispatchState → DispatchResult) :
    Except DispatchError AttemptStep :=
  let state := { state with excludedTiers := currentTier :: state.excludedTiers }
  if retryable && decide (state.escalationCount < maxEscalations env taskType) then
    match resolveNextBackend env currentTier taskType state.excludedTiers with
    | .error raised => .error (.routing raised)
    | .ok none => .ok (.inr (exhausted state))
    | .ok (some backend) =>
      .ok (.inl { state with backend, escalationCount := state.escalationCount + 1 })
  else .ok (.inr (exhausted state))

def transportFailureStep (state : DispatchState) (failureClass : Option DelegationFailureClass)
    (message : String) (result : CallResult) :
    Except DispatchError AttemptStep :=
  let backend := state.backend
  let record : AttemptRecord :=
    { tier := backend.tier, backendId := backend.backendId, modelId := backend.modelId,
      qualityGatePassed := false, qualityScore := none, costUsd := result.actualCostUsd,
      failureClass, errorMessage := some message }
  let banked :=
    { state with
      cumulativeCostUsd := state.cumulativeCostUsd + result.actualCostUsd
      cumulativeSavingsUsd := state.cumulativeSavingsUsd + result.savingsUsd
      attempts := state.attempts ++ [record] }
  escalateOr env taskType (chargedTier env backend.backendId backend.tier)
    (isRetryableTransportFailure failureClass) banked fun final =>
      { status := .failed, content := final.bestContent, errorMessage := some message,
        delegatedTo := backend.endpointRef, modelName := backend.modelId,
        escalationCount := final.escalationCount, costUsd := final.cumulativeCostUsd,
        attempts := final.attempts }

def gatedResult (state : DispatchState) (status : DispatchStatus) (content : String)
    (result : CallResult) (gate : ModelQualityGateResult) : DispatchResult where
  status := status
  content := content
  delegatedTo := state.backend.endpointRef
  modelName := state.backend.modelId
  qualityGatePassed := some (status == .completed)
  qualityScore := some gate.qualityScore
  qualityGatesFailed := gate.failureReasons
  latencyMs := result.latencyMs
  inputTokens := result.tokensIn
  outputTokens := result.tokensOut
  escalationCount := state.escalationCount
  costUsd := state.cumulativeCostUsd
  attempts := state.attempts

def bankGatedAttempt (state : DispatchState) (accepted : Bool) (result : CallResult)
    (gate : ModelQualityGateResult) : DispatchState :=
  let content := result.content.getD ""
  let better := !content.isEmpty && PyFloat.lt state.bestContentScore gate.qualityScore
  let record : AttemptRecord :=
    { tier := state.backend.tier, backendId := state.backend.backendId,
      modelId := state.backend.modelId, qualityGatePassed := accepted,
      qualityScore := some gate.qualityScore, costUsd := result.actualCostUsd }
  { state with
    cumulativeCostUsd := state.cumulativeCostUsd + result.actualCostUsd
    cumulativeSavingsUsd := state.cumulativeSavingsUsd + result.savingsUsd
    attempts := state.attempts ++ [record]
    bestContent := if better then content else state.bestContent
    bestContentScore := if better then gate.qualityScore else state.bestContentScore }

def gatedStep (state : DispatchState) (result : CallResult) (gate : ModelQualityGateResult) :
    Except DispatchError AttemptStep :=
  match isQualityAccepted env.parseFloat env.routing taskType gate with
  | .error raised => .error (.requiredBar raised)
  | .ok accepted =>
    let banked := bankGatedAttempt state accepted result gate
    if accepted then
      .ok (.inr (gatedResult banked .completed (result.content.getD "") result gate))
    else
      let currentTier := chargedTier env state.backend.backendId state.backend.tier
      let escalate := escalateOr env taskType currentTier true banked fun final =>
        gatedResult final .failed
          (if final.bestContent.isEmpty then result.content.getD "" else final.bestContent)
          result gate
      if isFreeTier env.routing currentTier then
        match tierMaxRetries env.routing currentTier with
        | .error raised => .error (.routing raised)
        | .ok maxRetries =>
          if (banked.localRetryCounts currentTier : ℤ) < maxRetries then
            .ok (.inl { banked with
              localRetryCounts := Function.update banked.localRetryCounts currentTier
                (banked.localRetryCounts currentTier + 1) })
          else escalate
      else escalate

/-- The loop body of `dispatch` on one attempt outcome. -/
def attemptStep (state : DispatchState) :
    AttemptOutcome → Except DispatchError AttemptStep
  | .timedOut message result =>
    transportFailureStep env taskType state (some .timeout) message result
  | .transportFailed result =>
    let message := match result.errorMessage with
      | some message => if message.isEmpty then "delegation call failed" else message
      | none => "delegation call failed"
    transportFailureStep env taskType state result.failureClass message result
  | .gated result gate => gatedStep env taskType state result gate

/-- The retry budget of a declared tier, zero for an unknown one. -/
def retriesOf (env : RoutingEnv) (tierName : String) : ℕ :=
  match tierMaxRetries env tierName with
  | .ok maxRetries => maxRetries.toNat
  | .error _ => 0

/-- Iterations that the escalation and the retry budgets leave room for. -/
def dispatchFuel : ℕ :=
  maxEscalations env taskType +
    ((env.routing.config.tiers.map (·.name)).dedup.map (retriesOf env.routing)).sum + 1

/-- `dispatch` without a backend pin: the number and the state of the last attempt,
and the returned payload. -/
def dispatch (outcomes : ℕ → AttemptOutcome) :
    Except DispatchError (Option (ℕ × DispatchState × DispatchResult)) :=
  match resolveInitialBackend env taskType with
  | .error raised => .error raised
  | .ok backend =>
    Loop.run (fun index state => attemptStep env taskType state (outcomes index))
      (dispatchFuel env taskType) 0 { backend }

end

end

end OmniMarket.LocalDispatch
