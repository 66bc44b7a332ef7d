import OmniMarket.Lib.PyValue

/-!
# Wire models of the delegation pipeline

The payloads that the routing reducer, the delegation orchestrator and the
quality gate exchange. A field bound that the wire model validates is a proof
field here, so a payload outside the bound cannot be built.
-/

namespace OmniMarket

/-- A UUID, by its integer value. -/
abbrev UUID := ℕ

theorem noCost_nonneg : (0 : ℚ) ≤ 0 := le_refl 0

/-! ## Request -/

inductive QualityContractMode where
  | extendTaskClass
  | replaceTaskClass
deriving DecidableEq

/-- Ceilings for the compliance loop. Every limit is positive. -/
structure ModelBudgetLimits where
  maxTokens : ℕ
  maxCostUsd : ℚ
  maxTimeS : ℚ
  maxTokens_pos : 0 < maxTokens
  maxCostUsd_pos : 0 < maxCostUsd
  maxTimeS_pos : 0 < maxTimeS
deriving DecidableEq

structure ModelDelegationRequest where
  prompt : String
  taskType : String
  correlationId : UUID
  contextPack : String := ""
  contextPackHash : String := ""
  outputSchemaKey : Option String := none
  complianceBudget : Option ModelBudgetLimits := none
  qualityContractMode : QualityContractMode := .extendTaskClass
  acceptanceCriteria : List String := []
  tenantId : Option String := none
  /-- The validator of the wire model: a schema key needs a budget. -/
  schema_budget : outputSchemaKey.isSome → complianceBudget.isSome := by simp
deriving DecidableEq

/-! ## Routing -/

structure ModelRoutingDecision where
  correlationId : UUID
  taskType : String
  selectedModel : String
  selectedBackendId : UUID
  endpointUrl : String
  apiKeyRef : Option String := none
  extraHeaders : Option (List (String × String)) := none
  costTier : String
  maxContextTokens : ℤ
  timeoutMs : ℕ := 30000
  maxTokens : ℕ
  systemPrompt : String
  rationale : String
  dodDeterministic : List String := []
  dodHeuristic : List String := []
  tierName : String := ""
  selectedBackendRef : String := ""
  timeoutMs_bounds : 100 ≤ timeoutMs ∧ timeoutMs ≤ 600000 := by decide
  maxTokens_pos : 1 ≤ maxTokens := by decide
deriving DecidableEq

structure ModelRoutingIntent where
  payload : ModelDelegationRequest
  minTierName : Option String := none
  excludedBackendRefs : List String := []
deriving DecidableEq

/-- A typed invocation command of the routing reducer. -/
structure ModelInvocationCommand where
  correlationId : UUID
  targetRef : String
deriving DecidableEq

structure ModelInferenceIntent where
  baseUrl : String
  model : String
  systemPrompt : String
  prompt : String
  maxTokens : ℕ
  temperature : ℚ
  timeoutSeconds : ℚ
  correlationId : UUID
  apiKeyRef : Option String
  extraHeaders : Option (List (String × String))
  providerRequestOptions : PyDict
  tenantId : Option String

structure ModelInferenceResponseData where
  correlationId : UUID
  content : String
  modelUsed : String
  latencyMs : ℤ
  promptTokens : ℕ
  completionTokens : ℕ
  totalTokens : ℕ
  llmCallId : String := ""
  errorMessage : String := ""

/-! ## Quality gate -/

inductive QualityGateCategory where
  | pass
  | failDeterministic
  | failHeuristic
deriving DecidableEq

/-- A verifiable class cleared the deterministic floor without a judge score. -/
def SCORE_SOURCE_DETERMINISTIC_ACCEPTANCE : String := "deterministic_acceptance"

def SCORE_SOURCE_COMBINED : String := "combined"

structure ModelQualityGateInput where
  correlationId : UUID
  taskType : String
  llmResponseContent : String
  expectedMarkers : List String := []
  minResponseLength : ℤ := 60
  dodDeterministic : List String := []
  dodHeuristic : List String := []
  qualityContractMode : QualityContractMode := .extendTaskClass
  acceptanceCriteria : List String := []

theorem noScore_bounds : ∀ score ∈ (none : Option ℚ), 0 ≤ score ∧ score ≤ 1 := nofun

structure ModelQualityGateResult where
  correlationId : UUID
  passed : Bool
  failCategory : QualityGateCategory := .pass
  qualityScore : PyFloat
  failureReasons : List String := []
  fallbackRecommended : Bool := false
  scoreSource : String := ""
  acceptanceVersion : String := ""
  corpusHash : String := ""
  validatorOrArtifactHash : String := ""
  acceptanceCommand : String := ""
  actualScore : Option ℚ := none
  pass_ : Option Bool := none
  failureCases : List String := []
  skippedChecks : List String := []
  actualScore_bounds : ∀ score ∈ actualScore, 0 ≤ score ∧ score ≤ 1 := by
    exact noScore_bounds
deriving DecidableEq

inductive DelegationFailureClass where
  | modelUnavailable
  | rateLimited
  | timeout
  | invalidJson
  | qualityGateFailed
  | contextTooLarge
  | pricingUnknown
  | providerAuthFailed
  | unknown
deriving DecidableEq

/-! ## Remote agents -/

/-- The lifecycle kinds the orchestrator tells apart; `other` is any further
member of the enumeration, by its value. -/
inductive AgentTaskLifecycleType where
  | submitted
  | accepted
  | progress
  | artifact
  | completed
  | other (value : String)

def AgentTaskLifecycleType.value : AgentTaskLifecycleType → String
  | .submitted => "submitted"
  | .accepted => "accepted"
  | .progress => "progress"
  | .artifact => "artifact"
  | .completed => "completed"
  | .other value => value

structure ModelAgentTaskLifecycleEvent where
  correlationId : UUID
  lifecycleType : AgentTaskLifecycleType
  artifact : Option PyDict := none
  error : Option String := none
  remoteTaskHandle : Option String := none

end OmniMarket
