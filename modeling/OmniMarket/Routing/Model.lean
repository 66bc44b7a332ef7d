import OmniMarket.Wire
import OmniMarket.Lib.PyText

/-!
# Routing configuration

The routing tiers, the resolved inference backends and the task-class contract
that the routing reducer reads, and the errors it raises.
-/

namespace OmniMarket

/-! ## Tiers -/

inductive TierCostType where
  | freeLocal
  | metered
  | budgeted
deriving DecidableEq

@[ext]
structure ModelTierCost where
  costType : TierCostType
  ratePer1kUsd : ℚ := 0
  overageRatePer1kUsd : ℚ := 0
  rate_nonneg : 0 ≤ ratePer1kUsd := by decide
  overage_nonneg : 0 ≤ overageRatePer1kUsd := by decide

instance : DecidableEq ModelTierCost := fun _ _ => decidable_of_iff _ ModelTierCost.ext_iff.symm

structure ModelTierModel where
  id : String
  backendRef : String
  maxContextTokens : ℤ
  useFor : List String := []
  fastPathThresholdTokens : Option ℤ := none
deriving DecidableEq

structure ModelRoutingTier where
  name : String
  models : List ModelTierModel
  maxRetries : ℤ := 0
  costPer1kTokens : PyFloat := .finite 0
  cost : Option ModelTierCost := none
deriving DecidableEq

structure ModelDelegationConfig where
  tiers : List ModelRoutingTier

/-! ## Backends -/

/-- Resolved backend from the bifrost contract plus endpoint overlay. -/
@[ext]
structure BifrostBackendRef where
  endpointUrl : String
  modelName : String
  timeoutMs : ℕ
  maxTokens : ℕ
  apiKeyRef : Option String := none
  extraHeaders : Option (List (String × String)) := none
  apiKeyEnv : Option String := none
  timeoutMs_bounds : 100 ≤ timeoutMs ∧ timeoutMs ≤ 600000 := by decide
  maxTokens_pos : 1 ≤ maxTokens := by decide

instance : DecidableEq BifrostBackendRef := fun _ _ => decidable_of_iff _ BifrostBackendRef.ext_iff.symm

/-- Backends by `backend_id`. -/
abbrev BifrostBackends := List (String × BifrostBackendRef)

inductive RoutingError where
  /-- The bifrost contract or its overlay could not be loaded. -/
  | bifrostConfiguration (message : String)
  /-- A task-class `tier_order` names a tier the configuration lacks. -/
  | unknownTierInOrder (tierName : PyValue) (knownTiers : List String)
  | noConfiguredEndpoint (correlationId : UUID) (taskType : String)
  /-- `ValueError` of a lookup by tier name. -/
  | tierNotDeclared (tierName : String) (knownTiers : List String)
  /-- An integer of the contract does not fit a double. -/
  | overflow

def RoutingError.message (unicode : UnicodeTable) : RoutingError → String
  | .bifrostConfiguration message => message
  | .unknownTierInOrder _ _ =>
    "task-class escalation_policy.tier_order references unknown routing tier"
  | .noConfiguredEndpoint _ taskType =>
    s!"No tier has a configured endpoint for task_type='{taskType}'. " ++
    "Populate endpoint_url fields in bifrost_overrides.yaml, " ++
    "or set BIFROST_OVERLAY_PATH to an overlay with endpoint_url fields."
  | .tierNotDeclared tierName knownTiers =>
    "tier " ++ PyText.reprString unicode tierName ++
    " is not declared in routing_tiers.yaml; known tiers: " ++
    PyText.reprList unicode knownTiers
  | .overflow => "int too large to convert to float"

/-! ## Environment -/

/-- What the routing reducer reads: the parsed configuration, the loaded
contracts, the secret lookup and the process environment. -/
structure RoutingEnv where
  /-- `_get_config()`. -/
  config : ModelDelegationConfig
  /-- `_get_task_class_contract()`. -/
  taskClassContract : Option PyDict
  /-- `_load_bifrost_endpoints()`. -/
  bifrostEndpoints : Except RoutingError BifrostBackends
  /-- `api_key_ref_available(ref, env_var_fallback)`. -/
  apiKeyRefAvailable : Option String → Option String → Bool
  /-- The value of `ONEX_DELEGATION_ALLOW_PAID`, empty when unset. -/
  allowPaidEnv : String
  /-- `uuid5` over the backend namespace. -/
  backendIdForModel : String → UUID
  unicode : UnicodeTable

/-!
# Task-class contract

Lookups in the task-class contract: the entry of a task class, its model
override, its tier order, its price ceiling and its definition of done.
-/

/-- `float(raw)` of a number; the ceiling is read with it. -/
def numberAsFloat : PyValue → Option (Except RoutingError PyFloat)
  | .bool value => some (.ok (.finite (if value then 1 else 0)))
  | .int value =>
    match PyFloat.ofInt value with
    | some converted => some (.ok converted)
    | none => some (.error .overflow)
  | .float value => some (.ok value)
  | _ => none

/-- The contract-declared model ref for `taskType`: the override map first, then
the default. Empty and non-string values count as absent. -/
def getContractModelRef (contract : Option PyDict) (taskType : String) : Option String :=
  match contract with
  | none => none
  | some raw =>
    let declared (value : PyValue) : Option String :=
      value.asStr?.filter (fun ref => !ref.isEmpty)
    let override := do
      let overrides ← (raw.get "task_model_overrides").asDict?
      declared (overrides.get taskType)
    override <|> declared (raw.get "default_task_model_ref")

def taskClassEntry (contract : Option PyDict) (taskType : String) : Option PyDict := do
  let raw ← contract
  let taskClasses ← (raw.get "task_classes").asDict?
  (taskClasses.get taskType).asDict?

def CLOUD_BLOCKED_POLICY : String := "blocked"

def LOCAL_TIERS : List String := ["local"]

def ALLOW_PAID_FALSY : List String := ["0", "false", "no", "off"]

def paidEscalationAllowed (env : RoutingEnv) : Bool :=
  let optOut := env.unicode.lower (PyText.strip env.allowPaidEnv.toList)
  !(ALLOW_PAID_FALSY.map String.toList).contains optOut

/-- `policy == "blocked"` for the raw policy value. -/
def policyBlocksCloud : PyValue → Bool
  | .str policy => policy == CLOUD_BLOCKED_POLICY
  | _ => false

/-- Whether the tier costs more than the contract ceiling, up to a small
epsilon. A ceiling that is not a number is ignored. -/
def aboveCeiling (tier : ModelRoutingTier) (ceiling : PyValue) : Except RoutingError Bool :=
  match numberAsFloat ceiling with
  | none => .ok false
  | some (.error raised) => .error raised
  | some (.ok limit) =>
    .ok (PyFloat.lt (limit.add (.finite (1 / 10 ^ 9))) tier.costPer1kTokens)

def tierAllowedByContract (env : RoutingEnv) (tier : ModelRoutingTier)
    (entry : Option PyDict) : Except RoutingError Bool :=
  if PyFloat.lt (.finite 0) tier.costPer1kTokens && !paidEscalationAllowed env then .ok false
  else
    match entry with
    -- An undeclared task class only runs on the local tiers.
    | none => .ok (LOCAL_TIERS.contains tier.name)
    | some entry =>
      if policyBlocksCloud (entry.get "cloud_routing_policy") &&
          !LOCAL_TIERS.contains tier.name then .ok false
      else
        match aboveCeiling tier (entry.get "pricing_ceiling_per_1k_tokens") with
        | .error raised => .error raised
        | .ok above => .ok !above

/-- `{t.name: t for t in tiers}[name]`: the last tier of a name wins. -/
def tierByName (tiers : List ModelRoutingTier) (name : String) : Option ModelRoutingTier :=
  tiers.reverse.find? (fun tier => tier.name == name)

/-- The non-empty `escalation_policy.tier_order` list of an entry. -/
def declaredTierOrder (entry : PyDict) : Option (List PyValue) := do
  let escalation ← (entry.get "escalation_policy").asDict?
  let order ← (escalation.get "tier_order").asList?
  if order.isEmpty then none else some order

/-- The tiers of `order`, first mention only. Raises on a name the configuration
does not declare. -/
def orderTiers (tiers : List ModelRoutingTier) (seen : List String) :
    List PyValue → Except RoutingError (List ModelRoutingTier)
  | [] => .ok []
  | name :: rest =>
    match name.asStr?.bind (fun key => (tierByName tiers key).map (key, ·)) with
    | none => .error (.unknownTierInOrder name (tiers.map (·.name)).eraseDups)
    | some (key, tier) =>
      if seen.contains key then orderTiers tiers seen rest
      else do
        let ordered ← orderTiers tiers (key :: seen) rest
        pure (tier :: ordered)

def tierOrderFromContract (config : ModelDelegationConfig) (entry : Option PyDict) :
    Except RoutingError (List ModelRoutingTier) :=
  match entry.bind declaredTierOrder with
  | none => .ok config.tiers
  | some order => orderTiers config.tiers [] order

def stringItems (value : PyValue) : List String :=
  (value.asList?.getD []).filterMap PyValue.asStr?

def definitionOfDoneChecks (entry : Option PyDict) : List String × List String :=
  match entry.bind (fun entry => (entry.get "definition_of_done").asDict?) with
  | none => ([], [])
  | some dod => (stringItems (dod.get "deterministic"), stringItems (dod.get "heuristic"))

/-- `resolve_task_class_max_escalations`: the declared escalation budget, if it is
an integer and not negative. -/
def resolveTaskClassMaxEscalations (env : RoutingEnv) (taskType : String) : Option ℕ := do
  let entry ← taskClassEntry env.taskClassContract taskType
  let escalation ← (entry.get "escalation_policy").asDict?
  match escalation.get "max_escalations" with
  | .int raw => if raw < 0 then none else some raw.toNat
  | _ => none

end OmniMarket
