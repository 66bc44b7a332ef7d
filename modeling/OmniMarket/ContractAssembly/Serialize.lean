import OmniMarket.Lib.OrderedDict
import OmniMarket.Lib.PyValue
import OmniMarket.Lib.Regex
import Mathlib

/-!
# Contract assembly

A node model becomes a contract: each selected subcontract is rendered as a YAML fragment, the
fragments are read back and put under their types, and the document is dumped behind a comment
header. The lint reads the result once more.

`yaml.safe_dump`, `yaml.safe_load`, the SHA-256 of a text and what a float becomes in a JSON-mode
dump are parameters.
-/

namespace OmniMarket.ContractAssembly

open Regex Regex.Pattern

structure AssemblyEnv where
  unicode : UnicodeTable
  safeDump : PyValue → String
  /-- A `YAMLError` is malformed. -/
  safeLoad : String → Loaded
  sha256 : String → String
  /-- A float in `model_dump(mode="json")`. -/
  jsonFloat : PyFloat → PyValue

/-! ## Models -/

inductive EnumSubcontractType
  | database
  | api
  | event
  | compute
  | state
  | workflow

def EnumSubcontractType.value : EnumSubcontractType → String
  | .database => "database"
  | .api => "api"
  | .event => "event"
  | .compute => "compute"
  | .state => "state"
  | .workflow => "workflow"

inductive EnumNodeArchetype
  | compute
  | effect
  | reducer
  | orchestrator

inductive EnumLintStatus
  | pass
  | fail

structure ModelSemVer where
  major : ℤ := 1
  minor : ℤ := 0
  patch : ℤ := 0

structure ModelCircuitBreakerConfig where
  enabled : Bool := true
  failureThreshold : ℤ := 5
  recoveryTimeoutMs : ℤ := 60000
  halfOpenMaxCalls : ℤ := 3

structure ModelRetryConfig where
  enabled : Bool := true
  maxAttempts : ℤ := 3
  initialDelayMs : ℤ := 1000
  maxDelayMs : ℤ := 10000
  backoffMultiplier : PyFloat := .finite 2

structure ModelObservabilityConfig where
  tracingEnabled : Bool := true
  metricsEnabled : Bool := true
  structuredLogging : Bool := true

structure ModelAdvancedFeatures where
  circuitBreaker : ModelCircuitBreakerConfig
  retry : ModelRetryConfig
  observability : ModelObservabilityConfig
  deadLetterQueueEnabled : Bool := false
  transactionsEnabled : Bool := false

structure ModelAdvancedFeaturesOverrides where
  circuitBreaker : Option ModelCircuitBreakerConfig := none
  retry : Option ModelRetryConfig := none
  observability : Option ModelObservabilityConfig := none
  deadLetterQueueEnabled : Option Bool := none
  transactionsEnabled : Option Bool := none

structure ModelSubcontractSelection where
  type : EnumSubcontractType
  operations : List String := []
  extraFields : OrderedDict String String := OrderedDict.empty

structure ModelSubcontractFragment where
  type : EnumSubcontractType
  yamlFragment : String
  sha256 : String

structure ModelContractMetadata where
  (nodeName serviceName namespace' : String)
  nodeType : String
  version : ModelSemVer
  description : String
  tags : List String
  author : String := "OmniNode Contract Assembly"

structure ModelNodeAnalysis where
  description : String := ""
  tags : List String := []
  version : ModelSemVer := {}

structure ModelContractAssemblyRequest where
  (nodeName namespace' : String)
  archetype : EnumNodeArchetype
  analysis : ModelNodeAnalysis := {}
  subcontractSelections : List ModelSubcontractSelection := []
  overrides : ModelAdvancedFeaturesOverrides := {}
  correlationId : String := ""

structure ModelLintResult where
  status : EnumLintStatus
  messages : List String

structure ModelContractDocument where
  contractYaml : String
  contractSha256 : String
  subcontractsRendered : List ModelSubcontractFragment
  lintStatus : EnumLintStatus
  lintMessages : List String
  correlationId : String

/-! ## JSON-mode dumps -/

def texts (items : List String) : PyValue := .list (items.map .str)

def ModelSemVer.dump (version : ModelSemVer) : PyValue :=
  .dict [("major", .int version.major), ("minor", .int version.minor),
    ("patch", .int version.patch)]

def ModelContractMetadata.dump (metadata : ModelContractMetadata) : PyValue :=
  .dict [("node_name", .str metadata.nodeName), ("service_name", .str metadata.serviceName),
    ("namespace", .str metadata.namespace'), ("node_type", .str metadata.nodeType),
    ("version", metadata.version.dump), ("description", .str metadata.description),
    ("tags", texts metadata.tags), ("author", .str metadata.author)]

def ModelCircuitBreakerConfig.dump (config : ModelCircuitBreakerConfig) : PyValue :=
  .dict [("enabled", .bool config.enabled), ("failure_threshold", .int config.failureThreshold),
    ("recovery_timeout_ms", .int config.recoveryTimeoutMs),
    ("half_open_max_calls", .int config.halfOpenMaxCalls)]

def ModelRetryConfig.dump (env : AssemblyEnv) (config : ModelRetryConfig) : PyValue :=
  .dict [("enabled", .bool config.enabled), ("max_attempts", .int config.maxAttempts),
    ("initial_delay_ms", .int config.initialDelayMs), ("max_delay_ms", .int config.maxDelayMs),
    ("backoff_multiplier", env.jsonFloat config.backoffMultiplier)]

def ModelObservabilityConfig.dump (config : ModelObservabilityConfig) : PyValue :=
  .dict [("tracing_enabled", .bool config.tracingEnabled),
    ("metrics_enabled", .bool config.metricsEnabled),
    ("structured_logging", .bool config.structuredLogging)]

def ModelAdvancedFeatures.dump (env : AssemblyEnv) (features : ModelAdvancedFeatures) : PyValue :=
  .dict [("circuit_breaker", features.circuitBreaker.dump), ("retry", features.retry.dump env),
    ("observability", features.observability.dump),
    ("dead_letter_queue_enabled", .bool features.deadLetterQueueEnabled),
    ("transactions_enabled", .bool features.transactionsEnabled)]

/-! ## Advanced features -/

def archetypeDefaults : EnumNodeArchetype → ModelAdvancedFeatures
  | .compute =>
    { circuitBreaker := { enabled := false }, retry := { enabled := false }, observability := {} }
  | .effect =>
    { circuitBreaker := {}, retry := {}, observability := {}, deadLetterQueueEnabled := true }
  | .reducer =>
    { circuitBreaker := { enabled := false }, retry := {}, observability := {}
      deadLetterQueueEnabled := true, transactionsEnabled := true }
  | .orchestrator => { circuitBreaker := {}, retry := {}, observability := {} }

def applyOverrides (base : ModelAdvancedFeatures) (overrides : ModelAdvancedFeaturesOverrides) :
    ModelAdvancedFeatures where
  circuitBreaker := overrides.circuitBreaker.getD base.circuitBreaker
  retry := overrides.retry.getD base.retry
  observability := overrides.observability.getD base.observability
  deadLetterQueueEnabled := overrides.deadLetterQueueEnabled.getD base.deadLetterQueueEnabled
  transactionsEnabled := overrides.transactionsEnabled.getD base.transactionsEnabled

def resolveAdvancedFeatures (archetype : EnumNodeArchetype)
    (overrides : ModelAdvancedFeaturesOverrides) : ModelAdvancedFeatures :=
  applyOverrides (archetypeDefaults archetype) overrides

/-! ## Subcontracts -/

def canonicalOperations : EnumSubcontractType → List String
  | .database => ["connect", "query", "transaction", "disconnect"]
  | .api => ["request", "retry", "parse_response"]
  | .event => ["subscribe", "handle", "publish"]
  | .compute => ["initialize", "execute_compute", "cleanup"]
  | .state => ["load", "apply", "persist"]
  | .workflow => ["start", "step", "complete"]

variable (env : AssemblyEnv)

def renderSubcontract (request : ModelSubcontractSelection) :
    Except String ModelSubcontractFragment :=
  let operations :=
    if request.operations.isEmpty then canonicalOperations request.type else request.operations
  if "operations" ∈ request.extraFields.keys then
    .error "extra_fields may not override reserved key 'operations'"
  else
    let body : OrderedDict String PyValue :=
      request.extraFields.entries.foldl (fun body entry => body.set entry.1 (.str entry.2))
        (OrderedDict.empty.set "operations" (texts operations))
    let yamlFragment := env.safeDump (.dict [(request.type.value, .dict body.entries)])
    .ok { type := request.type, yamlFragment := yamlFragment, sha256 := env.sha256 yamlFragment }

/-! ## The document -/

/-- `parsed = yaml.safe_load(text) or {}`. -/
def loadMapping (text : String) : Except String PyValue :=
  match env.safeLoad text with
  | .value value => .ok (if value.truthy then value else .dict [])
  | .malformed problem => .error problem
  | .raised raised => .error raised

def placeFragment (subcontracts : OrderedDict String PyValue)
    (fragment : ModelSubcontractFragment) : Except String (OrderedDict String PyValue) := do
  let parsed ← loadMapping env fragment.yamlFragment
  match parsed with
  | .dict entries =>
    match PyDict.get? entries fragment.type.value with
    | none => .error ("fragment '" ++ fragment.type.value ++ "' is missing declared type key")
    | some body =>
      if fragment.type.value ∈ subcontracts.keys then
        .error ("duplicate fragment for type '" ++ fragment.type.value ++ "'")
      else .ok (subcontracts.set fragment.type.value body)
  | _ => .error ("fragment '" ++ fragment.type.value ++ "' is not a mapping")

def HEADER (nodeName : String) : String :=
  "# ONEX v2.0 contract -- generated by the model->contract serialization pipeline\n" ++
  "# Node: " ++ nodeName ++ "\n" ++
  "# DO NOT EDIT -- regenerate via node_contract_serialize_compute\n"

def assembleContract (metadata : ModelContractMetadata) (fragments : List ModelSubcontractFragment)
    (advancedFeatures : ModelAdvancedFeatures) : Except String String := do
  let subcontracts ← fragments.foldlM (placeFragment env) OrderedDict.empty
  let body := env.safeDump (.dict [("metadata", metadata.dump),
    ("subcontracts", .dict subcontracts.entries),
    ("advanced_features", advancedFeatures.dump env)])
  return HEADER metadata.nodeName ++ "\n" ++ body

/-! ## The lint -/

def REQUIRED_TOP_LEVEL_KEYS : List String := ["metadata", "subcontracts", "advanced_features"]

def sectionMessages (parsed : PyDict) (key : String) : List String :=
  match PyDict.get? parsed key with
  | none => ["missing required top-level key: " ++ key]
  | some value =>
    if key ≠ "subcontracts" ∧ value.asDict?.isNone then [key ++ " section is not a mapping"]
    else []

def subcontractMessages (name : String) (body : PyValue) : List String :=
  match body with
  | .dict entries =>
    if (PyDict.get entries "operations").asList?.isNone then
      ["subcontract '" ++ name ++ "' declares no operations"]
    else []
  | _ => ["subcontract '" ++ name ++ "' is not a mapping"]

def subcontractsMessages (parsed : PyDict) : List String :=
  match PyDict.get? parsed "subcontracts" with
  | some (.dict subcontracts) =>
    subcontracts.flatMap fun entry => subcontractMessages entry.1 entry.2
  | some _ => ["subcontracts section is not a mapping"]
  | none => []

def lintContract (contractYaml : String) : Except String ModelLintResult :=
  match env.safeLoad contractYaml with
  | .malformed problem => .ok ⟨.fail, ["yaml parse error: " ++ problem]⟩
  | .raised raised => .error raised
  | .value (.dict parsed) =>
    let messages :=
      REQUIRED_TOP_LEVEL_KEYS.flatMap (sectionMessages parsed) ++ subcontractsMessages parsed
    .ok ⟨if messages.isEmpty then .pass else .fail, messages⟩
  | .value _ => .ok ⟨.fail, ["contract root is not a mapping"]⟩

/-! ## Serialization -/

def LOWER_OR_DIGIT : CharSet := CharSet.either (CharSet.within 'a' 'z') (CharSet.within '0' '9')

def WORD_BOUNDARY_RE : Pattern :=
  sequence [group (one false LOWER_OR_DIGIT), group (one false (CharSet.within 'A' 'Z'))]

def ACRONYM_RE : Pattern :=
  sequence [group (plus (one false (CharSet.within 'A' 'Z'))),
    group (sequence [one false (CharSet.within 'A' 'Z'), one false (CharSet.within 'a' 'z')])]

/-- `re.sub(pattern, r"\1_\2", text)`. -/
def underscore (pattern : Pattern) (text : List Char) : List Char :=
  (pattern.pieces env.unicode text).flatMap fun
    | .outside c => [c]
    | .found _ groups => ['_'].intercalate groups

def serviceName (nodeName : String) : String :=
  let name := nodeName.toList
  let name := if "Node".toList.isPrefixOf name then name.drop 4 else name
  let name := underscore env WORD_BOUNDARY_RE name
  let name := underscore env ACRONYM_RE name
  String.ofList (env.unicode.lower name)

example : serviceName ⟨PyText.asciiTable, fun _ => "", fun _ => .malformed "", id, .float⟩
    "NodeHTTPBillingV2Effect" = "http_billing_v2_effect" := by decide +kernel

/-- `request.archetype.value.upper()`. -/
def EnumNodeArchetype.nodeType : EnumNodeArchetype → String
  | .compute => "COMPUTE"
  | .effect => "EFFECT"
  | .reducer => "REDUCER"
  | .orchestrator => "ORCHESTRATOR"

def metadataOf (request : ModelContractAssemblyRequest) : ModelContractMetadata :=
  { nodeName := request.nodeName, namespace' := request.namespace',
    serviceName := serviceName env request.nodeName, nodeType := request.archetype.nodeType,
    version := request.analysis.version,
    description :=
      if request.analysis.description = "" then serviceName env request.nodeName ++ " node"
      else request.analysis.description,
    tags := request.analysis.tags }

def serializeContract (request : ModelContractAssemblyRequest) :
    Except String ModelContractDocument := do
  let fragments ← request.subcontractSelections.mapM (renderSubcontract env)
  let contractYaml ← assembleContract env (metadataOf env request) fragments
    (resolveAdvancedFeatures request.archetype request.overrides)
  let lint ← lintContract env contractYaml
  return {
    contractYaml := contractYaml
    contractSha256 := env.sha256 contractYaml
    subcontractsRendered := fragments
    lintStatus := lint.status
    lintMessages := lint.messages
    correlationId := request.correlationId }

end OmniMarket.ContractAssembly
