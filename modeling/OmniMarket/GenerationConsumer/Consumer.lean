import OmniMarket.GenerationConsumer.Artifact
import OmniMarket.Lib.Acting

/-!
# The generation consumer

`HandlerGenerationConsumer.handle` asks for an artifact until one is accepted or the attempts are
used up, publishes the terminal, the deploy command and the registration, and records a marker for
redeliveries. The answers of the model, of the routing authority, of the tool-reuse matcher and of
the broker are `RunAnswers`.
-/

namespace OmniMarket.GenerationConsumer

open PyText Acting

/-! ## Models -/

inductive EnumUsageSource where
  | measured | estimated | unknown
deriving DecidableEq

structure ModelNodeGenerationRequest where
  taskDescription : String
  correlationId : String
  maxAttempts : ℕ := 10
  contextPackHash : String := ""
  validatorCorpus : Option ModelValidatorCorpus := none
  attempts_pos : 0 < maxAttempts := by decide

structure ModelGenerationAttempt where
  attemptNumber : ℕ
  provider : String := ""
  modelId : String := ""
  endpointClass : String := ""
  tokenUsageInput : ℕ := 0
  tokenUsageOutput : ℕ := 0
  latencyInferenceMs : ℕ := 0
  contractPassed : Bool := false
  semanticChecked : Bool := false
  semanticPassed : Bool := false
  validationErrors : List String := []
  usageSource : EnumUsageSource := .unknown

/-- The verdict and artifact fields of a benchmark. -/
structure Verdict where
  contractPassed : Bool := false
  semanticChecked : Bool := false
  semanticPassed : Bool := false
  corpusChecked : Bool := false
  corpusPassed : Bool := false
  corpusErrors : List String := []
  contractYaml : String := ""
  handlerSource : String := ""

structure ModelGenerationBenchmark extends Verdict where
  correlationId : String
  taskDescription : String
  provider : String := ""
  modelId : String := ""
  endpointClass : String := ""
  usageSource : EnumUsageSource := .unknown
  costBasis : String := ""
  attempts : List ModelGenerationAttempt := []
  attemptCount : ℕ := 0
  totalLatencyE2eMs : ℕ := 0
  costInferenceUsd : ℚ := 0
  promptTokens : ℕ := 0
  completionTokens : ℕ := 0
  firstPassSuccess : Bool := false
  contextPackHash : String := ""
  routingSource : String := ""
  resolvedEndpoint : String := ""
  reusedToolId : String := ""

structure ModelNodeDeploy where
  nodeName : String
  contractYaml : String
  handlerSource : String
  correlationId : String
  generatedContractHash : String
  generatedHandlerHash : String

/-- The registration event. -/
structure NodeRegistered where
  correlationId : String
  nodeName : String
  contractYaml : String
  handlerSource : String
  description : String
  modelId : String

structure ModelGenerationEscalationTriggeredEvent where
  correlationId : String
  taskType : String
  tier : String
  provider : String
  model : String
  endpoint : String
  attemptCount : ℕ
  escalationReason : String

structure ModelActiveRoute where
  tierName : String
  provider : String
  servedModelId : String
  endpointRef : String := ""

structure RoutingDecision where
  tierName : String
  selectedModel : String
  endpointUrl : String

/-! ## The contract -/

def topicWith (topics : List String) (part : String) : String :=
  (topics.find? fun topic => containsText part.toList topic.toList).getD ""

/-- What the constructor takes from the contract. -/
structure ConsumerConfig where
  topicCompleted : String
  topicFailed : String
  topicRegistered : String
  topicDeploy : String
  topicEscalation : String
  topicToolReuseRequest : String
  topicToolReuseMatched : String
  routingSource : String
  taskType : String

def configOf (subscribeTopics publishTopics : List String) (routingSource taskType : String) :
    ConsumerConfig where
  topicCompleted := topicWith publishTopics "generation-completed"
  topicFailed := topicWith publishTopics "generation-failed"
  topicRegistered := topicWith publishTopics "node-registration"
  topicDeploy := topicWith publishTopics "node-deploy"
  topicEscalation := topicWith publishTopics "delegation-escalation-triggered"
  topicToolReuseRequest := topicWith publishTopics "tool-reuse-match-requested"
  topicToolReuseMatched := topicWith subscribeTopics "tool-reuse-matched"
  routingSource
  taskType

/-! ## The world of a run -/

inductive Message where
  | toolReuseRequest (taskDescription : String)
  | escalation (event : ModelGenerationEscalationTriggeredEvent)
  | terminal (benchmark : ModelGenerationBenchmark)
  | deploy (payload : ModelNodeDeploy)
  | registration (event : NodeRegistered)

/-- What the handler does to the world. -/
inductive Act where
  | callLlm (attempt : ℕ)
  | publish (topic : String) (message : Message) (acknowledged : Bool)
  | recordReplay (path : String) (benchmark : ModelGenerationBenchmark)

structure LlmAnswer where
  text : String := ""
  tokensInput : ℕ := 0
  tokensOutput : ℕ := 0
  usageSource : EnumUsageSource := .unknown

inductive PublishCall where
  | toolReuseRequest
  | escalation (attempt : ℕ)
  | terminal
  | deploy
  | registration

/-- What the world answers to one run; positions are attempt numbers. -/
structure RunAnswers where
  /-- `none` is an exception. -/
  llm : ℕ → Option LlmAnswer
  latencyMs : ℕ → ℕ
  totalLatencyMs : ℕ
  startingRoute : ModelActiveRoute
  resolvedEndpoint : String
  /-- The decision for the escalation event; `none` also when it raises. -/
  proofDecision : ℕ → Option RoutingDecision
  routeDecision : ℕ → Option RoutingDecision
  toolReuseVerdict : Option PyDict
  acknowledges : PublishCall → Bool

/-! ## One attempt -/

/-- The artifact of an answer and what the checks say of it. -/
structure Evaluation where
  contractYaml : String
  handlerSource : String
  validation : Validation
  semantic : ModelSemanticResult
  corpus : ModelCorpusAcceptanceResult

namespace Evaluation

variable (evaluation : Evaluation)

def valid : Bool := evaluation.validation.valid

def semanticFailed : Bool := evaluation.semantic.checked && !evaluation.semantic.passed

def corpusFailed : Bool := evaluation.corpus.checked && !evaluation.corpus.passed

/-- `attempt_success`. -/
def success : Bool :=
  evaluation.valid && !evaluation.semanticFailed && !evaluation.corpusFailed

/-- `combined_errors`. -/
def errors : List String :=
  evaluation.validation.errors ++ evaluation.semantic.errors ++ evaluation.corpus.errors

def verdict : Verdict where
  contractPassed := true
  semanticChecked := evaluation.semantic.checked
  semanticPassed := evaluation.semantic.passed
  corpusChecked := evaluation.corpus.checked
  corpusPassed := evaluation.corpus.passed
  corpusErrors := evaluation.corpus.errors
  contractYaml := evaluation.contractYaml
  handlerSource := evaluation.handlerSource

end Evaluation

def extractNodeName (env : GenerationEnv) (contractYaml : String) : Except Abort String :=
  match env.safeLoad contractYaml with
  | .raised text => .error (.raised text)
  | .value (.dict data) => .ok (env.str ((PyDict.get? data "name").getD (.str "unknown")))
  | _ => .ok "unknown"

section

variable (env : GenerationEnv) (config : ConsumerConfig) (answers : RunAnswers)
  (command : ModelNodeGenerationRequest)

/-- What an attempt does with the text that the model gave. -/
def evaluateAttempt (rawOutput : String) : Except Abort Evaluation := do
  let (contractYaml, handlerSource) := extractBlocks env rawOutput
  let validation ←
    validateGeneration env contractYaml handlerSource command.validatorCorpus.isSome
  let semantic ←
    (if validation.valid then
      evaluateHandlerSemantics env handlerSource (deriveSemanticFixtures env command.taskDescription)
      else .ok {})
  let corpus ←
    (if validation.valid then evaluateCorpusAcceptance env handlerSource command.validatorCorpus
      else .ok {})
  return { contractYaml, handlerSource, validation, semantic, corpus }

section

variable (attempt : ℕ)

/-- The text of an attempt: empty after an exception. -/
def RunAnswers.answer : LlmAnswer := (answers.llm attempt).getD {}

structure RunState where
  activeRoute : ModelActiveRoute
  attempts : List ModelGenerationAttempt := []
  verdict : Verdict := {}

/-- `attempts.append(...)` and the `final_*` variables. -/
def RunState.record (state : RunState) (attempt : ℕ) (evaluation : Evaluation) : RunState where
  activeRoute := state.activeRoute
  attempts := state.attempts ++ [{
    attemptNumber := attempt
    provider := state.activeRoute.provider
    modelId := state.activeRoute.servedModelId
    endpointClass :=
      if state.activeRoute.endpointRef ≠ "" then state.activeRoute.endpointRef
      else state.activeRoute.tierName
    tokenUsageInput := (answers.answer attempt).tokensInput
    tokenUsageOutput := (answers.answer attempt).tokensOutput
    latencyInferenceMs := answers.latencyMs attempt
    contractPassed := evaluation.valid
    semanticChecked := evaluation.semantic.checked
    semanticPassed := evaluation.semantic.passed
    validationErrors := evaluation.errors
    usageSource := (answers.answer attempt).usageSource }]
  verdict := if evaluation.valid then evaluation.verdict else state.verdict

def providerOf (tierName : String) : String := if tierName = "local" then "local" else "cloud"

def buildEscalationEvent (failureErrors : List String) :
    Option ModelGenerationEscalationTriggeredEvent :=
  (answers.proofDecision attempt).map fun decision =>
    { correlationId := command.correlationId
      taskType := config.taskType
      tier := decision.tierName
      provider := providerOf decision.tierName
      model := decision.selectedModel
      endpoint := decision.endpointUrl
      attemptCount := attempt
      escalationReason :=
        if failureErrors = [] then "contract validation failed" else "; ".intercalate failureErrors }

def emitEscalation (failureErrors : List String) : Acting RunState Act Abort Unit :=
  if config.topicEscalation = "" then pure ()
  else
    note fun _ =>
      ((buildEscalationEvent config answers command attempt failureErrors).map fun event =>
        Act.publish config.topicEscalation (.escalation event)
          (answers.acknowledges (.escalation attempt))).toList

def escalateRoute (current : ModelActiveRoute) : Option ModelActiveRoute :=
  match answers.routeDecision attempt with
  | none => none
  | some decision =>
    if decision.tierName = current.tierName then none
    else some { tierName := decision.tierName, provider := providerOf decision.tierName,
                servedModelId := decision.selectedModel }

def escalate (failureErrors : List String) : Acting RunState Act Abort Unit :=
  if attempt < command.maxAttempts then do
    emitEscalation config answers command attempt failureErrors
    update fun state =>
      { state with
        activeRoute := (escalateRoute answers attempt state.activeRoute).getD state.activeRoute }
  else pure ()

/-- The body of the loop; whether the attempt was a success. -/
def attemptOnce : Acting RunState Act Abort Bool := do
  note fun _ => [.callLlm attempt]
  let evaluation ← Acting.answer (evaluateAttempt env command (answers.answer attempt).text)
  update fun state => state.record answers attempt evaluation
  if evaluation.success then return true
  else do
    escalate config answers command attempt evaluation.errors
    return false

end

def attemptLoop : ℕ → ℕ → Acting RunState Act Abort Unit
  | 0, _ => pure ()
  | left + 1, attempt => do
      let success ← attemptOnce env config answers command attempt
      if success then pure () else attemptLoop left (attempt + 1)

/-! ## The end of a run -/

def aggregateUsageSource (attempts : List ModelGenerationAttempt) : EnumUsageSource :=
  if .measured ∈ attempts.map (·.usageSource) then .measured
  else if .estimated ∈ attempts.map (·.usageSource) then .estimated
  else .unknown

def buildBenchmark (state : RunState) : ModelGenerationBenchmark :=
  let totalInput := (state.attempts.map (·.tokenUsageInput)).sum
  let totalOutput := (state.attempts.map (·.tokenUsageOutput)).sum
  let last := state.attempts.getLast?
  let runProvider := (last.map (·.provider)).getD ""
  let runModelId := (last.map (·.modelId)).getD ""
  { state.verdict with
    correlationId := command.correlationId
    taskDescription := command.taskDescription
    provider := runProvider
    modelId := runModelId
    endpointClass := (last.map (·.endpointClass)).getD ""
    usageSource := aggregateUsageSource state.attempts
    costBasis := if runProvider ≠ "local" then "gemini_flash" else "local_free"
    attempts := state.attempts
    attemptCount := state.attempts.length
    totalLatencyE2eMs := answers.totalLatencyMs
    costInferenceUsd := env.calculateCost runProvider runModelId totalInput totalOutput
    promptTokens := totalInput
    completionTokens := totalOutput
    firstPassSuccess := (state.attempts.head?.map (·.contractPassed)).getD false
    contextPackHash := command.contextPackHash
    routingSource := config.routingSource
    resolvedEndpoint := answers.resolvedEndpoint }

section

variable (benchmark : ModelGenerationBenchmark)

def terminalTopic : String :=
  if benchmark.contractPassed then config.topicCompleted else config.topicFailed

/-- `_emit_benchmark`: a failed publish is raised. -/
def emitBenchmark : Acting RunState Act Abort Unit :=
  if terminalTopic config benchmark = "" then pure ()
  else do
    note fun _ => [.publish (terminalTopic config benchmark) (.terminal benchmark)
      (answers.acknowledges .terminal)]
    Acting.answer (if answers.acknowledges .terminal then .ok () else .error (.raised "publish"))

def deployPayload (nodeName : String) :
    ModelNodeDeploy where
  nodeName
  contractYaml := benchmark.contractYaml
  handlerSource := benchmark.handlerSource
  correlationId := benchmark.correlationId
  generatedContractHash := "sha256:" ++ env.sha256 benchmark.contractYaml
  generatedHandlerHash := "sha256:" ++ env.sha256 benchmark.handlerSource

/-- `_emit_deploy`: what raises is swallowed. -/
def emitDeploy : Acting RunState Act Abort Bool :=
  if config.topicDeploy = "" then return false
  else
    match extractNodeName env benchmark.contractYaml with
    | .error _ => return false
    | .ok nodeName => do
        note fun _ => [.publish config.topicDeploy (.deploy (deployPayload env benchmark nodeName))
          (answers.acknowledges .deploy)]
        return answers.acknowledges .deploy

def emitRegistration : Acting RunState Act Abort Unit :=
  if config.topicRegistered = "" then pure ()
  else
    match extractNodeName env benchmark.contractYaml with
    | .error _ => pure ()
    | .ok nodeName =>
      note fun _ => [.publish config.topicRegistered
        (.registration {
          correlationId := benchmark.correlationId
          nodeName
          contractYaml := benchmark.contractYaml
          handlerSource := benchmark.handlerSource
          description := benchmark.taskDescription
          modelId := benchmark.modelId })
        (answers.acknowledges .registration)]

/-- `_replay_state_path` under the state root. -/
def replayStatePath (correlationId : String) : String :=
  "node_generation_consumer/replay/" ++ env.sha256 correlationId ++ ".json"

def recordReplayBenchmark : Acting RunState Act Abort Unit :=
  note fun _ => [.recordReplay (replayStatePath env benchmark.correlationId) benchmark]

def Verdict.semanticBlocksDeploy (verdict : Verdict) : Bool :=
  verdict.semanticChecked && !verdict.semanticPassed

def Verdict.corpusBlocksDeploy (verdict : Verdict) : Bool :=
  verdict.corpusChecked && !verdict.corpusPassed

/-- The test before the deploy command. -/
def Verdict.deploys (verdict : Verdict) : Bool :=
  verdict.contractPassed && !verdict.semanticBlocksDeploy && !verdict.corpusBlocksDeploy

def deployBenchmark : Acting RunState Act Abort Unit := do
  let deployOk ← emitDeploy env config answers benchmark
  if deployOk then emitRegistration env config answers benchmark else pure ()

/-- What `handle` does with a benchmark that was generated. -/
def concludeRun :
    Acting RunState Act Abort ModelGenerationBenchmark := do
  emitBenchmark config answers benchmark
  if benchmark.deploys then deployBenchmark env config answers benchmark else pure ()
  recordReplayBenchmark env benchmark
  return benchmark

end

/-- `handle` from the first attempt on. -/
def generate : Acting RunState Act Abort ModelGenerationBenchmark := do
  attemptLoop env config answers command command.maxAttempts 1
  let benchmark ← look (buildBenchmark env config answers command)
  concludeRun env config answers benchmark

/-! ## The handler -/

def buildReuseBenchmark (verdictPayload : PyDict) : Option ModelGenerationBenchmark :=
  let verdict := env.unicode.lower (env.str ((PyDict.get? verdictPayload "verdict").getD (.str ""))).toList
  let tool := ((PyDict.get verdictPayload "matched_tool").asDict?).bind fun matched =>
    (PyDict.get matched "tool").asDict?
  match tool with
  | none => none
  | some tool =>
    let toolId := stripString (env.str ((PyDict.get? tool "tool_id").getD (.str "")))
    if verdict ≠ "matched".toList ∨ toolId = "" then none
    else
      some {
        correlationId := command.correlationId
        taskDescription := command.taskDescription
        costBasis := "tool_reuse"
        contractPassed := true
        contextPackHash := command.contextPackHash
        reusedToolId := toolId }

def tryToolReuseShortCircuit : Acting RunState Act Abort (Option ModelGenerationBenchmark) :=
  if config.topicToolReuseRequest = "" ∨ config.topicToolReuseMatched = "" then return none
  else do
    note fun _ => [.publish config.topicToolReuseRequest
      (.toolReuseRequest command.taskDescription) (answers.acknowledges .toolReuseRequest)]
    if answers.acknowledges .toolReuseRequest then
      return answers.toolReuseVerdict.bind (buildReuseBenchmark env command)
    else return none

/-- `handle`, beside the marker that is stored for the correlation id. -/
def handle (replayed : Option ModelGenerationBenchmark) :
    Acting RunState Act Abort ModelGenerationBenchmark :=
  match replayed with
  | some benchmark => return benchmark
  | none => do
      match ← tryToolReuseShortCircuit env config answers command with
      | some reuseBenchmark =>
        emitBenchmark config answers reuseBenchmark
        recordReplayBenchmark env reuseBenchmark
        return reuseBenchmark
      | none => generate env config answers command

end

end OmniMarket.GenerationConsumer
