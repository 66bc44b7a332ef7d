import OmniMarket.SavingsProjection.Source

/-!
# The two savings handlers

`HandlerProjectionSavings.handle` writes through the synchronous adapter and decides by the event
type and by the shape of the payload. `SavingsProjectionRunner.project_event` writes its own
statement and decides by the topic. A savings estimate is read by a strict model in the one and by
a chain of lookups in the other.
-/

namespace OmniMarket.SavingsProjection

open PyText

/-! ## Topics -/

inductive Topic where
  | savingsEstimated
  | delegateSkillCompleted
  | delegateSkillFailed
  | delegationCompleted
  | delegationFailed
deriving DecidableEq

def Topic.name : Topic → String
  | .savingsEstimated => "onex.evt.omnibase-infra.savings-estimated.v1"
  | .delegateSkillCompleted => "onex.evt.omnimarket.delegate-skill-completed.v1"
  | .delegateSkillFailed => "onex.evt.omnimarket.delegate-skill-failed.v1"
  | .delegationCompleted => "onex.evt.omnibase-infra.delegation-completed.v1"
  | .delegationFailed => "onex.evt.omnibase-infra.delegation-failed.v1"

/-- `event_bus.subscribe_topics` of the contract. -/
def subscribeTopics : List Topic :=
  [.savingsEstimated, .delegateSkillCompleted, .delegateSkillFailed, .delegationCompleted,
    .delegationFailed]

def contains (needle text : String) : Bool := containsText needle.toList text.toList

/-- `next((t for t in topics if needle in t), "")`. -/
def topicWith (needle : String) : String :=
  ((subscribeTopics.find? fun topic => contains needle topic.name).map Topic.name).getD ""

section

variable (env : SavingsEnv) (held : HeldTenants) (clock : Clock)

/-! ## Savings estimates -/

def markerKeys : List String :=
  ["source_event_id", "actual_model_id", "counterfactual_model_id", "actual_cost_usd",
    "estimated_total_savings_usd"]

section

variable (data : PyDict)

def firstPresent (keys : List String) : PyValue :=
  match keys.find? fun key => !(PyDict.get data key).isNone with
  | some key => PyDict.get data key
  | none => .none

/-- `data.setdefault(key, value)`. -/
def setDefault (key : String) (value : PyValue) : PyDict :=
  match PyDict.get? data key with
  | some _ => data
  | none => data ++ [(key, value)]

/-- The amounts of a `ModelSavingsEstimate`, under the canonical keys; the error is a trapped
signal of the sum. -/
def setAmounts (normalized : PyDict) : Except Refusal PyDict :=
  let localCost := firstPresent data ["actual_cost_usd"]
  let savings := firstPresent data ["estimated_total_savings_usd"]
  if localCost.isNone || savings.isNone then .ok normalized
  else
    match env.decimal (env.str localCost), env.decimal (env.str savings) with
    | some localCost, some savings =>
      match env.add localCost savings with
      | none => .error .raised
      | some cloudCost => .ok <|
          setDefault (setDefault (setDefault normalized
            "local_cost_usd" (.str (env.decimalText localCost)))
            "savings_usd" (.str (env.decimalText savings)))
            "cloud_cost_usd" (.str (env.decimalText cloudCost))
    | _, _ => .ok normalized

def normalizeSavingsEstimatePayload : Except Refusal PyDict :=
  if (PyDict.get data "model_local").truthy || (PyDict.get data "modelLocal").truthy then .ok data
  else if !(markerKeys.any fun key => (PyDict.get? data key).isSome) then .ok data
  else
    setAmounts env data <|
      setDefault (setDefault (setDefault data
        "model_local" (PyDict.get data "actual_model_id"))
        "model_cloud_baseline" (PyDict.get data "counterfactual_model_id"))
        "event_timestamp" (PyDict.get data "timestamp_iso")

/-! ## Synchronous handler -/

/-- `ModelSavingsEstimatedEvent`. The event time is in UTC. -/
structure ModelSavingsEstimatedEvent where
  eventTimestamp : PyDatetime
  sessionId : NonEmptyString
  modelLocal : NonEmptyString
  modelCloudBaseline : NonEmptyString
  localCostUsd : ℚ
  cloudCostUsd : ℚ
  savingsUsd : ℚ
  repoName : Option String
  machineId : Option String
  local_nonneg : 0 ≤ localCostUsd
  cloud_nonneg : 0 ≤ cloudCostUsd

/-- A required text field with `min_length=1`. -/
def requiredText (key : String) : Option NonEmptyString :=
  (PyDict.get data key).asStr?.bind NonEmptyString.validate?

def requiredAmount (key : String) : Option ℚ :=
  (PyDict.get? data key).bind env.validateDecimal

/-- `event_timestamp` with `validate_tz_aware`; the error is an overflow of the conversion. -/
def requiredTimestamp : Except Refusal PyDatetime :=
  match (PyDict.get? data "event_timestamp").bind env.awareDatetime with
  | none => .error .invalid
  | some moment =>
    match moment.astimezoneUtc with
    | none => .error .raised
    | some moment => .ok moment

/-- `ModelSavingsEstimatedEvent(**event_data)`. -/
def validateEvent : Except Refusal ModelSavingsEstimatedEvent := do
  let eventTimestamp ← requiredTimestamp env data
  let fields : Option ModelSavingsEstimatedEvent := do
    let sessionId ← requiredText data "session_id"
    let modelLocal ← requiredText data "model_local"
    let modelCloudBaseline ← requiredText data "model_cloud_baseline"
    let localCostUsd ← requiredAmount env data "local_cost_usd"
    let cloudCostUsd ← requiredAmount env data "cloud_cost_usd"
    let savingsUsd ← requiredAmount env data "savings_usd"
    let repoName ← optionalField PyValue.asStr? (PyDict.get data "repo_name")
    let machineId ← optionalField PyValue.asStr? (PyDict.get data "machine_id")
    if signs : 0 ≤ localCostUsd ∧ 0 ≤ cloudCostUsd then
      some ⟨eventTimestamp, sessionId, modelLocal, modelCloudBaseline, localCostUsd, cloudCostUsd,
        savingsUsd, repoName, machineId, signs.1, signs.2⟩
    else none
  match fields with
  | none => .error .invalid
  | some event =>
    match env.sub (.finite event.cloudCostUsd) (.finite event.localCostUsd) with
    | none => .error .raised
    | some difference =>
      if .finite event.savingsUsd = difference then .ok event else .error .invalid

/-- The row of `HandlerProjectionSavings.project`. -/
def ModelSavingsEstimatedEvent.row (event : ModelSavingsEstimatedEvent) : SavingsRow where
  eventTimestamp := event.eventTimestamp
  sessionId := event.sessionId.value
  modelLocal := event.modelLocal.value
  modelCloudBaseline := event.modelCloudBaseline.value
  localCostUsd := .finite event.localCostUsd
  cloudCostUsd := .finite event.cloudCostUsd
  savingsUsd := .finite event.savingsUsd
  repoName := event.repoName
  machineId := event.machineId
  tenantId := none

/-- The row of `project_delegate_skill_savings`: a tenant that is not empty is stamped. -/
def ModelDelegateSkillSavingsProjection.stampedRow
    (projection : ModelDelegateSkillSavingsProjection) : SavingsRow where
  eventTimestamp := projection.eventTimestamp
  sessionId := projection.sessionId
  modelLocal := projection.modelLocal
  modelCloudBaseline := projection.modelCloudBaseline
  localCostUsd := projection.localCostUsd
  cloudCostUsd := projection.cloudCostUsd
  savingsUsd := projection.savingsUsd
  repoName := projection.repoName
  machineId := projection.machineId
  tenantId := if textTruthy projection.tenantId then projection.tenantId else none

section

variable (payload : PyDict)

def isDelegateSkillTerminalPayload : Bool :=
  !(PyDict.get payload "correlation_id").isNone && !(PyDict.get payload "status").isNone &&
    (PyDict.get payload "metrics").asDict?.isSome

def isCanonicalDelegationSourcePayload : Bool :=
  !(PyDict.get payload "correlation_id").isNone && !(PyDict.get payload "task_type").isNone &&
    !(PyDict.get payload "model_used").isNone && (PyDict.get payload "status").isNone &&
    (PyDict.get? payload "metrics").isNone && (PyDict.get? payload "local_cost_usd").isNone

def delegateSkillTerminalEvents : List String :=
  ["delegate-skill-completed", "delegate-skill-failed", Topic.delegateSkillCompleted.name,
    Topic.delegateSkillFailed.name]

def isDelegationTerminalEvent (eventType : String) : Bool :=
  eventType = Topic.delegationCompleted.name || eventType = Topic.delegationFailed.name ||
    contains "delegation-completed" eventType || contains "delegation-failed" eventType

/-- The keys of a payload that the strict model may see. -/
def eventData : PyDict :=
  payload.filter fun entry =>
    !"_".toList.isPrefixOf entry.1.toList && entry.1 ∉ ["rows", "event_landed", "latency_ms"]

def canonicalSavingsFields : List String :=
  ["event_timestamp", "session_id", "model_local", "model_cloud_baseline", "local_cost_usd",
    "cloud_cost_usd", "savings_usd", "repo_name", "machine_id"]

/-- The delegate-skill branch of `handle`, up to its write. -/
def delegateSkillProjection :
    Except Refusal (Option ModelDelegateSkillSavingsProjection) :=
  match fromPayload env payload with
  | none => .error .invalid
  | some terminal => fromTerminalEvent env clock terminal

/-- The canonical branch of `handle`, up to its write. -/
def canonicalProjection :
    Except Refusal (Option ModelDelegateSkillSavingsProjection) := do
  let source ← fromCanonicalPayload env payload
  fromTaskDelegatedEvent env clock source

/-- `project_delegate_skill_savings`, after a projection of `None` is left out. -/
def projectDelegateSkillSavings :
    Except Refusal (Option ModelDelegateSkillSavingsProjection) → Outcome
  | .error refusal => .error refusal
  | .ok none => .ok none
  | .ok (some projection) => writeRow held projection.stampedRow

/-- The estimate branch of `handle`. -/
def projectEvent : Outcome := do
  let normalized ← normalizeSavingsEstimatePayload env (eventData payload)
  let event ← validateEvent env (normalized.filter fun entry => entry.1 ∈ canonicalSavingsFields)
  writeRow held event.row

end

/-- `HandlerProjectionSavings.handle`; the adapter is the table. -/
def handle (inputData : PyDict) : Outcome :=
  let payload := inputData.filter fun entry => entry.1 ∉ ["_db", "_event_type"]
  let eventType := env.str ((PyDict.get? inputData "_event_type").getD (.str ""))
  if eventType ∈ delegateSkillTerminalEvents || isDelegateSkillTerminalPayload payload then
    projectDelegateSkillSavings held (delegateSkillProjection env clock payload)
  else if isDelegationTerminalEvent eventType || isCanonicalDelegationSourcePayload payload then
    projectDelegateSkillSavings held (canonicalProjection env clock payload)
  else projectEvent env held payload

/-! ## Asynchronous runner -/

def safeParseDate (value : PyValue) : PyDatetime :=
  if value.truthy then
    let text := env.str value
    let zoned := String.ofList (replaceText ['Z'] "+00:00".toList 0 text.toList)
    ((env.isoparse text).orElse fun _ => env.fromisoformat zoned).getD clock.now
  else clock.now

/-- `str(data.get(key) or data.get(camel) or "").strip()`. -/
def strippedText (key camel : String) : String :=
  stripString (env.str (pyOr (pyOr (PyDict.get data key) (PyDict.get data camel)) (.str "")))

/-- The names under which the runner looks for the time of an estimate. -/
def estimateTimestamp : PyDatetime :=
  safeParseDate env clock <|
    pyOr (pyOr (pyOr (pyOr (PyDict.get data "event_timestamp") (PyDict.get data "eventTimestamp"))
      (PyDict.get data "timestamp_iso")) (PyDict.get data "timestamp"))
      (PyDict.get data "emitted_at")

def requiredDecimal (value : PyValue) : Option Decimal :=
  if value.isNone then none else env.decimal (env.str value)

def strOrNone (value : PyValue) : Option String :=
  if value.isNone then none
  else
    let text := stripString (env.str value)
    if text = "" then none else some text

/-- `a == b` of decimals. -/
def decimalEquals (first second : Decimal) : Bool := first = second && first ≠ .nan

def requireElse (condition : Bool) (reason : String) : Except Refusal Unit :=
  if condition then .ok () else .error (.deadLetter reason)

def readMoment : Except Refusal PyDatetime := do
  let moment := estimateTimestamp env clock data
  requireElse moment.utcOffset.isSome "savings-estimated event has naive event_timestamp"
  match moment.astimezoneUtc with
  | none => .error .raised
  | some moment => .ok moment

def readAmounts : Except Refusal (Decimal × Decimal × Decimal) :=
  match requiredDecimal env (firstPresent data ["local_cost_usd", "localCostUsd"]),
    requiredDecimal env (firstPresent data ["cloud_cost_usd", "cloudCostUsd"]),
    requiredDecimal env (firstPresent data ["savings_usd", "savingsUsd"]) with
  | some localCostUsd, some cloudCostUsd, some savingsUsd =>
    match env.sub cloudCostUsd localCostUsd with
    | none => .error .raised
    | some difference =>
      if decimalEquals savingsUsd difference then .ok (localCostUsd, cloudCostUsd, savingsUsd)
      else
        .error (.deadLetter ("savings-estimated event has inconsistent savings " ++
          "(savings_usd=" ++ env.decimalText savingsUsd ++ " != cloud-local=" ++
          env.decimalText difference ++ ")"))
  | _, _, _ =>
    .error (.deadLetter "savings-estimated event has missing or non-numeric cost fields")

def readNormalized : Except Refusal SavingsRow := do
  let sessionId := strippedText env data "session_id" "sessionId"
  requireElse (sessionId ≠ "") "savings-estimated event missing session_id"
  let eventTimestamp ← readMoment env clock data
  let modelLocal := strippedText env data "model_local" "modelLocal"
  let modelCloudBaseline := strippedText env data "model_cloud_baseline" "modelCloudBaseline"
  requireElse (modelLocal ≠ "" ∧ modelCloudBaseline ≠ "")
    "savings-estimated event missing model identifiers"
  let amounts ← readAmounts env data
  return {
    eventTimestamp := eventTimestamp
    sessionId := sessionId
    modelLocal := modelLocal
    modelCloudBaseline := modelCloudBaseline
    localCostUsd := amounts.1
    cloudCostUsd := amounts.2.1
    savingsUsd := amounts.2.2
    repoName := strOrNone env (pyOr (PyDict.get data "repo_name") (PyDict.get data "repoName"))
    machineId := strOrNone env (pyOr (PyDict.get data "machine_id") (PyDict.get data "machineId"))
    tenantId := none }

/-- What the estimate branch of `project_event` hands to `_upsert_savings_estimate`. -/
def readEstimate : Except Refusal SavingsRow := do
  let data ← normalizeSavingsEstimatePayload env data
  readNormalized env clock data

/-- The arguments of `_upsert_savings_estimate`: no tenant. -/
def ModelDelegateSkillSavingsProjection.plainRow
    (projection : ModelDelegateSkillSavingsProjection) : SavingsRow :=
  { projection.stampedRow with tenantId := none }

/-- The upsert of a projection; an exception of its construction is not caught. -/
def upsertProjection : Except Refusal (Option ModelDelegateSkillSavingsProjection) → Outcome
  | .error _ => .error .raised
  | .ok none => .ok none
  | .ok (some projection) => writeRow held projection.plainRow

/-- `_project_delegate_skill_savings`. -/
def runnerProjectDelegateSkillSavings : Outcome :=
  match fromPayload env data with
  | none =>
    .error (.deadLetter ("delegate-skill terminal event failed savings model validation: " ++
      env.validationText data))
  | some terminal => upsertProjection held (fromTerminalEvent env clock terminal)

/-- `_project_canonical_delegation_savings`. -/
def runnerProjectCanonicalDelegationSavings : Outcome :=
  match fromCanonicalPayload env data with
  | .error .invalid =>
    .error (.deadLetter ("canonical delegation terminal failed savings source model " ++
      "validation: " ++ env.validationText data))
  | .error refusal => .error refusal
  | .ok source => upsertProjection held (fromTaskDelegatedEvent env clock source)

end

/-- `SavingsProjectionRunner.project_event`. -/
def runnerProjectEvent (topic : String) (data : PyDict) : Outcome :=
  if topic = topicWith "delegate-skill-completed" ∨ topic = topicWith "delegate-skill-failed" then
    runnerProjectDelegateSkillSavings env held clock data
  else if topic ≠ "" ∧
      (topic = topicWith "delegation-completed" ∨ topic = topicWith "delegation-failed") then
    runnerProjectCanonicalDelegationSavings env held clock data
  else
    match readEstimate env clock data with
    | .error refusal => .error refusal
    | .ok row => writeRow held row

end

end OmniMarket.SavingsProjection
