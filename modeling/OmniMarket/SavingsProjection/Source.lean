import OmniMarket.Lib.PyValue
import OmniMarket.Lib.PyText

/-!
# The savings_estimates table

What an upsert of a `savings_estimates` row leaves in the table. The amounts are `NUMERIC(18, 6)`
columns with three checks, the event time is a point of time, and `tenant_id` has a default. A
column that the statement does not name keeps its stored value, or takes its default.
-/

namespace OmniMarket.SavingsProjection

/-- A `Decimal`: finite, infinite or not a number. -/
abbrev Decimal := PyFloat

/-! ## Rows -/

/-- The row an upsert carries. No `tenantId`: the statement does not name the column. -/
structure SavingsRow where
  eventTimestamp : PyDatetime
  sessionId : String
  modelLocal : String
  modelCloudBaseline : String
  localCostUsd : Decimal
  cloudCostUsd : Decimal
  savingsUsd : Decimal
  repoName : Option String
  machineId : Option String
  tenantId : Option String

/-- The identity of a row: `CONFLICT_KEY`. -/
structure ConflictKey where
  sessionId : String
  eventTimestamp : ℤ
  modelLocal : String
  modelCloudBaseline : String
deriving DecidableEq

/-- The three amounts of a stored row, with the checks of the table. -/
@[ext] structure StoredAmounts where
  localCostUsd : ℚ
  cloudCostUsd : ℚ
  savingsUsd : ℚ
  local_nonneg : 0 ≤ localCostUsd
  cloud_nonneg : 0 ≤ cloudCostUsd
  amounts_match : savingsUsd = cloudCostUsd - localCostUsd

instance : DecidableEq StoredAmounts := fun _ _ => decidable_of_iff _ StoredAmounts.ext_iff.symm

structure StoredRow where
  key : ConflictKey
  amounts : StoredAmounts
  repoName : Option String
  machineId : Option String
  tenantId : String

/-- The tenant of each stored row. -/
abbrev HeldTenants := ConflictKey → Option String

/-! ## Columns -/

/-- The value a `NUMERIC(18, 6)` column takes: six places, halves away from zero; `none` for what is
not a finite number below `10 ^ 12`. -/
def numeric : Decimal → Option ℚ
  | .finite amount =>
    let scaled := ⌊|amount| * 10 ^ 6 + 1 / 2⌋
    if scaled < 10 ^ 18 then
      some (if amount < 0 then -(scaled / 10 ^ 6 : ℚ) else (scaled / 10 ^ 6 : ℚ))
    else none
  | _ => none

def storedAmounts (localCostUsd cloudCostUsd savingsUsd : Decimal) : Option StoredAmounts := do
  let localCost ← numeric localCostUsd
  let cloudCost ← numeric cloudCostUsd
  let savings ← numeric savingsUsd
  if checks : 0 ≤ localCost ∧ 0 ≤ cloudCost ∧ savings = cloudCost - localCost then
    some ⟨localCost, cloudCost, savings, checks.1, checks.2.1, checks.2.2⟩
  else none

def SavingsRow.amounts (row : SavingsRow) : Option StoredAmounts :=
  storedAmounts row.localCostUsd row.cloudCostUsd row.savingsUsd

def SavingsRow.key (row : SavingsRow) (moment : PyDatetime) : ConflictKey where
  sessionId := row.sessionId
  eventTimestamp := moment.instant
  modelLocal := row.modelLocal
  modelCloudBaseline := row.modelCloudBaseline

/-- `DEFAULT 'omninode'`. -/
def defaultTenant : String := "omninode"

/-- The tenant a row has when no statement names the column. -/
def keptTenant (held : HeldTenants) (key : ConflictKey) : String :=
  (held key).getD defaultTenant

/-- `INSERT … ON CONFLICT … DO UPDATE`; `none` when the table refuses the row. -/
def upsert (held : HeldTenants) (row : SavingsRow) : Option StoredRow := do
  let moment ← row.eventTimestamp.astimezoneUtc
  let amounts ← row.amounts
  let key := row.key moment
  return ⟨key, amounts, row.repoName, row.machineId, row.tenantId.getD (keptTenant held key)⟩

variable {held : HeldTenants} {row : SavingsRow}

theorem upsert_eq_some {stored : StoredRow} :
    upsert held row = some stored ↔
      ∃ moment amounts, row.eventTimestamp.astimezoneUtc = some moment ∧
        row.amounts = some amounts ∧
        stored = ⟨row.key moment, amounts, row.repoName, row.machineId,
          row.tenantId.getD (keptTenant held (row.key moment))⟩ := by
  unfold upsert
  cases row.eventTimestamp.astimezoneUtc with
  | none => simp
  | some moment =>
    cases row.amounts with
    | none => simp
    | some amounts => simp [eq_comm]

theorem upsert_eq_none :
    upsert held row = none ↔ row.eventTimestamp.astimezoneUtc = none ∨ row.amounts = none := by
  unfold upsert
  cases row.eventTimestamp.astimezoneUtc with
  | none => simp
  | some moment => cases row.amounts <;> simp

theorem upsert_congr {other : SavingsRow}
    (time : row.eventTimestamp.astimezoneUtc = other.eventTimestamp.astimezoneUtc)
    (session : row.sessionId = other.sessionId) (modelLocal : row.modelLocal = other.modelLocal)
    (baseline : row.modelCloudBaseline = other.modelCloudBaseline)
    (amounts : row.amounts = other.amounts) (repo : row.repoName = other.repoName)
    (machine : row.machineId = other.machineId) (tenant : row.tenantId = other.tenantId) :
    upsert held row = upsert held other := by
  unfold upsert SavingsRow.key
  rw [time, session, modelLocal, baseline, amounts, repo, machine, tenant]

/-! ## Outcomes -/

/-- Why a handler writes nothing. -/
inductive Refusal where
  /-- A validation error. -/
  | invalid
  /-- The dead letter of a malformed event, with its reason. -/
  | deadLetter (reason : String)
  /-- Another exception, the table's refusal among them. -/
  | raised

/-- What a handler makes of a payload: the row the table then holds, or no row. -/
abbrev Outcome := Except Refusal (Option StoredRow)

/-- The row that the handler wrote. -/
def Outcome.written (outcome : Outcome) : Option StoredRow := outcome.toOption.join

/-- The upsert as the last act of a handler. -/
def writeRow (held : HeldTenants) (row : SavingsRow) : Outcome :=
  match upsert held row with
  | some stored => .ok (some stored)
  | none => .error .raised

@[simp] theorem written_writeRow (held : HeldTenants) (row : SavingsRow) :
    Outcome.written (writeRow held row) = upsert held row := by
  unfold writeRow
  cases upsert held row <;> rfl

@[simp] theorem written_error (refusal : Refusal) :
    Outcome.written (Except.error refusal) = none := rfl

/-!
# Savings of a delegation

The delegate-skill terminal event and the canonical delegation terminal each become a
`ModelDelegateSkillSavingsProjection`, or no projection when there is no saving to bank. Both
handlers share this code.
-/

section

open PyText

/-! ## Environment -/

/-- `ModelPremiumCounterfactual`, the fields the savings projection reads. -/
structure ModelPremiumCounterfactual where
  model : String
  counterfactualCostUsd : ℚ

/-- `ModelDelegateSkillTerminalProjection`, the fields the savings projection reads. No
`emittedAt`: the field takes the time of its validation. -/
structure ModelDelegateSkillTerminalProjection where
  correlationId : String
  provider : String
  modelName : String
  modelCloudBaseline : String
  costUsd : Decimal
  costSavingsUsd : Decimal
  emittedAt : Option PyDatetime
  repoName : Option String
  machineId : Option String
  tenantId : Option String

/-- What the handlers use of the standard library, of pydantic and of the pricing table. -/
structure SavingsEnv where
  /-- `str(value)` of a value that is not a string. -/
  strOf : PyValue → String
  /-- `Decimal(text)`; `none` is its exception. -/
  decimal : String → Option Decimal
  decimalText : Decimal → String
  /-- `a + b` in the current context; `none` is a trapped signal. -/
  add : Decimal → Decimal → Option Decimal
  /-- `a - b` in the current context. -/
  sub : Decimal → Decimal → Option Decimal
  /-- A value for a field declared `Decimal`; `none` is a validation error. -/
  validateDecimal : PyValue → Option ℚ
  /-- A value for a field declared `datetime`. -/
  validateDatetime : PyValue → Option PyDatetime
  /-- A value for a field declared `UUID`. -/
  validateUuid : PyValue → Option String
  /-- `ModelDelegateSkillTerminalProjection.model_validate` of the declared fields, with the time of
  the envelope for `emitted_at`. -/
  validateTerminal : PyDict → Option PyDatetime → Option ModelDelegateSkillTerminalProjection
  /-- The text of a validation error. -/
  validationText : PyDict → String
  isoparse : String → Option PyDatetime
  fromisoformat : String → Option PyDatetime
  buildPremiumCounterfactual : ℤ → ℤ → Option ModelPremiumCounterfactual
  /-- `metadata.delegate_skill_baseline_model` of the contract. -/
  baselineModel : String

/-- A reading of `datetime.now(UTC)`. -/
structure Clock where
  micros : ℤ
  low : -62135596800000000 ≤ micros
  high : micros ≤ 253402300799999999

def Clock.now (clock : Clock) : PyDatetime := ⟨clock.micros, some 0⟩

/-- `moment.replace(microsecond=0)`. -/
def replaceMicrosecond (moment : PyDatetime) : PyDatetime :=
  { moment with wallClock := moment.wallClock - moment.wallClock % 1000000 }

/-- `first or second` of two values. -/
def pyOr (first second : PyValue) : PyValue := if first.truthy then first else second

section

variable (env : SavingsEnv)

/-- `str(value)`. -/
def SavingsEnv.str : PyValue → String
  | .str text => text
  | value => env.strOf value

/-- A value for a field declared `AwareDatetime`. -/
def SavingsEnv.awareDatetime (value : PyValue) : Option PyDatetime :=
  (env.validateDatetime value).filter fun moment => moment.utcOffset.isSome

/-! ## Projection -/

structure ModelDelegateSkillSavingsProjection where
  eventTimestamp : PyDatetime
  sessionId : String
  modelLocal : String
  modelCloudBaseline : String
  localCostUsd : Decimal
  cloudCostUsd : Decimal
  savingsUsd : Decimal
  repoName : Option String
  machineId : Option String
  tenantId : Option String

/-- The checks of `ModelDelegateSkillSavingsProjection`: finite amounts that match. -/
def checkAmounts (localCostUsd cloudCostUsd savingsUsd : Decimal) : Except Refusal Unit :=
  if localCostUsd.isFinite && cloudCostUsd.isFinite && savingsUsd.isFinite then
    match env.sub cloudCostUsd localCostUsd with
    | none => .error .raised
    | some difference => if savingsUsd = difference then .ok () else .error .invalid
  else .error .invalid

/-- The first keyword of a text field that is not empty. -/
def textOrText (first second : String) : String := if first = "" then second else first

def fromTerminalEvent (clock : Clock) (event : ModelDelegateSkillTerminalProjection) :
    Except Refusal (Option ModelDelegateSkillSavingsProjection) :=
  if event.costSavingsUsd.le (.finite 0) then .ok none
  else
    let modelLocal := textOrText event.modelName event.provider
    if modelLocal = "" then .ok none
    else
      match env.add event.costUsd event.costSavingsUsd with
      | none => .error .raised
      | some cloudCostUsd =>
        (checkAmounts env event.costUsd cloudCostUsd event.costSavingsUsd).map fun _ => some
          { eventTimestamp := replaceMicrosecond (event.emittedAt.getD clock.now)
            sessionId := event.correlationId
            modelLocal := modelLocal
            modelCloudBaseline := textOrText event.modelCloudBaseline env.baselineModel
            localCostUsd := event.costUsd
            cloudCostUsd := cloudCostUsd
            savingsUsd := event.costSavingsUsd
            repoName := event.repoName
            machineId := event.machineId
            tenantId := event.tenantId }

/-! ## Delegate-skill terminal -/

def terminalKeys : List String :=
  ["status", "correlation_id", "task_type", "provider", "model_name", "pricing_manifest_version",
    "response", "quality_gate_passed", "quality_score", "quality_gates_failed", "metrics",
    "error_message", "escalation_count", "attempts", "emitted_at", "emittedAt", "timestamp",
    "session_id", "sessionId", "tenant_id", "tenantId", "machine_id", "machineId", "repo_name",
    "repoName", "repo", "prompt_text", "promptText", "prompt", "context_pack_hash",
    "contextPackHash", "model_cloud_baseline", "modelCloudBaseline", "baseline_model",
    "baselineModel"]

section

variable (payload : PyDict)

def declared : PyDict := payload.filter fun entry => entry.1 ∈ terminalKeys

def hasTimestamp : Bool :=
  ["emitted_at", "emittedAt", "timestamp"].any fun key => !(PyDict.get payload key).isNone

/-- The time that `_payload_with_envelope_timestamp` takes from the envelope, if any; `none` is a
validation error of the envelope. -/
def envelopeTimestamp : Option (Option PyDatetime) :=
  if hasTimestamp payload then some none
  else
    match PyDict.get payload "_envelope" with
    | .dict envelope =>
      match PyDict.get envelope "envelope_timestamp" with
      | .none => some none
      | value => (env.awareDatetime value).map some
    | _ => some none

def fromPayload : Option ModelDelegateSkillTerminalProjection := do
  let emittedAt ← envelopeTimestamp env payload
  env.validateTerminal (declared payload) emittedAt

/-! ## Canonical terminal -/

/-- `ModelTaskDelegatedSavingsSource`, as `from_canonical_payload` fills it. -/
@[ext] structure ModelTaskDelegatedSavingsSource where
  correlationId : String
  taskType : NonEmptyString
  delegatedTo : String
  modelName : String
  costUsd : ℚ
  premiumCounterfactual : Option ModelPremiumCounterfactual
  timestamp : Option PyDatetime
  tenantId : Option String
  cost_nonneg : 0 ≤ costUsd

def coerceInt : List PyValue → ℤ
  | [] => 0
  | .int value :: _ => if 0 ≤ value then value else 0
  | .float (.finite value) :: rest =>
    if value.den = 1 ∧ 0 ≤ value then value.num else coerceInt rest
  | _ :: rest => coerceInt rest

/-- `float(value)` of an `int | float` that is not a `bool`; the error is an overflow. -/
def floatOf : PyValue → Except Refusal (Option PyFloat)
  | .int value =>
    match PyFloat.ofInt value with
    | none => .error .raised
    | some value => .ok (some value)
  | .float value => .ok (some value)
  | _ => .ok none

/-- The metered cost of a canonical terminal: the first attempt field that is usable. -/
def canonicalCost : Except Refusal PyFloat := do
  let cumulative ← floatOf (PyDict.get payload "cumulative_attempt_cost")
  let chosen ←
    match cumulative.filter fun cost => !cost.lt (.finite 0) with
    | some cost => pure (some cost)
    | none => floatOf (PyDict.get payload "final_attempt_cost")
  return (chosen.filter fun cost => PyFloat.le (.finite 0) cost).getD (.finite 0)

def optionalField {α : Type} (validate : PyValue → Option α) : PyValue → Option (Option α)
  | .none => some none
  | value => (validate value).map some

def fromCanonicalPayload : Except Refusal ModelTaskDelegatedSavingsSource := do
  let modelUsed := env.str (pyOr (PyDict.get payload "model_used") (.str ""))
  let costUsd ← canonicalCost payload
  let promptTokens := coerceInt
    [PyDict.get payload "cumulative_input_tokens", PyDict.get payload "prompt_tokens"]
  let completionTokens := coerceInt
    [PyDict.get payload "cumulative_output_tokens", PyDict.get payload "completion_tokens"]
  let counterfactual :=
    if (PyDict.get payload "quality_passed").truthy then
      env.buildPremiumCounterfactual promptTokens completionTokens
    else none
  let validated : Option ModelTaskDelegatedSavingsSource := do
    let correlationId ← env.validateUuid (PyDict.get payload "correlation_id")
    let taskType ← (pyOr (PyDict.get payload "task_type") (.str "unknown")).asStr?
    let taskType ← NonEmptyString.validate? taskType
    let timestamp ← optionalField env.awareDatetime
      (pyOr (PyDict.get payload "timestamp") (PyDict.get payload "emitted_at"))
    let tenantId ← optionalField PyValue.asStr? (PyDict.get payload "tenant_id")
    match costUsd with
    | .finite costUsd =>
      if nonneg : 0 ≤ costUsd then
        some ⟨correlationId, taskType, modelUsed, modelUsed, costUsd, counterfactual, timestamp,
          tenantId, nonneg⟩
      else none
    | _ => none
  match validated with
  | some source => .ok source
  | none => .error .invalid

end

def fromTaskDelegatedEvent (clock : Clock) (event : ModelTaskDelegatedSavingsSource) :
    Except Refusal (Option ModelDelegateSkillSavingsProjection) :=
  match event.premiumCounterfactual with
  | none => .ok none
  | some counterfactual =>
    let localCostUsd := PyFloat.finite event.costUsd
    let cloudCostUsd := PyFloat.finite counterfactual.counterfactualCostUsd
    match env.sub cloudCostUsd localCostUsd with
    | none => .error .raised
    | some savingsUsd =>
      if savingsUsd.le (.finite 0) then .ok none
      else
        let modelLocal := textOrText event.modelName event.delegatedTo
        if modelLocal = "" then .ok none
        else
          (checkAmounts env localCostUsd cloudCostUsd savingsUsd).map fun _ => some
            { eventTimestamp := replaceMicrosecond (event.timestamp.getD clock.now)
              sessionId := event.correlationId
              modelLocal := modelLocal
              modelCloudBaseline := textOrText counterfactual.model env.baselineModel
              localCostUsd := localCostUsd
              cloudCostUsd := cloudCostUsd
              savingsUsd := savingsUsd
              repoName := none
              machineId := none
              tenantId := event.tenantId }

end

end

end OmniMarket.SavingsProjection
