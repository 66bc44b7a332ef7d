import OmniMarket.DelegationProjection.BudgetState

/-!
# The delegation_events row

`HandlerProjectionDelegation` builds a row from each of three kinds of events, keeps some values of
the stored row and upserts the rest. A row is a dictionary from columns to values; decimals are
numbers.
-/

namespace OmniMarket.DelegationProjection

section

open PyText

/-! ## Values -/

abbrev Row := OrderedDict String PyValue

/-- `row.get(column)`. -/
def Row.get (row : Row) (column : String) : PyValue := (OrderedDict.get? row column).getD .none

/-- `row.update(values)`. -/
def Row.update (row : Row) (values : PyDict) : Row :=
  values.foldl (fun row entry => OrderedDict.set row entry.1 entry.2) row

def optionText : Option String → PyValue
  | none => .none
  | some text => .str text

def number (value : ℚ) : PyValue := .float (.finite value)

def optionNumber : Option ℚ → PyValue
  | none => .none
  | some value => number value

def optionInt : Option ℕ → PyValue
  | none => .none
  | some value => .int value

def textList (texts : List String) : PyValue := .list (texts.map .str)

/-- `model_dump(mode="json")`. -/
def ModelPremiumCounterfactual.dump (counterfactual : ModelPremiumCounterfactual) : PyValue :=
  .dict [("model", .str counterfactual.model),
    ("price_in_per_1k", number counterfactual.priceInPer1k),
    ("price_out_per_1k", number counterfactual.priceOutPer1k),
    ("as_of", .str counterfactual.asOf), ("tokens_in", .int counterfactual.tokensIn),
    ("tokens_out", .int counterfactual.tokensOut),
    ("counterfactual_cost_usd", number counterfactual.counterfactualCostUsd),
    ("pricing_source", .str counterfactual.pricingSource),
    ("measured", .bool counterfactual.measured)]

def dumpCounterfactual : Option ModelPremiumCounterfactual → PyValue
  | none => .none
  | some counterfactual => counterfactual.dump

/-- What the handler uses of the standard library and of pydantic besides the budget. -/
structure ProjectionEnv extends BudgetEnv where
  price : ℚ → ℕ → ℚ
  parseFloat : String → Option PyFloat
  parseInt : String → Option ℤ
  str : PyValue → String
  lower : String → String
  casefold : String → String
  /-- `ModelTaskDelegatedEvent(**payload)`; `none` is a validation error. -/
  parseTaskDelegated : PyDict → Option ModelTaskDelegatedEvent

/-! ## Checks of values -/

def isBlank : PyValue → Bool
  | .none => true
  | .str text => stripString text = ""
  | _ => false

section

variable (env : ProjectionEnv)

def isZero : PyValue → Bool
  | .none => true
  | .bool value => !value
  | .int value => value = 0
  | .float value => value = .finite 0
  | .str text => env.parseFloat text = some (.finite 0)
  | .list _ => false
  | .dict _ => false

/-- `_as_decimal`: a number, zero for what has none. -/
def asDecimal : PyValue → ℚ
  | .bool value => if value then 1 else 0
  | .int value => value
  | .float (.finite value) => value
  | .str text =>
    match env.parseFloat text with
    | some (.finite value) => value
    | _ => 0
  | _ => 0

def asInt : PyValue → ℤ
  | .bool value => if value then 1 else 0
  | .int value => value
  | .float (.finite value) => if 0 ≤ value then ⌊value⌋ else ⌈value⌉
  | .str text => (env.parseInt text).getD 0
  | _ => 0

/-! ## Quality-bar evidence -/

/-- `_label_values`: what follows the first `=` of the labels with the prefix. -/
def labelValues (labels : List String) : OrderedDict String String :=
  labels.foldl (fun values label =>
    if "p3.".toList.isPrefixOf label.toList then
      let rest := label.toList.drop 3
      let key := rest.takeWhile (· ≠ '=')
      if key.length < rest.length ∧ key ≠ [] then
        values.set (String.ofList key) (String.ofList (rest.drop (key.length + 1)))
      else values
    else values) .empty

def firstValue (payload : Row) (values : OrderedDict String String) (keys : List String) :
    PyValue :=
  match keys.find? fun key => !(payload.get key).isNone with
  | some key => payload.get key
  | none =>
    match keys.findSome? values.get? with
    | some text => .str text
    | none => .none

def firstFloat (payload : Row) (values : OrderedDict String String) (keys : List String) :
    Except Raised (Option ℚ) :=
  match firstValue payload values keys with
  | .int value =>
    match PyFloat.ofInt value with
    | none => .error .overflow
    | some (.finite value) => .ok (some value)
    | some _ => .ok none
  | .float (.finite value) => .ok (some value)
  | .str text =>
    match env.parseFloat text with
    | some (.finite value) => .ok (some value)
    | _ => .ok none
  | _ => .ok none

def firstBool (payload : Row) (values : OrderedDict String String) (keys : List String) :
    Option Bool :=
  match firstValue payload values keys with
  | .bool value => some value
  | .str text =>
    let lowered := env.lower (stripString text)
    if lowered ∈ ["true", "1", "yes"] then some true
    else if lowered ∈ ["false", "0", "no"] then some false
    else none
  | _ => none

def firstStr (payload : Row) (values : OrderedDict String String) (keys : List String) :
    Option String :=
  match firstValue payload values keys with
  | .none => none
  | value =>
    let text := stripString (env.str value)
    if text = "" then none else some text

def evidenceOf (column : String) (value : Option PyValue) : PyDict :=
  (value.map fun value => (column, value)).toList

def extractQualityBarEvidence (payload : Row) (checkedLabels : List String := []) :
    Except Raised PyDict := do
  let values := labelValues checkedLabels
  let requiredBar ← firstFloat env payload values ["required_bar", "requiredBar"]
  let actualScore ← firstFloat env payload values
    ["actual_score", "actualScore", "quality_score", "qualityScore"]
  let escalationCount ← firstFloat env payload values ["escalation_count", "escalationCount"]
  return evidenceOf "required_bar" (requiredBar.map number) ++
    evidenceOf "actual_score" (actualScore.map number) ++
    evidenceOf "escalation_count" (escalationCount.map fun count => .int (asInt env (number count))) ++
    evidenceOf "authority_source" ((firstStr env payload values ["authority_source",
      "authoritySource", "required_bar_source", "requiredBarSource"]).map .str) ++
    evidenceOf "score_source"
      ((firstStr env payload values ["score_source", "scoreSource"]).map .str) ++
    evidenceOf "request_override_applied" ((firstBool env payload values
      ["request_override_applied", "requestOverrideApplied"]).map .bool) ++
    evidenceOf "override_within_bounds" ((firstBool env payload values
      ["override_within_bounds", "overrideWithinBounds"]).map .bool)

end

/-! ## The row of a task-delegated event -/

def taskColumns : List String :=
  ["correlation_id", "session_id", "timestamp", "task_type", "delegated_to", "model_name",
   "delegated_by", "quality_gate_passed", "quality_gates_checked", "quality_gates_failed",
   "quality_gates_checked_jsonb", "quality_gates_failed_jsonb", "quality_gate_detail", "cost_usd",
   "cost_savings_usd", "delegation_latency_ms", "repo", "is_shadow", "llm_call_id", "tokens_input",
   "tokens_output", "tokens_to_compliance", "compliance_attempts", "prompt_text", "response_text",
   "context_pack_hash", "pricing_manifest_version", "premium_counterfactual", "cost_tier_type",
   "cost_tier_name", "cost_measurement_source", "budget_headroom_consumed_usd", "required_bar",
   "actual_score", "escalation_count", "authority_source", "score_source",
   "request_override_applied", "override_within_bounds"]

theorem taskColumns_nodup : taskColumns.Nodup := by decide

def optionTexts : Option (List String) → PyValue
  | none => .none
  | some texts => textList texts

def taskValues (event : ModelTaskDelegatedEvent) (measurement : ModelActualCostProjection)
    (now : String) : PyDict :=
  [("correlation_id", .str event.correlationId), ("session_id", optionText event.sessionId),
   ("timestamp", .str (textOrElse event.timestamp now)), ("task_type", .str event.taskType),
   ("delegated_to", .str event.delegatedTo), ("model_name", .str event.modelName),
   ("delegated_by", optionText event.delegatedBy),
   ("quality_gate_passed", .bool event.qualityGatePassed),
   ("quality_gates_checked", .int (event.qualityGatesChecked.getD []).length),
   ("quality_gates_failed", .int (event.qualityGatesFailed.getD []).length),
   ("quality_gates_checked_jsonb", optionTexts event.qualityGatesChecked),
   ("quality_gates_failed_jsonb", optionTexts event.qualityGatesFailed),
   ("quality_gate_detail", optionText event.qualityGateDetail),
   ("cost_usd", number measurement.costUsd),
   ("cost_savings_usd", number measurement.costSavingsUsd),
   ("delegation_latency_ms", optionInt event.delegationLatencyMs),
   ("repo", optionText event.repo), ("is_shadow", .bool event.isShadow),
   ("llm_call_id", if event.llmCallId = "" then .none else .str event.llmCallId),
   ("tokens_input", .int event.tokensInput), ("tokens_output", .int event.tokensOutput),
   ("tokens_to_compliance", .int event.tokensToCompliance),
   ("compliance_attempts", .int event.complianceAttempts),
   ("prompt_text", optionText event.promptText), ("response_text", optionText event.responseText),
   ("context_pack_hash", .str event.contextPackHash),
   ("pricing_manifest_version", .int event.pricingManifestVersion),
   ("premium_counterfactual", dumpCounterfactual event.premiumCounterfactual),
   ("cost_tier_type", .str measurement.costTierType),
   ("cost_tier_name", .str measurement.costTierName),
   ("cost_measurement_source", .str measurement.costMeasurementSource),
   ("budget_headroom_consumed_usd", number measurement.headroomConsumedUsd),
   ("required_bar", optionNumber event.requiredBar),
   ("actual_score", optionNumber event.actualScore),
   ("escalation_count", .int event.escalationCount),
   ("authority_source", optionText event.authoritySource),
   ("score_source", optionText event.scoreSource),
   ("request_override_applied", .bool event.requestOverrideApplied),
   ("override_within_bounds", .bool event.overrideWithinBounds)]

def taskRow (event : ModelTaskDelegatedEvent) (measurement : ModelActualCostProjection)
    (now : String) : Row :=
  ⟨taskValues event measurement now, taskColumns_nodup⟩

/-- `row["tenant_id"] = tenant_id`, if there is one. -/
def Row.stampTenant (row : Row) (tenantId : Option String) : Row :=
  if textTruthy tenantId then OrderedDict.set row "tenant_id" (.str (tenantId.getD "")) else row

/-! ## The row of a delegate-skill terminal -/

structure ModelDelegateSkillResponseMetrics where
  inputTokens : ℕ := 0
  outputTokens : ℕ := 0
  totalTokens : ℕ := 0
  tokensToCompliance : ℕ := 0
  complianceAttempts : ℕ := 0
  costUsd : ℚ := 0
  costSavingsUsd : ℚ := 0
  premiumCounterfactual : Option ModelPremiumCounterfactual := none
  latencyMs : ℕ := 0
  cost_nonneg : 0 ≤ costUsd := by decide
  savings_nonneg : 0 ≤ costSavingsUsd := by decide

/-- `ModelDelegateSkillTerminalProjection`, with its correlation id and session id as texts. -/
structure ModelDelegateSkillTerminal where
  status : String
  correlationId : NonEmptyString
  taskType : String
  tenantId : Option String := none
  provider : String := ""
  modelName : String := ""
  pricingManifestVersion : ℕ := 0
  promptText : String := ""
  response : String := ""
  qualityGatePassed : Bool := false
  qualityGatesFailed : List String := []
  metrics : ModelDelegateSkillResponseMetrics := {}
  errorMessage : String := ""
  emittedAt : PyDatetime
  sessionId : Option String := none
  repoName : Option String := none
  contextPackHash : String := ""

def terminalColumns : List String :=
  ["correlation_id", "session_id", "timestamp", "created_at", "task_type", "delegated_to",
   "model_name", "delegated_by", "quality_gate_passed", "quality_gates_checked",
   "quality_gates_failed", "quality_gates_checked_jsonb", "quality_gates_failed_jsonb",
   "quality_gate_detail", "cost_usd", "cost_savings_usd", "delegation_latency_ms", "latency_ms",
   "repo", "is_shadow", "prompt_text", "response_text", "context_pack_hash", "tokens_input",
   "tokens_output", "tokens_to_compliance", "compliance_attempts", "pricing_manifest_version",
   "premium_counterfactual", "projection_version", "reducer_version"]

theorem terminalColumns_nodup : terminalColumns.Nodup := by decide

def orText (first second : String) : String := if first = "" then second else first

section

variable (event : ModelDelegateSkillTerminal)

/-- `response_text` of a terminal: its error message only when the gate did not pass. -/
def terminalResponse : PyValue :=
  let fallback := if event.qualityGatePassed then "" else event.errorMessage
  let text := orText event.response fallback
  if text = "" then .none else .str text

/-- `ModelDelegationEventProjectionRow.from_terminal_event` and the row made of it. -/
def terminalValues (timestampIso : String) : PyDict :=
  let metrics := event.metrics
  let tokensToCompliance :=
    if metrics.tokensToCompliance = 0 then metrics.totalTokens else metrics.tokensToCompliance
  [("correlation_id", .str event.correlationId.value), ("session_id", optionText event.sessionId),
   ("timestamp", .str timestampIso), ("created_at", .str timestampIso),
   ("task_type", .str event.taskType),
   ("delegated_to", .str (orText event.modelName (orText event.provider "delegate-skill"))),
   ("model_name", .str event.modelName), ("delegated_by", .str "delegate-skill-orchestrator"),
   ("quality_gate_passed", .bool event.qualityGatePassed), ("quality_gates_checked", .int 1),
   ("quality_gates_failed", .int event.qualityGatesFailed.length),
   ("quality_gates_checked_jsonb", textList ["delegate-skill-terminal"]),
   ("quality_gates_failed_jsonb", textList event.qualityGatesFailed),
   ("quality_gate_detail", .str (orText event.errorMessage event.status)),
   ("cost_usd", number metrics.costUsd), ("cost_savings_usd", number metrics.costSavingsUsd),
   ("delegation_latency_ms", .int metrics.latencyMs), ("latency_ms", .int metrics.latencyMs),
   ("repo", optionText event.repoName), ("is_shadow", .bool false),
   ("prompt_text", .str event.promptText), ("response_text", terminalResponse event),
   ("context_pack_hash", .str event.contextPackHash), ("tokens_input", .int metrics.inputTokens),
   ("tokens_output", .int metrics.outputTokens), ("tokens_to_compliance", .int tokensToCompliance),
   ("compliance_attempts", .int metrics.complianceAttempts),
   ("pricing_manifest_version", .int event.pricingManifestVersion),
   ("premium_counterfactual", dumpCounterfactual metrics.premiumCounterfactual),
   ("projection_version", .str "1.0.0"), ("reducer_version", .str "1.0.0")]

def terminalRow (timestampIso : String) : Row :=
  ⟨terminalValues event timestampIso, terminalColumns_nodup⟩

end

/-! ## Keeping evidence -/

section

variable (env : ProjectionEnv)

/-- A value that the test finds missing is filled from the stored row. -/
def keepIf (missing : PyValue → Bool) (existing row : Row) (column : String) : Row :=
  if missing (row.get column) && !missing (existing.get column) then
    OrderedDict.set row column (existing.get column)
  else row

def textColumns : List String := ["prompt_text", "response_text", "context_pack_hash"]

def amountColumns : List String :=
  ["tokens_input", "tokens_output", "tokens_to_compliance", "cost_usd", "cost_savings_usd",
   "delegation_latency_ms", "pricing_manifest_version", "required_bar", "actual_score",
   "escalation_count"]

def sourceColumns : List String := ["authority_source", "score_source"]

/-- The answer of a passed delegation is not replaced by that of a failed one. -/
def keepResponse (existing row : Row) : Row :=
  if (existing.get "quality_gate_passed").truthy && !(row.get "quality_gate_passed").truthy &&
      !isBlank (existing.get "response_text") then
    OrderedDict.set row "response_text" (existing.get "response_text")
  else row

def keepOverride (existing row : Row) : Row :=
  if (existing.get "request_override_applied").truthy then
    OrderedDict.set row "request_override_applied" (.bool true)
  else row

def keepBounds (existing row : Row) : Row :=
  if existing.get "override_within_bounds" = .bool false then
    OrderedDict.set row "override_within_bounds" (.bool false)
  else row

def keepAttempts (existing row : Row) : Row :=
  if asInt env (row.get "compliance_attempts") ≤ 1 ∧
      1 < asInt env (existing.get "compliance_attempts") then
    OrderedDict.set row "compliance_attempts" (existing.get "compliance_attempts")
  else row

/-- `_preserve_existing_evidence` beside a stored row. -/
def preserveFrom (existing row : Row) : Row :=
  let row := textColumns.foldl (keepIf isBlank existing) row
  let row := keepResponse existing row
  let row := amountColumns.foldl (keepIf (isZero env) existing) row
  let row := sourceColumns.foldl (keepIf isBlank existing) row
  keepAttempts env existing (keepBounds existing (keepOverride existing row))

/-! ## The tables -/

structure ProjectionStore where
  delegationEvents : OrderedDict String Row := .empty
  budgetState : BudgetTable := .empty

/-- `_preserve_existing_evidence`. -/
def ProjectionStore.preserve (db : ProjectionStore) (correlationId : String) (row : Row) : Row :=
  if correlationId = "" then row
  else
    match db.delegationEvents.get? correlationId with
    | none => row
    | some existing => preserveFrom env existing row

/-- `db.upsert`: the columns that the row carries replace those of the stored row. -/
def ProjectionStore.upsert (db : ProjectionStore) (correlationId : String) (row : Row) :
    ProjectionStore :=
  let stored := (db.delegationEvents.get? correlationId).getD .empty
  { db with
    delegationEvents := db.delegationEvents.set correlationId (stored.update row.entries) }

structure ModelProjectionResult where
  rowsUpserted : ℕ := 0
  table : String := "delegation_events"

def taskEventRow (event : ModelTaskDelegatedEvent) (now : PyDatetime) : Except Raised Row := do
  let measurement := measureActualCost env.price env.toBudgetEnv event
  let row := taskRow event measurement (env.isoformat now)
  requireTenantId env.toBudgetEnv event.tenantId "delegation_events"
  let row := row.stampTenant event.tenantId
  let evidence ← extractQualityBarEvidence env row
  let labelled ← extractQualityBarEvidence env .empty (event.qualityGatesChecked.getD [])
  return row.update (evidence ++ labelled)

def budgetEvent (event : ModelTaskDelegatedEvent) : Except Raised ModelDelegationBudgetStateEvent :=
  let measurement := measureActualCost env.price env.toBudgetEnv event
  if valid : event.correlationId ≠ "" ∧ 0 ≤ measurement.headroomConsumedUsd ∧
      0 ≤ measurement.costUsd then
    .ok {
      correlationId := ⟨event.correlationId, valid.1⟩
      costTierName := measurement.costTierName
      budgetHeadroomConsumedUsd := measurement.headroomConsumedUsd
      costUsd := measurement.costUsd
      tenantId := event.tenantId
      timestamp := event.timestamp
      drawdown_nonneg := valid.2.1
      cost_nonneg := valid.2.2 }
  else .error (.invalid ["correlation_id", "budget_headroom_consumed_usd", "cost_usd"])

def project (db : ProjectionStore) (event : ModelTaskDelegatedEvent) (now : PyDatetime) :
    ProjectionStore × Except Raised ModelProjectionResult :=
  match taskEventRow env event now with
  | .error raised => (db, .error raised)
  | .ok row =>
    let db := db.upsert event.correlationId (db.preserve env event.correlationId row)
    match budgetEvent env event with
    | .error raised => (db, .error raised)
    | .ok budget =>
      let materialized := materializeBudgetState env.toBudgetEnv db.budgetState ⟨budget, now⟩
      ({ db with budgetState := materialized.1 },
        materialized.2.map fun _ => { rowsUpserted := 1 })

def terminalEventRow (event : ModelDelegateSkillTerminal) : Except Raised Row := do
  let row := terminalRow event (env.isoformat event.emittedAt)
  requireTenantId env.toBudgetEnv event.tenantId "delegation_events"
  return row.stampTenant event.tenantId

def projectDelegateSkillTerminal (db : ProjectionStore) (event : ModelDelegateSkillTerminal) :
    ProjectionStore × Except Raised ModelProjectionResult :=
  match terminalEventRow env event with
  | .error raised => (db, .error raised)
  | .ok row =>
    (db.upsert event.correlationId.value (db.preserve env event.correlationId.value row),
      .ok { rowsUpserted := 1 })

end

theorem budgetEvent_ok {env : ProjectionEnv} {event : ModelTaskDelegatedEvent}
    {budget : ModelDelegationBudgetStateEvent} (valid : budgetEvent env event = .ok budget) :
    let measurement := measureActualCost env.price env.toBudgetEnv event
    budget.correlationId.value = event.correlationId ∧
      budget.costTierName = measurement.costTierName ∧
      budget.budgetHeadroomConsumedUsd = measurement.headroomConsumedUsd ∧
      budget.costUsd = measurement.costUsd := by
  unfold budgetEvent at valid
  dsimp only at valid
  split at valid
  · obtain ⟨rfl⟩ := Except.ok.inj valid
    exact ⟨rfl, rfl, rfl, rfl⟩
  · cases valid

/-! ## What a merge leaves -/

section

variable {existing row : Row} {column : String}

theorem get_of_get? {value : PyValue} (held : OrderedDict.get? row column = some value) :
    row.get column = value := by
  rw [Row.get, held]
  rfl

theorem update_get? {values : PyDict} (row : Row) (column : String)
    (distinct : (values.map Prod.fst).Nodup) :
    OrderedDict.get? (row.update values) column =
      (OrderedDict.lookupEntry column values).or (OrderedDict.get? row column) := by
  induction values generalizing row with
  | nil => rfl
  | cons entry rest ih =>
    obtain ⟨key, value⟩ := entry
    rw [List.map_cons, List.nodup_cons] at distinct
    have later : OrderedDict.get? (row.update ((key, value) :: rest)) column =
        (OrderedDict.lookupEntry column rest).or
          (OrderedDict.get? (OrderedDict.set row key value) column) := ih _ distinct.2
    rw [later, OrderedDict.lookupEntry]
    split
    · next same =>
      rw [OrderedDict.lookupEntry_eq_none (same ▸ distinct.1), same, OrderedDict.get?_set_self]
      rfl
    · next differs => rw [OrderedDict.get?_set_other (Ne.symm differs)]

theorem update_other {values : PyDict} (row : Row) (unnamed : column ∉ values.map Prod.fst) :
    OrderedDict.get? (row.update values) column = OrderedDict.get? row column := by
  induction values generalizing row with
  | nil => rfl
  | cons entry rest ih =>
    rw [List.map_cons, List.mem_cons, not_or] at unnamed
    exact (ih _ unnamed.2).trans (OrderedDict.get?_set_other unnamed.1)

theorem keepIf_get? (missing : PyValue → Bool) (existing row : Row) (other : String) :
    OrderedDict.get? (keepIf missing existing row other) column =
      if column = other ∧ (missing (row.get column) && !missing (existing.get column)) = true then
        some (existing.get column)
      else OrderedDict.get? row column := by
  unfold keepIf
  by_cases own : column = other
  · subst own
    split
    · next kept => rw [OrderedDict.get?_set_self, if_pos ⟨rfl, kept⟩]
    · next left => exact (if_neg fun both => left both.2).symm
  · refine Eq.trans ?_ (if_neg fun both => own both.1).symm
    split
    · exact OrderedDict.get?_set_other own
    · rfl

theorem keepAll_get? (missing : PyValue → Bool) (existing row : Row) (columns : List String) :
    OrderedDict.get? (columns.foldl (keepIf missing existing) row) column =
      if column ∈ columns ∧ (missing (row.get column) && !missing (existing.get column)) = true then
        some (existing.get column)
      else OrderedDict.get? row column := by
  induction columns generalizing row with
  | nil => simp
  | cons other rest ih =>
    rw [List.foldl_cons, ih]
    have head : OrderedDict.get? (keepIf missing existing row other) column = _ :=
      keepIf_get? missing existing row other
    by_cases kept : column = other ∧
        (missing (row.get column) && !missing (existing.get column)) = true
    · -- what was filled is not missing any more
      rw [if_pos kept] at head
      have filled : missing (existing.get column) = false := by
        have both := kept.2
        rw [Bool.and_eq_true, Bool.not_eq_true'] at both
        exact both.2
      rw [get_of_get? head, head]
      refine Eq.trans (if_neg ?_) (if_pos ⟨kept.1 ▸ List.mem_cons_self, kept.2⟩).symm
      simp [filled]
    · rw [if_neg kept] at head
      have value : (keepIf missing existing row other).get column = row.get column := by
        rw [Row.get, head, Row.get]
      rw [value, head]
      refine if_congr ?_ rfl rfl
      rw [List.mem_cons]
      constructor
      · exact fun both => ⟨.inr both.1, both.2⟩
      · rintro ⟨own | later, both⟩
        · exact absurd ⟨own, both⟩ kept
        · exact ⟨later, both⟩

theorem keepResponse_other (other : column ≠ "response_text") :
    OrderedDict.get? (keepResponse existing row) column = OrderedDict.get? row column := by
  unfold keepResponse
  split
  · exact OrderedDict.get?_set_other other
  · rfl

theorem keepOverride_other (other : column ≠ "request_override_applied") :
    OrderedDict.get? (keepOverride existing row) column = OrderedDict.get? row column := by
  unfold keepOverride
  split
  · exact OrderedDict.get?_set_other other
  · rfl

theorem keepBounds_other (other : column ≠ "override_within_bounds") :
    OrderedDict.get? (keepBounds existing row) column = OrderedDict.get? row column := by
  unfold keepBounds
  split
  · exact OrderedDict.get?_set_other other
  · rfl

theorem keepAttempts_other {env : ProjectionEnv} (other : column ≠ "compliance_attempts") :
    OrderedDict.get? (keepAttempts env existing row) column = OrderedDict.get? row column := by
  unfold keepAttempts
  split
  · exact OrderedDict.get?_set_other other
  · rfl

theorem preserveFrom_other (env : ProjectionEnv) (existing row : Row)
    (unkept : column ∉ textColumns ++ amountColumns ++ sourceColumns ++
      ["request_override_applied", "override_within_bounds", "compliance_attempts"]) :
    OrderedDict.get? (preserveFrom env existing row) column = OrderedDict.get? row column := by
  simp only [List.mem_append, not_or, List.mem_cons, List.not_mem_nil, or_false] at unkept
  obtain ⟨⟨⟨texts, amounts⟩, sources⟩, override, bounds, attempts⟩ := unkept
  have response : column ≠ "response_text" := by
    rintro rfl
    exact texts (by decide)
  have fills {missing : PyValue → Bool} {row : Row} {columns : List String}
      (absent : column ∉ columns) : OrderedDict.get?
        (columns.foldl (keepIf missing existing) row) column = OrderedDict.get? row column := by
    rw [keepAll_get?, if_neg (fun both => absent both.1)]
  rw [preserveFrom, keepAttempts_other attempts, keepBounds_other bounds,
    keepOverride_other override, fills sources, fills amounts, keepResponse_other response,
    fills texts]

theorem preserveFrom_amount (env : ProjectionEnv) (existing row : Row)
    (amount : column ∈ amountColumns) :
    OrderedDict.get? (preserveFrom env existing row) column =
      if (isZero env (row.get column) && !isZero env (existing.get column)) = true then
        some (existing.get column)
      else OrderedDict.get? row column := by
  have apart : ∀ other ∈ amountColumns, other ∉ textColumns ∧ other ∉ sourceColumns ∧
      other ≠ "response_text" ∧ other ≠ "request_override_applied" ∧
      other ≠ "override_within_bounds" ∧ other ≠ "compliance_attempts" := by decide
  obtain ⟨text, source, response, override, bounds, attempts⟩ := apart column amount
  have before : OrderedDict.get? (keepResponse existing
      (textColumns.foldl (keepIf isBlank existing) row)) column = OrderedDict.get? row column := by
    rw [keepResponse_other response, keepAll_get?, if_neg (fun both => text both.1)]
  rw [preserveFrom, keepAttempts_other attempts, keepBounds_other bounds,
    keepOverride_other override, keepAll_get?, if_neg (fun both => source both.1), keepAll_get?,
    Row.get, before]
  simp only [amount, true_and]
  rfl

end

end

/-!
# The events of the delegation projection

`HandlerProjectionDelegation.handle` for the events that write delegation_events: a task-delegated
event, a canonical delegation terminal, which is converted first, and a delegate-skill terminal.
-/

section

open PyText

/-! ## Canonical terminals -/

/-- `first or second`. -/
def pyOr (first second : PyValue) : PyValue := if first.truthy then first else second

def attemptsOf (escalationHistory : PyValue) : List PyDict :=
  ((escalationHistory.asList?).getD []).filterMap PyValue.asDict?

/-- `_winning_metered_tier_name`: the last attempt with a positive cost and a tier name. -/
def winningMeteredTierName (escalationHistory : PyValue) : String :=
  (attemptsOf escalationHistory).foldl (fun winner attempt =>
    match numberOf (attempt.get "cost_usd"), attempt.get "tier_name" with
    | some cost, .str tierName => if 0 < cost ∧ tierName ≠ "" then tierName else winner
    | _, _ => winner) ""

section

variable (env : ProjectionEnv)

def isDelegationTimeoutString : PyValue → Bool
  | .str text =>
    let lowered := (env.casefold text).toList
    containsText "timed out before runtime completion".toList lowered ||
      containsText "timed out after".toList lowered
  | _ => false

def canonicalResponseText (payload : PyDict) (qualityPassed : Bool) : PyValue :=
  let content := payload.get "content"
  if qualityPassed && isDelegationTimeoutString env content then .none
  else
    match content with
    | .str text => .str text
    | _ => .none

def positiveNumber (value : PyValue) : Option ℚ :=
  (numberOf value).filter fun number => 0 < number

/-- The metered total of a canonical terminal. -/
def canonicalCostUsd (payload : PyDict) : ℚ :=
  match positiveNumber (payload.get "cumulative_attempt_cost") with
  | some cost => cost
  | none => (positiveNumber (payload.get "final_attempt_cost")).getD 0

def canonicalResultToTaskDelegatedPayload (payload : PyDict) : PyDict :=
  let qualityPassed := (payload.get "quality_passed").truthy
  let failureReason :=
    if (payload.get "failure_reason").truthy then env.str (payload.get "failure_reason") else ""
  let escalationHistory := pyOr (payload.get "escalation_history") (.list [])
  let terminalTier := ((payload.get "cost_tier_name").asStr?).getD ""
  [("correlation_id", payload.get "correlation_id"), ("tenant_id", payload.get "tenant_id"),
   ("task_type", pyOr (payload.get "task_type") (.str "unknown")),
   ("delegated_to", pyOr (payload.get "model_used") (.str "unknown")),
   ("model_name", pyOr (payload.get "model_used") (.str "")),
   ("quality_gate_passed", .bool qualityPassed),
   ("quality_gates_failed",
     if failureReason ≠ "" ∧ qualityPassed = false then textList [failureReason] else .list []),
   ("quality_gate_detail", if failureReason = "" then .none else .str failureReason),
   ("delegation_latency_ms", payload.get "latency_ms"),
   ("context_pack_hash", pyOr (payload.get "context_pack_hash") (.str "")),
   ("prompt_text", payload.get "prompt_text"),
   ("response_text", canonicalResponseText env payload qualityPassed),
   ("tokens_input", pyOr (payload.get "prompt_tokens") (.int 0)),
   ("tokens_output", pyOr (payload.get "completion_tokens") (.int 0)),
   ("tokens_to_compliance", pyOr (payload.get "tokens_to_compliance") (.int 0)),
   ("compliance_attempts", pyOr (payload.get "compliance_attempts") (.int 1)),
   ("required_bar", payload.get "required_bar"),
   ("actual_score", pyOr (payload.get "actual_score") (payload.get "quality_score")),
   ("escalation_count", pyOr (payload.get "escalation_count") (.int 0)),
   ("cost_usd", number (canonicalCostUsd payload)),
   ("cost_tier_name", .str (orText terminalTier (winningMeteredTierName escalationHistory))),
   ("escalation_history", escalationHistory),
   ("authority_source", pyOr (payload.get "authority_source") (payload.get "required_bar_source")),
   ("score_source", payload.get "score_source"),
   ("request_override_applied", pyOr (payload.get "request_override_applied") (.bool false)),
   ("override_within_bounds", .bool (payload.get "override_within_bounds" ≠ .bool false))]

/-! ## The handler -/

inductive DelegationEvent where
  | taskDelegated (event : ModelTaskDelegatedEvent)
  | canonical (payload : PyDict)
  | delegateSkillTerminal (event : ModelDelegateSkillTerminal)

structure EventDelivery where
  event : DelegationEvent
  now : PyDatetime

def handle (db : ProjectionStore) (delivery : EventDelivery) :
    ProjectionStore × Except Raised ModelProjectionResult :=
  match delivery.event with
  | .taskDelegated event => project env db event delivery.now
  | .canonical payload =>
    match env.parseTaskDelegated (canonicalResultToTaskDelegatedPayload env payload) with
    | none => (db, .error (.invalid []))
    | some event => project env db event delivery.now
  | .delegateSkillTerminal event => projectDelegateSkillTerminal env db event

def DelegationEvent.correlationId : DelegationEvent → Option String
  | .taskDelegated event => some event.correlationId
  | .canonical payload =>
    (env.parseTaskDelegated (canonicalResultToTaskDelegatedPayload env payload)).map
      (·.correlationId)
  | .delegateSkillTerminal event => some event.correlationId.value

/-- The row that an event gives, before what is kept of the stored one. -/
def EventDelivery.row (delivery : EventDelivery) : Except Raised Row :=
  match delivery.event with
  | .taskDelegated event => taskEventRow env event delivery.now
  | .canonical payload =>
    match env.parseTaskDelegated (canonicalResultToTaskDelegatedPayload env payload) with
    | none => .error (.invalid [])
    | some event => taskEventRow env event delivery.now
  | .delegateSkillTerminal event => terminalEventRow env event

end

end

end OmniMarket.DelegationProjection
