import OmniMarket.Routing.Model

/-!
# Prices and required bars

The two tables a delegation is held to: what a tier costs, and the bar a task class requires.
-/

/-!
# Tier pricing

The cost of one attempt under the typed cost model of its tier. Money is an
exact rational; `round` is the source's rounding to ten digits.
-/

namespace OmniMarket

/-- Outcome of pricing one delegated task. No amount is negative. -/
@[ext]
structure ModelTierCostResult where
  cashCostUsd : ℚ := 0
  headroomConsumedUsd : ℚ := 0
  measurementSource : String
  cash_nonneg : 0 ≤ cashCostUsd := by decide
  headroom_nonneg : 0 ≤ headroomConsumedUsd := by decide

instance : DecidableEq ModelTierCostResult := fun _ _ => decidable_of_iff _ ModelTierCostResult.ext_iff.symm

/-- `round(rate * tokens / 1000, 10)`. -/
def priceTokens (rate : ℚ) (tokens : ℕ) : ℚ :=
  PyNumber.round 10 (rate * tokens / 1000)

theorem priceTokens_nonneg {rate : ℚ} {tokens : ℕ} (nonneg : 0 ≤ rate) :
    0 ≤ priceTokens rate tokens := by
  have scaled : 0 ≤ rate * tokens / 1000 := by positivity
  exact PyNumber.round_nonneg scaled

def coveredTokens (cost : ModelTierCost) (headroom : ℚ) (totalTokens : ℕ) : ℕ :=
  if 0 < cost.ratePer1kUsd then
    min ⌊headroom * 1000 / cost.ratePer1kUsd⌋.toNat totalTokens
  else totalTokens

def computeTierCostUsd (cost : Option ModelTierCost) (promptTokens completionTokens : ℕ)
    (remainingBudgetUsd : Option ℚ := none) : ModelTierCostResult :=
  match cost with
  | none => { measurementSource := "no_cost_model" }
  | some cost =>
    let totalTokens := promptTokens + completionTokens
    match cost.costType with
    | .freeLocal => { measurementSource := "free_local" }
    | .metered =>
      { cashCostUsd := priceTokens cost.ratePer1kUsd totalTokens
        measurementSource := "metered"
        cash_nonneg := priceTokens_nonneg cost.rate_nonneg }
    | .budgeted =>
      -- An unknown headroom counts as none.
      let headroom := remainingBudgetUsd.getD 0
      let inBudgetCost := priceTokens cost.ratePer1kUsd totalTokens
      if inBudgetCost ≤ headroom then
        { headroomConsumedUsd := inBudgetCost
          measurementSource := "budgeted_in_budget"
          headroom_nonneg := priceTokens_nonneg cost.rate_nonneg }
      else if headroom ≤ 0 then
        { cashCostUsd := priceTokens cost.overageRatePer1kUsd totalTokens
          measurementSource := "budgeted_overage"
          cash_nonneg := priceTokens_nonneg cost.overage_nonneg }
      else
        let inBudgetTokens := coveredTokens cost headroom totalTokens
        { cashCostUsd :=
            priceTokens cost.overageRatePer1kUsd (totalTokens - inBudgetTokens)
          headroomConsumedUsd := priceTokens cost.ratePer1kUsd inBudgetTokens
          measurementSource := "budgeted_split"
          cash_nonneg := priceTokens_nonneg cost.overage_nonneg
          headroom_nonneg := priceTokens_nonneg cost.rate_nonneg }

def resolveTierCost (config : ModelDelegationConfig) (tierName : String) :
    Option ModelTierCost :=
  if tierName.isEmpty then none
  else (config.tiers.find? (fun tier => tier.name == tierName)).bind (·.cost)

@[ext]
structure ModelActualCostMeasurement where
  cashCostUsd : ℚ
  costTierName : String
  measurementSource : String
  cash_nonneg : 0 ≤ cashCostUsd

instance : DecidableEq ModelActualCostMeasurement := fun _ _ => decidable_of_iff _ ModelActualCostMeasurement.ext_iff.symm

/-- The measured cost of the tokens at their serving tier. The counterfactual and
the saving against it are not carried by any event of the workflow. -/
def recomputeActualCost (config : ModelDelegationConfig) (tierName : String)
    (promptTokens completionTokens : ℕ) : ModelActualCostMeasurement :=
  let result := computeTierCostUsd (resolveTierCost config tierName) promptTokens completionTokens
  { cashCostUsd := result.cashCostUsd
    costTierName := tierName
    measurementSource := result.measurementSource
    cash_nonneg := result.cash_nonneg }

/-!
# Required-bar authority

`resolveRequiredBarAuthority` reads the score threshold of a task class. A bar
that resolves is a finite number of `[0, 1]`, which the type carries.
-/

/-- A number of `[0, 1]`, as `_bar_value` returns it. -/
@[ext]
structure BarValue where
  value : ℚ
  nonneg : 0 ≤ value
  le_one : value ≤ 1

instance : DecidableEq BarValue := fun _ _ => decidable_of_iff _ BarValue.ext_iff.symm

inductive RequiredBarError where
  /-- `RequiredBarAuthorityError`, which both callers catch. -/
  | authority (message : String)
  /-- A contract integer that does not fit a double; nobody catches it. -/
  | overflow

structure RequiredBarAuthority where
  requiredBar : BarValue
  authoritySource : String
  scoreSource : String
  requestOverrideApplied : Bool := false
  overrideWithinBounds : Bool := true

/-- `float(text)` of the standard library; `none` is the value error. -/
abbrev ParseFloat := String → Option PyFloat

def barRangeMessage (fieldName : String) : String :=
  fieldName ++ " must be a number in [0, 1]"

def barOfFloat (fieldName : String) : PyFloat → Except RequiredBarError BarValue
  | .finite value =>
    if inRange : 0 ≤ value ∧ value ≤ 1 then .ok ⟨value, inRange.1, inRange.2⟩
    else .error (.authority (barRangeMessage fieldName))
  | _ => .error (.authority (barRangeMessage fieldName))

def barValue (parseFloat : ParseFloat) (fieldName : String) :
    PyValue → Except RequiredBarError BarValue
  | .int raw =>
    match PyFloat.ofInt raw with
    | none => .error .overflow
    | some converted => barOfFloat fieldName converted
  | .float raw => barOfFloat fieldName raw
  | .str raw =>
    match parseFloat raw with
    | none => .error (.authority (barRangeMessage fieldName))
    | some converted => barOfFloat fieldName converted
  | _ => .error (.authority (barRangeMessage fieldName))

/-- The mapping that holds the policy: `quality_gate`, or the entry itself. -/
def qualityGatePolicy (entry : PyDict) : Option PyDict :=
  match (entry.get "quality_gate").asDict? with
  | some policy => some policy
  | none => if (entry.get? "required_bar").isSome then some entry else none

def policyScoreSource (policy : PyDict) : String :=
  match (policy.get "score_source").asStr? with
  | some raw =>
    if (PyText.stripString raw).isEmpty then "quality_gate_graded_score"
    else PyText.stripString raw
  | none => "quality_gate_graded_score"

def overrideBounds (parseFloat : ParseFloat) (policy : PyDict) :
    Except RequiredBarError (BarValue × BarValue) := do
  match (policy.get "request_override_bounds").asDict? with
  | none =>
    .error (.authority "request_override_bounds must be declared with min/max")
  | some bounds =>
    let minBar ← barValue parseFloat "request_override_bounds.min" (bounds.get "min")
    let maxBar ← barValue parseFloat "request_override_bounds.max" (bounds.get "max")
    if maxBar.value < minBar.value then
      .error (.authority "request_override_bounds.min must be <= request_override_bounds.max")
    else .ok (minBar, maxBar)

/-- `resolve_required_bar_authority(task_type=...)`, without the workflow and
request overrides, which neither caller passes. -/
def resolveRequiredBarAuthority (parseFloat : ParseFloat) (env : RoutingEnv) (taskType : String) :
    Except RequiredBarError RequiredBarAuthority := do
  match taskClassEntry env.taskClassContract taskType with
  | none =>
    .error (.authority ("required_bar missing: task_class " ++
      PyText.reprString env.unicode taskType ++ " is not declared"))
  | some entry =>
    match (qualityGatePolicy entry).bind
        (fun policy => (policy.get? "required_bar").map (policy, ·)) with
    | none =>
      .error (.authority ("required_bar missing for task_class " ++
        PyText.reprString env.unicode taskType))
    | some (policy, raw) =>
      let requiredBar ← barValue parseFloat "required_bar" raw
      let _ ← overrideBounds parseFloat policy
      .ok { requiredBar, authoritySource := "task_class:" ++ taskType,
            scoreSource := policyScoreSource policy }

def scoreBelowBar (score : PyFloat) (authority : RequiredBarAuthority) : Bool :=
  PyFloat.lt score (.finite authority.requiredBar.value)

end OmniMarket
