import OmniMarket.Delegation.Limits
import OmniMarket.Lib.Scans
import OmniMarket.Lib.OrderedDict
import OmniMarket.Lib.Trace

/-!
# The monthly budget of a tier

`materialize_budget_state`: the row of a tenant, a tier and a month adds up the drawdown and the
overage of the delegations. An event may be delivered again.
-/

namespace OmniMarket.DelegationProjection

section

open Trace PyText

/-! ## Data -/

structure CappedTierCost extends ModelTierCost where
  monthlyCapUsd : Option ℚ := none

/-- The tier registry, the tenant setting, and the calendar of the standard library. -/
structure BudgetEnv where
  resolveTierCost : String → Option CappedTierCost
  enforceTenantIsolation : Bool
  fromIsoformat : String → Option PyDatetime
  isoformat : PyDatetime → String
  yearMonth : PyDatetime → String

structure ModelDelegationBudgetStateEvent where
  correlationId : NonEmptyString
  costTierName : String := ""
  budgetHeadroomConsumedUsd : ℚ := 0
  costUsd : ℚ := 0
  tenantId : Option String := none
  timestamp : Option String := none
  drawdown_nonneg : 0 ≤ budgetHeadroomConsumedUsd := by decide
  cost_nonneg : 0 ≤ costUsd := by decide

/-- The conflict key `tenant_id,cost_tier_name,budget_period`. -/
structure BudgetKey where
  tenantId : String
  costTierName : String
  budgetPeriod : String
deriving DecidableEq

structure BudgetStateRow where
  monthlyCapUsd : ℚ
  consumedUsd : ℚ
  overageUsd : ℚ
  headroomRemainingUsd : ℚ
  delegationCount : ℕ
  lastCorrelationId : NonEmptyString
  firstEventAt : String
  lastEventAt : String
  createdAt : String
  updatedAt : String

structure ModelBudgetStateResult where
  rowsUpserted : ℕ := 0
  skippedReason : String := ""

inductive Raised where
  | tenantRequired (message : String)
  /-- A model refused these fields. -/
  | invalid (fields : List String)
  | overflow
deriving DecidableEq

abbrev BudgetTable := OrderedDict BudgetKey BudgetStateRow

/-- An event and the clock when it is delivered. -/
structure BudgetDelivery where
  event : ModelDelegationBudgetStateEvent
  now : PyDatetime

/-! ## The reducer -/

section

variable (env : BudgetEnv)

def requireTenantId (tenantId : Option String) (table : String) : Except Raised Unit :=
  if blankText tenantId && env.enforceTenantIsolation then
    .error (.tenantRequired (table ++ " write refused: no tenant_id resolved and " ++
      "ENFORCE_TENANT_ISOLATION=true (OMN-14898) -- refusing to let the write fall through to " ++
      "the shared tenant column default."))
  else .ok ()

def resolvedTenant (tenantId : Option String) : String :=
  if blankText tenantId then "default" else tenantId.getD "default"

def resolvedEventTime (delivery : BudgetDelivery) : Except Raised PyDatetime :=
  if textTruthy delivery.event.timestamp then
    match env.fromIsoformat (delivery.event.timestamp.getD "") with
    | none => .ok delivery.now
    | some parsed =>
      match parsed.utcOffset with
      | none => .ok { parsed with utcOffset := some 0 }
      | some _ =>
        match parsed.astimezoneUtc with
        | none => .error .overflow
        | some utc => .ok utc
  else .ok delivery.now

def monthlyCap (costTierName : String) : Option ℚ :=
  (env.resolveTierCost costTierName).bind (·.monthlyCapUsd)

def chargedRow (existing : Option BudgetStateRow) (cap : ℚ)
    (event : ModelDelegationBudgetStateEvent) (eventIso nowIso : String) : BudgetStateRow :=
  let consumed := (existing.map (·.consumedUsd)).getD 0 + event.budgetHeadroomConsumedUsd
  let headroomRemaining := cap - consumed
  { monthlyCapUsd := cap
    consumedUsd := consumed
    overageUsd := (existing.map (·.overageUsd)).getD 0 + event.costUsd
    headroomRemainingUsd := if headroomRemaining < 0 then 0 else headroomRemaining
    delegationCount := (existing.map (·.delegationCount)).getD 0 + 1
    lastCorrelationId := event.correlationId
    firstEventAt := textOrElse (existing.map (·.firstEventAt)) eventIso
    lastEventAt := eventIso
    createdAt := nowIso
    updatedAt := nowIso }

def materializeBudgetState (table : BudgetTable) (delivery : BudgetDelivery) :
    BudgetTable × Except Raised ModelBudgetStateResult :=
  let event := delivery.event
  match monthlyCap env event.costTierName with
  | none => (table, .ok { skippedReason := "tier_not_budgeted" })
  | some cap =>
    match requireTenantId env event.tenantId "delegation_budget_state" with
    | .error raised => (table, .error raised)
    | .ok () =>
      match resolvedEventTime env delivery with
      | .error raised => (table, .error raised)
      | .ok eventTime =>
        let key : BudgetKey :=
          ⟨resolvedTenant event.tenantId, event.costTierName, env.yearMonth eventTime⟩
        let existing := table.get? key
        if existing.map (·.lastCorrelationId) = some event.correlationId then
          (table, .ok { skippedReason := "replayed" })
        else
          (table.set key (chargedRow existing cap event (env.isoformat eventTime)
            (env.isoformat delivery.now)), .ok { rowsUpserted := 1 })

/-! ## What was delivered -/

/-- The row that a delivery is about; none if it is skipped or refused. -/
def BudgetDelivery.key (delivery : BudgetDelivery) : Option BudgetKey :=
  if monthlyCap env delivery.event.costTierName = none ∨
      (blankText delivery.event.tenantId && env.enforceTenantIsolation) = true then none
  else
    match resolvedEventTime env delivery with
    | .error _ => none
    | .ok eventTime => some ⟨resolvedTenant delivery.event.tenantId,
        delivery.event.costTierName, env.yearMonth eventTime⟩

def BudgetDelivery.correlationId (delivery : BudgetDelivery) : NonEmptyString :=
  delivery.event.correlationId

section

variable (past : List BudgetDelivery)

/-- The deliveries that are about a row. -/
def accepted : List BudgetDelivery :=
  past.filter fun delivery => (delivery.key env).isSome

/-- The first deliveries of the correlation ids that came first to this row. -/
def charged (key : BudgetKey) : List BudgetDelivery :=
  (firstSeen BudgetDelivery.correlationId (accepted env past)).filter fun delivery =>
    delivery.key env = some key

def lastAbout (key : BudgetKey) : Option NonEmptyString :=
  ((past.filter fun delivery => delivery.key env = some key).getLast?).map
    BudgetDelivery.correlationId

/-- Every row adds up the distinct correlation ids that came to it. -/
structure BudgetExact (table : BudgetTable) : Prop where
  rows : ∀ key row, table.get? key = some row →
    row.consumedUsd = ((charged env past key).map (·.event.budgetHeadroomConsumedUsd)).sum ∧
      row.overageUsd = ((charged env past key).map (·.event.costUsd)).sum ∧
      row.delegationCount = (charged env past key).length ∧
      ∃ cap, monthlyCap env key.costTierName = some cap ∧
        row.headroomRemainingUsd = max 0 (cap - row.consumedUsd)
  complete : ∀ key, table.get? key = none → charged env past key = []

/-- A correlation id comes again to a row that another one came to in between, or that it did not
come to before. -/
def StaleReplay (delivery : BudgetDelivery) : Prop :=
  ∃ key, delivery.key env = some key ∧
    delivery.correlationId ∈ (accepted env past).map BudgetDelivery.correlationId ∧
      lastAbout env past key ≠ some delivery.correlationId

end

end

variable {env : BudgetEnv} {table : BudgetTable} {delivery : BudgetDelivery}

theorem materialize_cases (env : BudgetEnv) (table : BudgetTable) (delivery : BudgetDelivery) :
    (delivery.key env = none ∧ (materializeBudgetState env table delivery).1 = table) ∨
      ∃ key cap eventIso nowIso, delivery.key env = some key ∧
        monthlyCap env key.costTierName = some cap ∧
          (materializeBudgetState env table delivery).1 =
            if (table.get? key).map (·.lastCorrelationId) = some delivery.correlationId then table
            else table.set key (chargedRow (table.get? key) cap delivery.event eventIso nowIso) := by
  unfold materializeBudgetState BudgetDelivery.key requireTenantId
  dsimp only
  cases budgeted : monthlyCap env delivery.event.costTierName with
  | none => exact .inl ⟨if_pos (.inl rfl), rfl⟩
  | some cap =>
    dsimp only
    by_cases refused : (blankText delivery.event.tenantId && env.enforceTenantIsolation) = true
    · rw [if_pos refused, if_pos (.inr refused)]
      exact .inl ⟨rfl, rfl⟩
    · rw [if_neg refused, if_neg (not_or.2 ⟨by simp, refused⟩)]
      cases resolved : resolvedEventTime env delivery with
      | error raised => exact .inl ⟨rfl, rfl⟩
      | ok eventTime =>
        refine .inr ⟨_, cap, env.isoformat eventTime, env.isoformat delivery.now, rfl, budgeted, ?_⟩
        exact apply_ite Prod.fst _ _ _

/-! ## One more delivery -/

section

variable {past : List BudgetDelivery} {key : BudgetKey}

theorem accepted_snoc_none (unkeyed : delivery.key env = none) :
    accepted env (past ++ [delivery]) = accepted env past := by
  simp [accepted, unkeyed]

theorem accepted_snoc_some (keyed : delivery.key env = some key) :
    accepted env (past ++ [delivery]) = accepted env past ++ [delivery] := by
  simp [accepted, keyed]

theorem lastAbout_snoc_own (keyed : delivery.key env = some key) :
    lastAbout env (past ++ [delivery]) key = some delivery.correlationId := by
  simp [lastAbout, keyed]

theorem lastAbout_snoc_other (other : delivery.key env ≠ some key) :
    lastAbout env (past ++ [delivery]) key = lastAbout env past key := by
  simp [lastAbout, other]

theorem charged_snoc_known
    (known : delivery.correlationId ∈ (accepted env past).map BudgetDelivery.correlationId) :
    charged env (past ++ [delivery]) key = charged env past key := by
  cases keyed : delivery.key env with
  | none => rw [charged, accepted_snoc_none keyed, charged]
  | some own => rw [charged, accepted_snoc_some keyed, firstSeen_snoc_known known, charged]

theorem charged_snoc_new (keyed : delivery.key env = some key)
    (new : delivery.correlationId ∉ (accepted env past).map BudgetDelivery.correlationId) :
    charged env (past ++ [delivery]) key = charged env past key ++ [delivery] := by
  rw [charged, accepted_snoc_some keyed, firstSeen_snoc_new new, List.filter_append, charged]
  simp [keyed]

theorem charged_snoc_other (other : delivery.key env ≠ some key) :
    charged env (past ++ [delivery]) key = charged env past key := by
  by_cases known : delivery.correlationId ∈ (accepted env past).map BudgetDelivery.correlationId
  · exact charged_snoc_known known
  · cases keyed : delivery.key env with
    | none => rw [charged, accepted_snoc_none keyed, charged]
    | some own =>
      rw [charged, accepted_snoc_some keyed, firstSeen_snoc_new known, List.filter_append, charged]
      have differs : own ≠ key := fun same => other (same ▸ keyed)
      simp [keyed, differs]

theorem lastAbout_accepted {correlationId : NonEmptyString}
    (last : lastAbout env past key = some correlationId) :
    correlationId ∈ (accepted env past).map BudgetDelivery.correlationId := by
  obtain ⟨before, listed, rfl⟩ := Option.map_eq_some_iff.1 last
  obtain ⟨among, keyed⟩ := List.mem_filter.1 (List.mem_of_getLast? listed)
  refine List.mem_map_of_mem (List.mem_filter.2 ⟨among, ?_⟩)
  rw [of_decide_eq_true keyed]
  rfl

end

def Tracked (env : BudgetEnv) (past : List BudgetDelivery) (table : BudgetTable) : Prop :=
  ∀ key, (table.get? key).map (·.lastCorrelationId) = lastAbout env past key

theorem tracked_step {past : List BudgetDelivery} (tracked : Tracked env past table) :
    Tracked env (past ++ [delivery]) (materializeBudgetState env table delivery).1 := by
  intro key
  obtain ⟨unkeyed, unchanged⟩ | ⟨own, cap, eventIso, nowIso, keyed, -, after⟩ :=
    materialize_cases env table delivery
  · rw [unchanged, lastAbout_snoc_other (by simp [unkeyed]), tracked]
  · rw [after]
    by_cases same : own = key
    · subst same
      rw [lastAbout_snoc_own keyed]
      split
      · next replayed => exact replayed
      · rw [OrderedDict.get?_set_self]
        rfl
    · have other : delivery.key env ≠ some key := by
        rw [keyed]
        exact fun equal => same (Option.some.inj equal)
      rw [lastAbout_snoc_other other]
      split
      · exact tracked key
      · rw [OrderedDict.get?_set_other (Ne.symm same)]
        exact tracked key

theorem tracked (deliveries : List BudgetDelivery) :
    Tracked env deliveries (final (materializeBudgetState env) .empty deliveries) := by
  have start : Tracked env [] .empty := fun _ => rfl
  refine run_history start ?_ (List.append_nil _).symm
  intro earlier delivery _ _ before
  exact tracked_step before

theorem chargedRow_exact {past : List BudgetDelivery} {key : BudgetKey} {cap : ℚ}
    {eventIso nowIso : String} (exact : BudgetExact env past table)
    (capped : monthlyCap env key.costTierName = some cap)
    (grown : charged env (past ++ [delivery]) key = charged env past key ++ [delivery]) :
    let row := chargedRow (table.get? key) cap delivery.event eventIso nowIso
    row.consumedUsd =
        ((charged env (past ++ [delivery]) key).map (·.event.budgetHeadroomConsumedUsd)).sum ∧
      row.overageUsd = ((charged env (past ++ [delivery]) key).map (·.event.costUsd)).sum ∧
      row.delegationCount = (charged env (past ++ [delivery]) key).length ∧
      ∃ cap, monthlyCap env key.costTierName = some cap ∧
        row.headroomRemainingUsd = max 0 (cap - row.consumedUsd) := by
  dsimp only
  have headroom (total : ℚ) : (if cap - total < 0 then 0 else cap - total) = max 0 (cap - total) := by
    split
    · next spent => rw [max_eq_left (le_of_lt spent)]
    · next left => rw [max_eq_right (not_lt.1 left)]
  rw [grown, List.map_append, List.map_append, List.sum_append, List.sum_append, List.length_append]
  cases held : table.get? key with
  | none =>
    rw [exact.complete key held]
    refine ⟨?_, ?_, rfl, cap, capped, headroom _⟩ <;> simp [chargedRow]
  | some row =>
    obtain ⟨consumed, overage, count, -⟩ := exact.rows key row held
    rw [← consumed, ← overage, ← count]
    refine ⟨?_, ?_, rfl, cap, capped, headroom _⟩ <;> simp [chargedRow]

section

variable {past : List BudgetDelivery} (tracked : Tracked env past table)
  (exact : BudgetExact env past table)

include tracked exact

theorem budget_step (fresh : ¬ StaleReplay env past delivery) :
    BudgetExact env (past ++ [delivery]) (materializeBudgetState env table delivery).1 := by
  obtain ⟨unkeyed, unchanged⟩ | ⟨own, cap, eventIso, nowIso, keyed, capped, after⟩ :=
    materialize_cases env table delivery
  · have same (key : BudgetKey) : charged env (past ++ [delivery]) key = charged env past key :=
      charged_snoc_other (by simp [unkeyed])
    rw [unchanged]
    exact ⟨fun key => by rw [same]; exact exact.rows key,
      fun key => by rw [same]; exact exact.complete key⟩
  · by_cases known :
      delivery.correlationId ∈ (accepted env past).map BudgetDelivery.correlationId
    · -- it was the last delivery about the row, and is skipped
      have last : lastAbout env past own = some delivery.correlationId := by
        by_contra stale
        exact fresh ⟨own, keyed, known, stale⟩
      have same (key : BudgetKey) : charged env (past ++ [delivery]) key = charged env past key :=
        charged_snoc_known known
      rw [after, if_pos ((tracked own).trans last)]
      exact ⟨fun key => by rw [same]; exact exact.rows key,
        fun key => by rw [same]; exact exact.complete key⟩
    · have changed : (table.get? own).map (·.lastCorrelationId) ≠ some delivery.correlationId := by
        rw [tracked own]
        exact fun last => known (lastAbout_accepted last)
      rw [after, if_neg changed]
      refine ⟨?_, ?_⟩
      · intro key row held
        by_cases same : key = own
        · subst same
          rw [OrderedDict.get?_set_self] at held
          obtain ⟨rfl⟩ := Option.some.inj held
          exact chargedRow_exact exact capped (charged_snoc_new keyed known)
        · rw [OrderedDict.get?_set_other same] at held
          rw [charged_snoc_other (fun equal => same (Option.some.inj (keyed.symm.trans equal)).symm)]
          exact exact.rows key row held
      · intro key absent
        by_cases same : key = own
        · subst same
          rw [OrderedDict.get?_set_self] at absent
          cases absent
        · rw [OrderedDict.get?_set_other same] at absent
          rw [charged_snoc_other (fun equal => same (Option.some.inj (keyed.symm.trans equal)).symm)]
          exact exact.complete key absent

theorem stale_counted (stale : StaleReplay env past delivery) :
    ¬ BudgetExact env (past ++ [delivery]) (materializeBudgetState env table delivery).1 := by
  obtain ⟨key, keyed, known, other⟩ := stale
  obtain ⟨unkeyed, -⟩ | ⟨own, cap, eventIso, nowIso, keyed', capped, after⟩ :=
    materialize_cases env table delivery
  · rw [keyed] at unkeyed
    cases unkeyed
  · obtain ⟨rfl⟩ : key = own := Option.some.inj (keyed.symm.trans keyed')
    rw [after, if_neg (fun last => other ((tracked key).symm.trans last))]
    intro again
    obtain ⟨-, -, count, -⟩ := again.rows key _ (OrderedDict.get?_set_self _ _ _)
    rw [charged_snoc_known known] at count
    cases held : table.get? key with
    | none =>
      rw [held, exact.complete key held] at count
      cases count
    | some row =>
      obtain ⟨-, -, before, -⟩ := exact.rows key row held
      rw [held, ← before] at count
      exact absurd count (Nat.succ_ne_self _)

end

theorem exact_of_fresh {deliveries : List BudgetDelivery}
    (fresh : ∀ earlier delivery later, deliveries = earlier ++ delivery :: later →
      ¬ StaleReplay env earlier delivery)
    {earlier later : List BudgetDelivery} (split : deliveries = earlier ++ later) :
    BudgetExact env earlier (final (materializeBudgetState env) .empty earlier) := by
  have start : BudgetExact env [] .empty := by
    refine ⟨?_, fun _ _ => rfl⟩
    intro key row held
    cases held
  refine run_history start ?_ split
  intro before delivery after here exact
  exact budget_step (tracked before) exact (fresh before delivery after here)

/-- The rows are exact throughout, if and only if no delivery is a stale replay. -/
theorem budget_exact_iff (env : BudgetEnv) (deliveries : List BudgetDelivery) :
    (∀ earlier later, deliveries = earlier ++ later →
      BudgetExact env earlier (final (materializeBudgetState env) .empty earlier)) ↔
      ∀ earlier delivery later, deliveries = earlier ++ delivery :: later →
        ¬ StaleReplay env earlier delivery := by
  constructor
  · intro exact earlier delivery later split stale
    have before := exact earlier (delivery :: later) split
    have after := exact (earlier ++ [delivery]) later (by rw [split, List.append_assoc]; rfl)
    rw [final_append] at after
    exact stale_counted (tracked earlier) before stale after
  · intro fresh earlier later split
    exact exact_of_fresh fresh split

/-! ## A sample month -/

theorem sampleRate_nonneg : (0 : ℚ) ≤ 1 := by decide

theorem sampleOverage_nonneg : (0 : ℚ) ≤ 2 := by decide

theorem sampleDrawdown_nonneg : (0 : ℚ) ≤ 0 := by decide

theorem sampleId_nonempty : "a" ≠ "" := by decide

/-- One budgeted tier with a cap of ten dollars, and calendars that read every time as one month. -/
def sampleBudgetEnv : BudgetEnv where
  resolveTierCost name :=
    if name = "reserved" then
      some { costType := .budgeted, ratePer1kUsd := 1, overageRatePer1kUsd := 2,
             monthlyCapUsd := some 10, rate_nonneg := sampleRate_nonneg
             overage_nonneg := sampleOverage_nonneg }
    else none
  enforceTenantIsolation := false
  fromIsoformat _ := none
  isoformat _ := "2026-07-01T00:00:00+00:00"
  yearMonth _ := "2026-07"

def sampleDelivery (correlationId : NonEmptyString) : BudgetDelivery where
  event := { correlationId := correlationId, costTierName := "reserved", costUsd := 3
             drawdown_nonneg := sampleDrawdown_nonneg }
  now := ⟨0, some 0⟩

def firstDelegation : BudgetDelivery := sampleDelivery ⟨"a", sampleId_nonempty⟩

def secondDelegation : BudgetDelivery := sampleDelivery ⟨"b", by decide⟩

/-- The first event comes again after the second: three delegations are counted. -/
theorem interleaved_replay_counts_twice :
    ¬ BudgetExact sampleBudgetEnv [firstDelegation, secondDelegation, firstDelegation]
      (final (materializeBudgetState sampleBudgetEnv) .empty
        [firstDelegation, secondDelegation, firstDelegation]) := by
  intro exact
  have held : ((final (materializeBudgetState sampleBudgetEnv) .empty
      [firstDelegation, secondDelegation, firstDelegation]).get?
        ⟨"default", "reserved", "2026-07"⟩).map (·.delegationCount) = some 3 := by decide +kernel
  obtain ⟨row, found, count⟩ := Option.map_eq_some_iff.1 held
  obtain ⟨-, -, distinct, -⟩ := exact.rows _ row found
  rw [count] at distinct
  exact absurd distinct (by decide +kernel)

end

/-!
# The measured cost of a delegation

`recompute_actual_cost_and_savings` prices the served tokens through the cost model of their tier,
and `_measure_actual_cost` chooses between that price and what the event carries. How an amount is
rounded is a parameter, `price`.
-/

/-! ## Data -/

structure ModelPremiumCounterfactual where
  model : String
  priceInPer1k : ℚ
  priceOutPer1k : ℚ
  asOf : String
  tokensIn : ℕ
  tokensOut : ℕ
  counterfactualCostUsd : ℚ
  pricingSource : String := "pricing_manifest"
  measured : Bool := false

/-- `ModelProjectionTaskDelegatedEvent`. -/
structure ModelTaskDelegatedEvent where
  correlationId : String
  sessionId : Option String := none
  tenantId : Option String := none
  taskType : String
  delegatedTo : String
  modelName : String := ""
  delegatedBy : Option String := none
  qualityGatePassed : Bool := false
  qualityGatesChecked : Option (List String) := none
  qualityGatesFailed : Option (List String) := none
  qualityGateDetail : Option String := none
  costUsd : ℚ := 0
  costSavingsUsd : ℚ := 0
  delegationLatencyMs : Option ℕ := none
  repo : Option String := none
  isShadow : Bool := false
  llmCallId : String := ""
  timestamp : Option String := none
  tokensInput : ℕ := 0
  tokensOutput : ℕ := 0
  tokensToCompliance : ℕ := 0
  complianceAttempts : ℕ := 1
  promptText : Option String := none
  responseText : Option String := none
  contextPackHash : String := ""
  pricingManifestVersion : ℕ := 0
  premiumCounterfactual : Option ModelPremiumCounterfactual := none
  costTierType : String := ""
  costTierName : String := ""
  costMeasurementSource : String := ""
  budgetHeadroomConsumedUsd : ℚ := 0
  requiredBar : Option ℚ := none
  actualScore : Option ℚ := none
  escalationCount : ℕ := 0
  escalationHistory : List PyDict := []
  authoritySource : Option String := none
  scoreSource : Option String := none
  requestOverrideApplied : Bool := false
  overrideWithinBounds : Bool := true
  attempts_pos : 1 ≤ complianceAttempts := by decide
  headroom_nonneg : 0 ≤ budgetHeadroomConsumedUsd := by decide

structure TierCost where
  cashCostUsd : ℚ := 0
  headroomConsumedUsd : ℚ := 0
  measurementSource : String

structure ModelActualCostMeasurement where
  cashCostUsd : ℚ
  costSavingsUsd : ℚ
  headroomConsumedUsd : ℚ
  costTierType : String
  costTierName : String
  costMeasurementSource : String

structure ModelActualCostProjection where
  costUsd : ℚ
  costSavingsUsd : ℚ
  headroomConsumedUsd : ℚ
  costTierType : String
  costTierName : String
  costMeasurementSource : String

/-! ## Prices -/

section

variable (price : ℚ → ℕ → ℚ)

/-- `compute_tier_cost_usd`. -/
def tierCost (cost : Option ModelTierCost) (promptTokens completionTokens : ℕ)
    (remainingBudgetUsd : Option ℚ := none) : TierCost :=
  match cost with
  | none => { measurementSource := "no_cost_model" }
  | some cost =>
    let totalTokens := promptTokens + completionTokens
    match cost.costType with
    | .freeLocal => { measurementSource := "free_local" }
    | .metered =>
      { cashCostUsd := price cost.ratePer1kUsd totalTokens, measurementSource := "metered" }
    | .budgeted =>
      -- an unknown headroom counts as none
      let headroom := remainingBudgetUsd.getD 0
      let inBudgetCost := price cost.ratePer1kUsd totalTokens
      if inBudgetCost ≤ headroom then
        { headroomConsumedUsd := inBudgetCost, measurementSource := "budgeted_in_budget" }
      else if headroom ≤ 0 then
        { cashCostUsd := price cost.overageRatePer1kUsd totalTokens
          measurementSource := "budgeted_overage" }
      else
        let inBudgetTokens := coveredTokens cost headroom totalTokens
        { cashCostUsd := price cost.overageRatePer1kUsd (totalTokens - inBudgetTokens)
          headroomConsumedUsd := price cost.ratePer1kUsd inBudgetTokens
          measurementSource := "budgeted_split" }

def tierTypeValue : TierCostType → String
  | .freeLocal => "free_local"
  | .metered => "metered"
  | .budgeted => "budgeted"

variable (env : BudgetEnv)

def recomputeActualCostAndSavings (tierName : String) (promptTokens completionTokens : ℕ)
    (premiumCounterfactual : Option ModelPremiumCounterfactual)
    (remainingBudgetUsd : Option ℚ := none) : ModelActualCostMeasurement :=
  let cost := env.resolveTierCost tierName
  let tierResult := tierCost price (cost.map (·.toModelTierCost)) promptTokens completionTokens
    remainingBudgetUsd
  let savings :=
    match premiumCounterfactual with
    | none => 0
    | some counterfactual => counterfactual.counterfactualCostUsd - tierResult.cashCostUsd
  { cashCostUsd := tierResult.cashCostUsd
    costSavingsUsd := savings
    headroomConsumedUsd := tierResult.headroomConsumedUsd
    costTierType := (cost.map fun cost => tierTypeValue cost.costType).getD ""
    costTierName := tierName
    costMeasurementSource := tierResult.measurementSource }

/-- The number that `isinstance(value, int | float)` lets through. -/
def numberOf : PyValue → Option ℚ
  | .bool value => some (if value then 1 else 0)
  | .int value => some value
  | .float (.finite value) => some value
  | _ => none

def sumEscalationAttemptCosts (escalationHistory : List PyDict) : ℚ :=
  (escalationHistory.map fun attempt => (numberOf (attempt.get "cost_usd")).getD 0).sum

def measureActualCost (event : ModelTaskDelegatedEvent) : ModelActualCostProjection :=
  if event.costTierName = "" then
    { costUsd := event.costUsd
      costSavingsUsd := event.costSavingsUsd
      headroomConsumedUsd := event.budgetHeadroomConsumedUsd
      costTierType := event.costTierType
      costTierName := event.costTierName
      costMeasurementSource := event.costMeasurementSource }
  else
    let measurement := recomputeActualCostAndSavings price env event.costTierName event.tokensInput
      event.tokensOutput event.premiumCounterfactual
    match event.premiumCounterfactual with
    | none =>
      { costUsd := if 0 < event.costUsd then event.costUsd else measurement.cashCostUsd
        costSavingsUsd := 0
        headroomConsumedUsd := measurement.headroomConsumedUsd
        costTierType := measurement.costTierType
        costTierName := measurement.costTierName
        costMeasurementSource := measurement.costMeasurementSource }
    | some _ =>
      let priorAttemptCostUsd := sumEscalationAttemptCosts event.escalationHistory
      { costUsd := measurement.cashCostUsd + priorAttemptCostUsd
        costSavingsUsd := measurement.costSavingsUsd - priorAttemptCostUsd
        headroomConsumedUsd := measurement.headroomConsumedUsd
        costTierType := measurement.costTierType
        costTierName := measurement.costTierName
        costMeasurementSource := measurement.costMeasurementSource }

end

theorem measureActualCost_pinned (price : ℚ → ℕ → ℚ) (env : BudgetEnv) {event : ModelTaskDelegatedEvent}
    (served : event.costTierName ≠ "") (pinned : event.premiumCounterfactual ≠ none)
    (first : event.escalationHistory = []) :
    let cost := tierCost price ((env.resolveTierCost event.costTierName).map (·.toModelTierCost))
      event.tokensInput event.tokensOutput
    (measureActualCost price env event).costUsd = cost.cashCostUsd ∧
      (measureActualCost price env event).headroomConsumedUsd = cost.headroomConsumedUsd ∧
      (measureActualCost price env event).costTierName = event.costTierName := by
  obtain ⟨counterfactual, carried⟩ := Option.ne_none_iff_exists'.1 pinned
  have none_before : sumEscalationAttemptCosts event.escalationHistory = 0 := by rw [first]; rfl
  unfold measureActualCost
  rw [if_neg served]
  simp only [carried, none_before, add_zero]
  exact ⟨rfl, rfl, rfl⟩

end OmniMarket.DelegationProjection
