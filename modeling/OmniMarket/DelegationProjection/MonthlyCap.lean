import OmniMarket.DelegationProjection.Row

/-!
# A month on a budgeted tier

The projection prices every event without the headroom that is left, which counts as none. So a
budgeted tier bills all its tokens and never draws its cap down.
-/

namespace OmniMarket.DelegationProjection

open Trace

def exactPrice (rate : ℚ) (tokens : ℕ) : ℚ := rate * tokens / 1000

/-- An event and the clock when it is projected. -/
structure TaskDelivery where
  event : ModelTaskDelegatedEvent
  now : PyDatetime

def TaskDelivery.tokens (delivery : TaskDelivery) : ℕ :=
  delivery.event.tokensInput + delivery.event.tokensOutput

section

variable (env : ProjectionEnv)

def projectDelivery (db : ProjectionStore) (delivery : TaskDelivery) :
    ProjectionStore × Except Raised ModelProjectionResult :=
  project env db delivery.event delivery.now

def TaskDelivery.budget (delivery : TaskDelivery) : Option BudgetDelivery :=
  (budgetEvent env delivery.event).toOption.map fun event => ⟨event, delivery.now⟩

structure ServedBy (key : BudgetKey) (delivery : TaskDelivery) : Prop where
  tier : delivery.event.costTierName = key.costTierName
  pinned : delivery.event.premiumCounterfactual ≠ none
  first : delivery.event.escalationHistory = []
  projected : ∃ row, taskEventRow env delivery.event delivery.now = .ok row
  month : ∃ budget, delivery.budget env = some budget ∧ budget.key env.toBudgetEnv = some key

/-- The headroom of the row, or the whole cap while there is no row. -/
def headroomLeft (key : BudgetKey) (cap : ℚ) (db : ProjectionStore) : ℚ :=
  ((db.budgetState.get? key).map (·.headroomRemainingUsd)).getD cap

def BillsPastCap (key : BudgetKey) (cost : ModelTierCost) (cap : ℚ)
    (deliveries : List TaskDelivery) : Prop :=
  ∃ row, (final (projectDelivery env) {} deliveries).budgetState.get? key = some row ∧
    row.consumedUsd ≤ cap ∧ row.headroomRemainingUsd = cap - row.consumedUsd ∧
    ∃ inBudget overage : ℕ,
      inBudget + overage = (deliveries.map TaskDelivery.tokens).sum ∧
      row.consumedUsd = exactPrice cost.ratePer1kUsd inBudget ∧
      row.overageUsd = exactPrice cost.overageRatePer1kUsd overage ∧
      (0 < overage → ∃ t ∈ run (projectDelivery env) {} deliveries,
        headroomLeft key cap t.before < exactPrice cost.ratePer1kUsd t.event.tokens)

end

variable {env : ProjectionEnv} {key : BudgetKey} {cost : CappedTierCost} {cap : ℚ}
  {deliveries : List TaskDelivery}

theorem tierCost_budgeted {cost : ModelTierCost} (budgeted : cost.costType = .budgeted)
    (rate_pos : 0 < cost.ratePer1kUsd) (promptTokens completionTokens : ℕ) :
    (tierCost exactPrice (some cost) promptTokens completionTokens).cashCostUsd =
        exactPrice cost.overageRatePer1kUsd (promptTokens + completionTokens) ∧
      (tierCost exactPrice (some cost) promptTokens completionTokens).headroomConsumedUsd = 0 := by
  unfold tierCost
  simp only [budgeted, Option.getD_none, le_refl, if_true]
  split
  · next covered =>
    -- only no tokens at all cost nothing
    have none_served : promptTokens + completionTokens = 0 := by
      by_contra some_served
      have priced : 0 < exactPrice cost.ratePer1kUsd (promptTokens + completionTokens) := by
        have tokens_pos : 0 < ((promptTokens + completionTokens : ℕ) : ℚ) :=
          Nat.cast_pos.2 (Nat.pos_of_ne_zero some_served)
        unfold exactPrice
        positivity
      exact absurd covered (not_le.2 priced)
    rw [none_served]
    simp [exactPrice]
  · exact ⟨rfl, rfl⟩

theorem budget_amounts (exact : env.price = exactPrice)
    (resolved : env.resolveTierCost key.costTierName = some cost)
    (budgeted : cost.costType = .budgeted) (rate_pos : 0 < cost.ratePer1kUsd)
    (named : key.costTierName ≠ "") {delivery : TaskDelivery} (served : ServedBy env key delivery)
    {budget : BudgetDelivery} (charged : delivery.budget env = some budget) :
    budget.event.costUsd = exactPrice cost.overageRatePer1kUsd delivery.tokens ∧
      budget.event.budgetHeadroomConsumedUsd = 0 ∧
      budget.event.correlationId.value = delivery.event.correlationId := by
  obtain ⟨event, valid, rfl⟩ := Option.map_eq_some_iff.1 charged
  have returned : budgetEvent env delivery.event = .ok event := by
    cases outcome : budgetEvent env delivery.event with
    | error raised => rw [outcome] at valid; cases valid
    | ok value => rw [outcome] at valid; exact congrArg Except.ok (Option.some.inj valid)
  obtain ⟨id, -, drawdown, billed⟩ := budgetEvent_ok returned
  obtain ⟨cash, headroom, -⟩ := measureActualCost_pinned env.price env.toBudgetEnv
    (served.tier ▸ named) served.pinned served.first
  rw [served.tier, resolved, exact, Option.map_some] at cash headroom
  obtain ⟨priced, none_drawn⟩ := tierCost_budgeted budgeted rate_pos delivery.event.tokensInput
    delivery.event.tokensOutput
  rw [exact] at drawdown billed
  exact ⟨billed.trans (cash.trans priced), drawdown.trans (headroom.trans none_drawn), id⟩

/-! ## The month -/

def budgetDeliveries (env : ProjectionEnv) (deliveries : List TaskDelivery) :
    List BudgetDelivery :=
  deliveries.filterMap fun delivery => delivery.budget env

theorem budgetState_project {db : ProjectionStore} {delivery : TaskDelivery}
    {budget : BudgetDelivery} (projected : ∃ row, taskEventRow env delivery.event delivery.now =
      .ok row) (charged : delivery.budget env = some budget) :
    (projectDelivery env db delivery).1.budgetState =
      (materializeBudgetState env.toBudgetEnv db.budgetState budget).1 := by
  obtain ⟨row, built⟩ := projected
  obtain ⟨event, valid, rfl⟩ := Option.map_eq_some_iff.1 charged
  unfold projectDelivery project
  cases outcome : budgetEvent env delivery.event with
  | error raised => rw [outcome] at valid; cases valid
  | ok value =>
    rw [outcome] at valid
    obtain ⟨rfl⟩ := Option.some.inj valid
    rw [built]
    rfl

theorem budget_final (served : ∀ delivery ∈ deliveries, ServedBy env key delivery)
    (db : ProjectionStore) :
    (final (projectDelivery env) db deliveries).budgetState =
      final (materializeBudgetState env.toBudgetEnv) db.budgetState
        (budgetDeliveries env deliveries) := by
  induction deliveries generalizing db with
  | nil => rfl
  | cons delivery rest ih =>
    rw [List.forall_mem_cons] at served
    obtain ⟨budget, charged, -⟩ := served.1.month
    rw [budgetDeliveries, List.filterMap_cons_some charged, ← budgetDeliveries, final, final,
      ih served.2, budgetState_project served.1.projected charged]

theorem budgetDeliveries_amounts (exact : env.price = exactPrice)
    (resolved : env.resolveTierCost key.costTierName = some cost)
    (budgeted : cost.costType = .budgeted) (rate_pos : 0 < cost.ratePer1kUsd)
    (named : key.costTierName ≠ "") (served : ∀ delivery ∈ deliveries, ServedBy env key delivery) :
    ((budgetDeliveries env deliveries).map (·.event.budgetHeadroomConsumedUsd)).sum = 0 ∧
      ((budgetDeliveries env deliveries).map (·.event.costUsd)).sum =
        exactPrice cost.overageRatePer1kUsd (deliveries.map TaskDelivery.tokens).sum ∧
      (budgetDeliveries env deliveries).map (·.correlationId.value) =
        deliveries.map (·.event.correlationId) ∧
      ∀ budget ∈ budgetDeliveries env deliveries, budget.key env.toBudgetEnv = some key := by
  induction deliveries with
  | nil => simp [budgetDeliveries, exactPrice]
  | cons delivery rest ih =>
    rw [List.forall_mem_cons] at served
    obtain ⟨budget, charged, month⟩ := served.1.month
    obtain ⟨billed, drawn, id⟩ :=
      budget_amounts exact resolved budgeted rate_pos named served.1 charged
    obtain ⟨drawdowns, overages, ids, keys⟩ := ih served.2
    have listed : budgetDeliveries env (delivery :: rest) =
        budget :: budgetDeliveries env rest := List.filterMap_cons_some charged
    rw [listed]
    refine ⟨?_, ?_, ?_, List.forall_mem_cons.2 ⟨month, keys⟩⟩
    · rw [List.map_cons, List.sum_cons, drawdowns, drawn, add_zero]
    · rw [List.map_cons, List.sum_cons, overages, billed, List.map_cons, List.sum_cons]
      unfold exactPrice
      push_cast
      ring
    · rw [List.map_cons, List.map_cons, ids]
      exact congrArg₂ _ id rfl

section

variable (exact : env.price = exactPrice)
  (resolved : env.resolveTierCost key.costTierName = some cost)
  (budgeted : cost.costType = .budgeted) (rate_pos : 0 < cost.ratePer1kUsd)
  (capped : cost.monthlyCapUsd = some cap) (named : key.costTierName ≠ "")
  (served : ∀ delivery ∈ deliveries, ServedBy env key delivery)
  (distinct : (deliveries.map (·.event.correlationId)).Nodup)

include exact resolved budgeted rate_pos capped named served distinct

theorem budget_row :
    (deliveries ≠ [] → (final (projectDelivery env) {} deliveries).budgetState.get? key ≠ none) ∧
      ∀ row, (final (projectDelivery env) {} deliveries).budgetState.get? key = some row →
        row.consumedUsd = 0 ∧
        row.overageUsd =
          exactPrice cost.overageRatePer1kUsd (deliveries.map TaskDelivery.tokens).sum ∧
        row.headroomRemainingUsd = max 0 cap := by
  obtain ⟨drawdowns, overages, ids, keys⟩ :=
    budgetDeliveries_amounts exact resolved budgeted rate_pos named served
  have idsDistinct : ((budgetDeliveries env deliveries).map BudgetDelivery.correlationId).Nodup := by
    refine List.Nodup.of_map NonEmptyString.value ?_
    rw [List.map_map]
    exact ids ▸ distinct
  have allAccepted : accepted env.toBudgetEnv (budgetDeliveries env deliveries) =
      budgetDeliveries env deliveries := by
    refine List.filter_eq_self.2 ?_
    intro budget listed
    rw [keys budget listed]
    rfl
  have allCharged : charged env.toBudgetEnv (budgetDeliveries env deliveries) key =
      budgetDeliveries env deliveries := by
    rw [charged, allAccepted, firstSeen_eq_self idsDistinct]
    exact List.filter_eq_self.2 fun budget listed => decide_eq_true (keys budget listed)
  -- no id comes again, so that no delivery is a stale replay
  have fresh : ∀ earlier delivery later,
      budgetDeliveries env deliveries = earlier ++ delivery :: later →
        ¬ StaleReplay env.toBudgetEnv earlier delivery := by
    rintro earlier delivery later split ⟨-, -, known, -⟩
    rw [split, List.map_append, List.map_cons] at idsDistinct
    have apart := (List.nodup_append.1 idsDistinct).2.2
    obtain ⟨before, listed, same⟩ := List.mem_map.1 known
    exact apart _ (List.mem_map_of_mem (List.mem_of_mem_filter listed)) _ List.mem_cons_self same
  have row := exact_of_fresh fresh (List.append_nil (budgetDeliveries env deliveries)).symm
  have state : (final (projectDelivery env) {} deliveries).budgetState = _ := budget_final served {}
  rw [state]
  constructor
  · intro some_delivered absent
    have nothing := row.complete key absent
    rw [allCharged] at nothing
    rw [nothing] at ids
    exact some_delivered (List.map_eq_nil_iff.1 ids.symm)
  · intro found held
    obtain ⟨consumed, overage, -, cap', capped', headroom⟩ := row.rows key found held
    rw [allCharged] at consumed overage
    have sameCap : cap' = cap := by
      rw [monthlyCap, resolved, Option.bind_some, capped] at capped'
      exact (Option.some.inj capped').symm
    refine ⟨consumed.trans drawdowns, overage.trans overages, ?_⟩
    rw [headroom, consumed, drawdowns, sameCap, sub_zero]

theorem headroom_left (cap_nonneg : 0 ≤ cap) :
    ∀ t ∈ run (projectDelivery env) {} deliveries, headroomLeft key cap t.before = cap := by
  intro t taken
  obtain ⟨past, future, split⟩ := List.append_of_mem taken
  obtain ⟨before, rfl, here⟩ := run_prefix split
  have events := congrArg (List.map Transition.event) split
  rw [run_events, List.map_append, run_events] at events
  have servedBefore : ∀ delivery ∈ before, ServedBy env key delivery := by
    intro delivery listed
    exact served delivery (events ▸ List.mem_append_left _ listed)
  have distinctBefore : (before.map (·.event.correlationId)).Nodup := by
    rw [events, List.map_append] at distinct
    exact (List.nodup_append.1 distinct).1
  obtain ⟨-, rows⟩ := budget_row exact resolved budgeted rate_pos capped named servedBefore
    distinctBefore
  rw [headroomLeft, here]
  cases held : (final (projectDelivery env) {} before).budgetState.get? key with
  | none => rfl
  | some row => exact (rows row held).2.2.trans (max_eq_right cap_nonneg)

theorem beyond_cap_of_bills (bills : BillsPastCap env key cost.toModelTierCost cap deliveries) :
    0 ≤ cap ∧ ((deliveries.map TaskDelivery.tokens).sum = 0 ∨
      ∃ delivery ∈ deliveries, cap < exactPrice cost.ratePer1kUsd delivery.tokens) := by
  obtain ⟨-, rows⟩ := budget_row exact resolved budgeted rate_pos capped named served distinct
  have left := headroom_left exact resolved budgeted rate_pos capped named served distinct
  obtain ⟨row, held, within, -, inBudget, overage, split, consumed, -, priced⟩ := bills
  obtain ⟨nothing, -, -⟩ := rows row held
  rw [nothing] at within consumed
  refine ⟨within, ?_⟩
  have all_overage : inBudget = 0 := by
    by_contra some_tokens
    have tokens_pos : 0 < (inBudget : ℚ) := Nat.cast_pos.2 (Nat.pos_of_ne_zero some_tokens)
    have drawn : 0 < exactPrice cost.ratePer1kUsd inBudget := by
      unfold exactPrice
      positivity
    exact absurd consumed (ne_of_lt drawn)
  rw [all_overage, zero_add] at split
  rcases Nat.eq_zero_or_pos overage with no_overage | some_overage
  · exact .inl (split ▸ no_overage)
  · obtain ⟨t, taken, more⟩ := priced some_overage
    rw [left within t taken] at more
    exact .inr ⟨t.event, mem_events taken, more⟩

end

/-- A month is billed as its cap has it, if and only if it served no token or one of its events
costs more than the whole cap. -/
theorem bills_past_cap_iff (exact : env.price = exactPrice)
    (resolved : env.resolveTierCost key.costTierName = some cost)
    (budgeted : cost.costType = .budgeted) (rate_pos : 0 < cost.ratePer1kUsd)
    (capped : cost.monthlyCapUsd = some cap) (named : key.costTierName ≠ "")
    (served : ∀ delivery ∈ deliveries, ServedBy env key delivery)
    (distinct : (deliveries.map (·.event.correlationId)).Nodup) (some_served : deliveries ≠ []) :
    BillsPastCap env key cost.toModelTierCost cap deliveries ↔
      0 ≤ cap ∧ ((deliveries.map TaskDelivery.tokens).sum = 0 ∨
        ∃ delivery ∈ deliveries, cap < exactPrice cost.ratePer1kUsd delivery.tokens) := by
  obtain ⟨exists_row, rows⟩ := budget_row exact resolved budgeted rate_pos capped named served
    distinct
  have left := headroom_left exact resolved budgeted rate_pos capped named served distinct
  constructor
  · exact beyond_cap_of_bills exact resolved budgeted rate_pos capped named served distinct
  · rintro ⟨cap_nonneg, priced⟩
    obtain ⟨row, held⟩ := Option.ne_none_iff_exists'.1 (exists_row some_served)
    obtain ⟨nothing, overage, headroom⟩ := rows row held
    refine ⟨row, held, nothing ▸ cap_nonneg, ?_, 0, _, Nat.zero_add _, ?_, overage, ?_⟩
    · rw [headroom, nothing, max_eq_right cap_nonneg, sub_zero]
    · rw [nothing]
      simp [exactPrice]
    · intro some_overage
      obtain ⟨delivery, listed, more⟩ := priced.resolve_left (Nat.ne_of_gt some_overage)
      have listed : delivery ∈ (run (projectDelivery env) {} deliveries).map Transition.event := by
        rwa [run_events]
      obtain ⟨t, taken, rfl⟩ := List.mem_map.1 listed
      exact ⟨t, taken, (left cap_nonneg t taken).symm ▸ more⟩

/-! ## Sample months -/

def sampleProjectionEnv : ProjectionEnv where
  toBudgetEnv := sampleBudgetEnv
  price := exactPrice
  parseFloat _ := none
  parseInt _ := none
  str _ := ""
  lower text := text
  casefold text := text
  parseTaskDelegated _ := none

def sampleKey : BudgetKey := ⟨"default", "reserved", "2026-07"⟩

def samplePinned : ModelPremiumCounterfactual where
  model := "claude-opus-4-6"
  priceInPer1k := 15
  priceOutPer1k := 75
  asOf := "2026-02-01"
  tokensIn := 1000
  tokensOut := 0
  counterfactualCostUsd := 15

theorem sampleAttempts_pos : 1 ≤ 1 := by decide

/-- A delegation on the tier that costs one dollar, or two past the cap, for a thousand tokens. -/
def sampleServed (correlationId : String) (tokens : ℕ) : TaskDelivery where
  event := {
    correlationId := correlationId
    taskType := "test"
    delegatedTo := "reserved-gpu"
    tokensInput := tokens
    costTierName := "reserved"
    premiumCounterfactual := some samplePinned
    attempts_pos := sampleAttempts_pos
    headroom_nonneg := sampleDrawdown_nonneg }
  now := ⟨0, some 0⟩

def sampleCost : CappedTierCost where
  costType := .budgeted
  ratePer1kUsd := 1
  overageRatePer1kUsd := 2
  monthlyCapUsd := some 10
  rate_nonneg := sampleRate_nonneg
  overage_nonneg := sampleOverage_nonneg

theorem sample_served {correlationId : String} {tokens : ℕ}
    (built : (taskEventRow sampleProjectionEnv (sampleServed correlationId tokens).event
      ⟨0, some 0⟩).toOption.isSome = true)
    (month : ((sampleServed correlationId tokens).budget sampleProjectionEnv).bind
      (BudgetDelivery.key sampleBudgetEnv) = some sampleKey) :
    ServedBy sampleProjectionEnv sampleKey (sampleServed correlationId tokens) where
  tier := rfl
  pinned := by simp [sampleServed]
  first := rfl
  projected := by
    cases outcome : taskEventRow sampleProjectionEnv (sampleServed correlationId tokens).event
      ⟨0, some 0⟩ with
    | error raised => rw [outcome] at built; cases built
    | ok row => exact ⟨row, outcome⟩
  month := Option.bind_eq_some_iff.1 month

/-- An event whose tokens cost more than the whole cap. -/
theorem beyond_cap_billed : BillsPastCap sampleProjectionEnv sampleKey sampleCost.toModelTierCost 10
      [sampleServed "a" 20000] := by
  have served : ∀ delivery ∈ [sampleServed "a" 20000],
      ServedBy sampleProjectionEnv sampleKey delivery := by
    intro delivery listed
    rw [List.mem_singleton.1 listed]
    exact sample_served (by decide +kernel) (by decide +kernel)
  refine (@bills_past_cap_iff _ _ sampleCost _ _ rfl rfl rfl (by decide) rfl (by decide) served
    (by decide) (by decide)).2 ⟨by decide, .inr ⟨_, List.mem_singleton_self _, ?_⟩⟩
  decide +kernel

/-- A thousand tokens, which cost one dollar of the ten, are all billed as overage. -/
theorem first_tokens_billed :
    ¬ BillsPastCap sampleProjectionEnv sampleKey sampleCost.toModelTierCost 10
      [sampleServed "a" 1000] := by
  have served : ∀ delivery ∈ [sampleServed "a" 1000],
      ServedBy sampleProjectionEnv sampleKey delivery := by
    intro delivery listed
    rw [List.mem_singleton.1 listed]
    exact sample_served (by decide +kernel) (by decide +kernel)
  intro bills
  obtain ⟨-, none_served | ⟨delivery, listed, more⟩⟩ := @beyond_cap_of_bills _ _ sampleCost _ _ rfl
    rfl rfl (by decide) rfl (by decide) served (by decide) bills
  · exact absurd none_served (by decide)
  · rw [List.mem_singleton.1 listed] at more
    exact absurd more (by decide +kernel)

end OmniMarket.DelegationProjection
