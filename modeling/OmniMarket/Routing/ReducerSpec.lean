import Mathlib.Data.List.Perm.Subperm
import OmniMarket.Routing.Reducer

/-!
# The escalation ladder

The questions the orchestrator and the local port ask the routing authority
between two `delta` calls: which tier comes next, which backend a tier would
select, whether a sibling backend is left, what a tier may retry.
-/

namespace OmniMarket
variable {entry : Option PyDict}

section

variable (env : RoutingEnv)

/-- Whether `tier` can route `taskType`: permitted by the contract, and with a
selectable model for an empty prompt. -/
def tierCanRouteTask (tier : ModelRoutingTier) (taskType : String) (backends : BifrostBackends) :
    Except RoutingError Bool :=
  let entry := taskClassEntry env.taskClassContract taskType
  match tierAllowedByContract env tier entry with
  | .error raised => .error raised
  | .ok false => .ok false
  | .ok true =>
    .ok (selectModelForTask env tier.models taskType 0 backends
      (getContractModelRef env.taskClassContract taskType) []).isSome

def ladderStep (taskType : Option String) (backends : BifrostBackends) (skip : List String)
    (tier : ModelRoutingTier) : Except RoutingError (Option String) :=
  if skip.contains tier.name then .ok none
  else
    match taskType with
    | none => .ok (some tier.name)
    | some taskType =>
      match tierCanRouteTask env tier taskType backends with
      | .error raised => .error raised
      | .ok false => .ok none
      | .ok true => .ok (some tier.name)

/-- The tiers after the first one named `current`, without any of that name. -/
def afterTier (current : String) (tiers : List ModelRoutingTier) : List ModelRoutingTier :=
  (tiers.dropWhile (fun tier => tier.name != current)).filter (fun tier => tier.name != current)

/-- The next tier after `current` that can route the task. Without a task type
the declaration order decides alone. -/
def nextEligibleTier (current : String) (excludedTiers : List String)
    (taskType : Option String := none) (roiOverlay : Option (List String) := none) :
    Except RoutingError (Option String) := do
  let backends ← match taskType with
    | none => .ok []
    | some _ => env.bifrostEndpoints
  let tiers ← match taskType with
    | none => .ok env.config.tiers
    | some taskType =>
      tierOrderFromContract env.config (taskClassEntry env.taskClassContract taskType)
  withRoiFallback (roiOverlay.getD []) fun extraSkip =>
    (afterTier current tiers).findSomeM?
      (ladderStep env taskType backends (excludedTiers ++ extraSkip))

def declaresTierOrder (entry : PyDict) : Bool :=
  match (entry.get "escalation_policy").asDict? with
  | none => false
  | some escalation => (escalation.get "tier_order").truthy

def firstEligibleTier (taskType : String) (roiOverlay : Option (List String) := none) :
    Except RoutingError (Option String) :=
  match taskClassEntry env.taskClassContract taskType with
  | none => .ok none
  | some entry =>
    if !declaresTierOrder entry then .ok none
    else do
      let backends ← env.bifrostEndpoints
      let ordered ← tierOrderFromContract env.config (some entry)
      withRoiFallback (roiOverlay.getD []) fun skip =>
        ordered.findSomeM? (ladderStep env (some taskType) backends skip)

/-! ## The reason when no tier is left -/

def NO_HIGHER_TIER_REASON_TOKEN : String := "no_higher_tier_available"

def tierSkipReason (taskType : String) (excludedTiers : List String) (tier : ModelRoutingTier) :
    Except RoutingError String :=
  if excludedTiers.contains tier.name then .ok "excluded"
  else
    let entry := taskClassEntry env.taskClassContract taskType
    match tierAllowedByContract env tier entry with
    | .error raised => .error raised
    | .ok true => .ok "no_routable_backend_for_task"
    | .ok false =>
      let policy := (entry.map (·.get "cloud_routing_policy")).getD .none
      if policyBlocksCloud policy && !LOCAL_TIERS.contains tier.name then
        .ok "cloud_routing_blocked"
      else .ok "above_pricing_ceiling"

def describeSkippedTier (taskType : String) (excludedTiers : List String)
    (tier : ModelRoutingTier) : Except RoutingError String :=
  (tierSkipReason env taskType excludedTiers tier).map fun reason => s!"{tier.name}({reason})"

def describeNoHigherTierAvailable (current : String) (excludedTiers : List String)
    (taskType : String) : Except RoutingError String := do
  let _ ← env.bifrostEndpoints
  let tiers ← tierOrderFromContract env.config (taskClassEntry env.taskClassContract taskType)
  let policyOrder := PyText.reprList env.unicode (tiers.map (·.name))
  if !tiers.any (fun tier => tier.name == current) then
    return NO_HIGHER_TIER_REASON_TOKEN ++ s!": task_class='{taskType}' " ++
      s!"current_tier='{current}' is not in the declared " ++
      s!"escalation policy tier_order={policyOrder}"
  if (afterTier current tiers).isEmpty then
    return NO_HIGHER_TIER_REASON_TOKEN ++ s!": task_class='{taskType}' exhausted " ++
      s!"escalation policy tier_order={policyOrder} — " ++
      s!"current_tier='{current}' is the final (ceiling) tier; " ++
      "no higher tier is declared for this task class"
  let skipped ← (afterTier current tiers).mapM (describeSkippedTier env taskType excludedTiers)
  let listed := ", ".intercalate skipped
  return NO_HIGHER_TIER_REASON_TOKEN ++ s!": task_class='{taskType}' exhausted " ++
    s!"escalation policy tier_order={policyOrder} — " ++
    s!"current_tier='{current}'; no usable higher tier: {listed}"

/-! ## Lookups by tier and backend -/

def findTier (tierName : String) : Option ModelRoutingTier :=
  env.config.tiers.find? (fun tier => tier.name == tierName)

/-- The name of the first tier that declares `backendId`. -/
def tierForBackend (backendId : String) : Option String :=
  (env.config.tiers.find? fun tier =>
    tier.models.any (fun model => model.backendRef == backendId)).map (·.name)

/-- The backend that `tierName` selects for an empty prompt, outside `excluded`. -/
def selectedBackendInTier (tierName taskType : String) (excluded : List String) :
    Except RoutingError (Option String) :=
  match findTier env tierName with
  | none => .ok none
  | some tier =>
    env.bifrostEndpoints.map fun backends =>
      (selectModelForTask env tier.models taskType 0 backends
        (getContractModelRef env.taskClassContract taskType) excluded).map (·.backendRef)

def backendIdForTier (tierName taskType : String) :
    Except RoutingError (Option String) :=
  selectedBackendInTier env tierName taskType []

def siblingBackendAvailableInTier (tierName taskType : String) (excludeBackendRefs : List String) :
    Except RoutingError (Option String) :=
  selectedBackendInTier env tierName taskType excludeBackendRefs

/-- Whether a tier costs nothing to re-run. An unknown tier is not free. -/
def isFreeTier (tierName : String) : Bool :=
  match findTier env tierName with
  | none => false
  | some tier =>
    match tier.cost with
    | some cost => cost.costType == .freeLocal
    | none => tier.costPer1kTokens == .finite 0

def tierMaxRetries (tierName : String) : Except RoutingError ℤ :=
  match findTier env tierName with
  | some tier => .ok tier.maxRetries
  | none => .error (.tierNotDeclared tierName (env.config.tiers.map (·.name)))

end

/-!
# What a routing decision guarantees
-/

section

variable {env : RoutingEnv} {ctx : RouteContext} {roiSkip : List String}
  {tier : ModelRoutingTier} {decision : ModelRoutingDecision}

/-! ## One tier -/

theorem usableBackend_lookup {backends : BifrostBackends} {model : ModelTierModel}
    (usable : (usableBackend env backends model).isSome) :
    ∃ backend, backends.lookup model.backendRef = some backend := by
  obtain ⟨backend, found⟩ := Option.isSome_iff_exists.mp usable
  exact ⟨backend, (Option.filter_eq_some_iff.mp found).1⟩

/-- The model that `routeTier` selects in `tier`. -/
def selectedIn (env : RoutingEnv) (ctx : RouteContext) (tier : ModelRoutingTier) :
    Option ModelTierModel :=
  selectModelForTask env tier.models ctx.request.taskType ctx.estimatedTokens
    ctx.backends ctx.contractModelRef ctx.excludedBackendRefs

/-- `tier` takes the request: the contract permits it and it selects a model. -/
def Takes (env : RoutingEnv) (ctx : RouteContext) (tier : ModelRoutingTier) : Prop :=
  tierAllowedByContract env tier ctx.entry = .ok true ∧ (selectedIn env ctx tier).isSome

theorem selectedIn_lookup {selected : ModelTierModel}
    (picked : selectedIn env ctx tier = some selected) :
    ∃ backend, ctx.backends.lookup selected.backendRef = some backend := by
  obtain ⟨_, serves, _⟩ := selectModelForTask_sound picked
  simp only [servesWithin, Bool.and_eq_true] at serves
  exact usableBackend_lookup serves.1.2

theorem routeTier_eq_some :
    routeTier env ctx roiSkip tier = .ok (some decision) ↔
      tier.name ∉ roiSkip ∧ tierAllowedByContract env tier ctx.entry = .ok true ∧
        ∃ selected backend, selectedIn env ctx tier = some selected ∧
          ctx.backends.lookup selected.backendRef = some backend ∧
          decision = buildDecision env ctx roiSkip tier selected backend := by
  unfold routeTier selectedIn
  by_cases suppressed : tier.name ∈ roiSkip
  · simp [suppressed]
  · simp only [List.contains_iff_mem, suppressed, if_false, not_false_eq_true, true_and]
    match allowed : tierAllowedByContract env tier ctx.entry with
    | .error raised => simp
    | .ok false => simp
    | .ok true =>
      simp only [true_and]
      cases picked : selectModelForTask env tier.models ctx.request.taskType
          ctx.estimatedTokens ctx.backends ctx.contractModelRef ctx.excludedBackendRefs with
      | none => simp
      | some selected =>
        cases found : ctx.backends.lookup selected.backendRef with
        | none => simp [found]
        | some backend =>
          simp only [found, Option.some.injEq, Except.ok.injEq]
          constructor
          · intro built
            exact ⟨selected, backend, rfl, found, built.symm⟩
          · rintro ⟨_, other, rfl, foundOther, rfl⟩
            rw [found] at foundOther
            cases foundOther
            rfl

theorem routeTier_of_takes (takes : Takes env ctx tier) (unsuppressed : tier.name ∉ roiSkip) :
    ∃ decision, routeTier env ctx roiSkip tier = .ok (some decision) ∧
      decision.tierName = tier.name := by
  obtain ⟨allowed, picked⟩ := takes
  obtain ⟨selected, selectedIn⟩ := Option.isSome_iff_exists.mp picked
  obtain ⟨backend, found⟩ := selectedIn_lookup selectedIn
  exact ⟨_, routeTier_eq_some.mpr ⟨unsuppressed, allowed, selected, backend, selectedIn, found, rfl⟩,
    rfl⟩

theorem takes_of_routeTier (routed : routeTier env ctx roiSkip tier = .ok (some decision)) :
    Takes env ctx tier ∧ decision.tierName = tier.name := by
  obtain ⟨_, allowed, selected, backend, picked, _, rfl⟩ := routeTier_eq_some.mp routed
  exact ⟨⟨allowed, by simp [picked]⟩, rfl⟩

variable {permitted : ModelRoutingTier}

theorem tierAllowedByContract_total (allowed : tierAllowedByContract env permitted entry = .ok true)
    (tier : ModelRoutingTier) : ∃ verdict, tierAllowedByContract env tier entry = .ok verdict := by
  unfold tierAllowedByContract at allowed ⊢
  split at allowed
  · cases allowed
  · split
    · exact ⟨false, rfl⟩
    · cases entry with
      | none => exact ⟨_, rfl⟩
      | some entry =>
        simp only at allowed ⊢
        split at allowed
        · cases allowed
        · split
          · exact ⟨false, rfl⟩
          · unfold aboveCeiling at allowed ⊢
            cases read : numberAsFloat (entry.get "pricing_ceiling_per_1k_tokens") with
            | none => exact ⟨_, rfl⟩
            | some converted =>
              cases converted with
              | error raised => simp [read] at allowed
              | ok limit => exact ⟨_, rfl⟩

theorem routeTier_skips (allowed : tierAllowedByContract env permitted ctx.entry = .ok true)
    (refuses : ¬ Takes env ctx tier) : routeTier env ctx roiSkip tier = .ok none := by
  match routed : routeTier env ctx roiSkip tier with
  | .ok none => rfl
  | .ok (some decision) => exact absurd (takes_of_routeTier routed).1 refuses
  | .error raised =>
    obtain ⟨verdict, total⟩ := tierAllowedByContract_total allowed tier
    unfold routeTier at routed
    split at routed
    · cases routed
    · rw [total] at routed
      cases verdict with
      | false => cases routed
      | true =>
        simp only at routed
        split at routed
        · cases routed
        · split at routed <;> cases routed

/-! ## The whole walk -/

theorem withRoiFallback_eq_some {α : Type} {suppressed : List String} {found : α}
    {walk : List String → Except RoutingError (Option α)}
    (walked : withRoiFallback suppressed walk = .ok (some found)) :
    ∃ skip, walk skip = .ok (some found) := by
  unfold withRoiFallback at walked
  split at walked
  · cases walked
  · rename_i first
    cases walked
    exact ⟨suppressed, first⟩
  · split at walked
    · cases walked
    · exact ⟨[], walked⟩

theorem withRoiFallback_eq_none {α : Type} {suppressed : List String}
    {walk : List String → Except RoutingError (Option α)}
    (walked : withRoiFallback suppressed walk = .ok none) : walk [] = .ok none := by
  unfold withRoiFallback at walked
  split at walked
  · cases walked
  · cases walked
  · rename_i first
    split at walked
    · rename_i nothing
      rwa [List.isEmpty_iff.mp nothing] at first
    · exact walked

theorem withRoiFallback_none {α : Type} {walk : List String → Except RoutingError (Option α)} :
    withRoiFallback [] walk = walk [] := by
  unfold withRoiFallback
  split
  · rename_i raised first
    exact first.symm
  · rename_i found first
    exact first.symm
  · rename_i first
    simp [first]

variable {request : ModelDelegationRequest} {minTierName : Option String}
  {roiOverlay : Option (List String)}

theorem delta_eq_ok {excluded : List String} :
    delta env request minTierName roiOverlay excluded = .ok decision ↔
      ∃ backends tiers, env.bifrostEndpoints = .ok backends ∧
        tierOrderFromContract env.config
          (taskClassEntry env.taskClassContract request.taskType) = .ok tiers ∧
        withRoiFallback (roiOverlay.getD [])
          (route env (routeContext env request backends minTierName excluded) tiers) =
            .ok (some decision) := by
  unfold delta
  cases loaded : env.bifrostEndpoints with
  | error raised => simp [bind, Except.bind]
  | ok backends =>
    have entry_eq : (routeContext env request backends minTierName excluded).entry =
        taskClassEntry env.taskClassContract request.taskType := rfl
    simp only [bind, Except.bind, entry_eq, Except.ok.injEq]
    cases ordered : tierOrderFromContract env.config
        (taskClassEntry env.taskClassContract request.taskType) with
    | error raised => simp
    | ok tiers =>
      simp only [Except.ok.injEq]
      cases walked : withRoiFallback (roiOverlay.getD [])
          (route env (routeContext env request backends minTierName excluded) tiers) with
      | error raised => simp [walked]
      | ok found => cases found <;> simp [walked]

/-- A decision that is allowed and can be called: a tier of the task's order, from the asked one on,
that the contract permits, and a model of it that declares the task or is the contract's own, holds
the prompt, is not excluded and has a backend with its key. -/
def Callable (env : RoutingEnv) (request : ModelDelegationRequest) (minTierName : Option String)
    (excluded : List String) (decision : ModelRoutingDecision) : Prop :=
  ∃ backends tiers tier model backend, env.bifrostEndpoints = .ok backends ∧
    tierOrderFromContract env.config (taskClassEntry env.taskClassContract request.taskType) =
      .ok tiers ∧
    tier ∈ fromTier minTierName tiers ∧ decision.tierName = tier.name ∧
    tierAllowedByContract env tier (taskClassEntry env.taskClassContract request.taskType) =
      .ok true ∧
    model ∈ tier.models ∧ decision.selectedBackendRef = model.backendRef ∧
    model.backendRef ∉ excluded ∧
    (estimatePromptTokens request.prompt : ℤ) ≤ model.maxContextTokens ∧
    (request.taskType ∈ model.useFor ∨
      getContractModelRef env.taskClassContract request.taskType = some model.id) ∧
    backends.lookup model.backendRef = some backend ∧
    env.apiKeyRefAvailable backend.apiKeyRef backend.apiKeyEnv = true ∧
    decision.endpointUrl = backend.endpointUrl ∧ decision.correlationId = request.correlationId

theorem delta_callable {excluded : List String}
    (decided : delta env request minTierName roiOverlay excluded = .ok decision) :
    Callable env request minTierName excluded decision := by
  obtain ⟨backends, tiers, loaded, ordered, walked⟩ := delta_eq_ok.mp decided
  obtain ⟨skip, routed⟩ := withRoiFallback_eq_some walked
  obtain ⟨before, tier, after, split, _, hit⟩ := Search.findSomeM?_eq_ok_some.mp routed
  obtain ⟨_, allowed, selected, backend, picked, found, rfl⟩ := routeTier_eq_some.mp hit
  obtain ⟨member, serves, declares⟩ := selectModelForTask_sound picked
  simp only [servesWithin, Bool.and_eq_true, Bool.not_eq_true', decide_eq_true_eq] at serves
  obtain ⟨⟨kept, usable⟩, holds⟩ := serves
  have keyed : env.apiKeyRefAvailable backend.apiKeyRef backend.apiKeyEnv = true := by
    unfold usableBackend at usable
    rw [found] at usable
    simpa using usable
  refine ⟨backends, tiers, tier, selected, backend, loaded, ordered, ?_, rfl, allowed, member, rfl,
    by simpa [routeContext] using kept, holds, declares.imp_right And.right, found, keyed, rfl, rfl⟩
  have fromCtx : fromTier minTierName tiers = before ++ tier :: after := split
  simp [fromCtx]

/-- Without ROI suppression a walk lands on a tier named `name` exactly when one of
that name takes the request and no tier of another name does so before it. -/
theorem route_lands {tiers : List ModelRoutingTier} {name : String} :
    (∃ decision, route env ctx tiers [] = .ok (some decision) ∧ decision.tierName = name) ↔
      ∃ before tier after, fromTier ctx.minTierName tiers = before ++ tier :: after ∧
        tier.name = name ∧ Takes env ctx tier ∧
        ∀ other ∈ before, other.name ≠ name → ¬ Takes env ctx other := by
  unfold route
  generalize fromTier ctx.minTierName tiers = walk
  constructor
  · rintro ⟨decision, routed, named⟩
    obtain ⟨before, tier, after, split, skipped, hit⟩ := Search.findSomeM?_eq_ok_some.mp routed
    obtain ⟨takes, tierNamed⟩ := takes_of_routeTier hit
    refine ⟨before, tier, after, split, tierNamed.symm.trans named, takes, ?_⟩
    intro other member _ otherTakes
    obtain ⟨_, landed, _⟩ := routeTier_of_takes otherTakes (List.not_mem_nil : other.name ∉ [])
    rw [skipped other member] at landed
    cases landed
  · rintro ⟨before, tier, after, rfl, named, takes, refuse⟩
    induction before with
    | nil =>
      obtain ⟨decision, hit, tierNamed⟩ := routeTier_of_takes takes (List.not_mem_nil : tier.name ∉ [])
      exact ⟨decision, Search.findSomeM?_cons_some hit, tierNamed.trans named⟩
    | cons head rest ih =>
      by_cases headTakes : Takes env ctx head
      · -- The walk stops here, so this tier carries the name as well.
        obtain ⟨decision, hit, headNamed⟩ :=
          routeTier_of_takes headTakes (List.not_mem_nil : head.name ∉ [])
        refine ⟨decision, Search.findSomeM?_cons_some hit, headNamed.trans ?_⟩
        by_contra otherName
        exact refuse head (by simp) otherName headTakes
      · obtain ⟨decision, walked, landed⟩ :=
          ih fun other member => refuse other (by simp [member])
        refine ⟨decision, ?_, landed⟩
        rw [List.cons_append, Search.findSomeM?_cons_none (routeTier_skips takes.1 headTakes)]
        exact walked

end

/-!
# Tier orders

A task class walks its tiers in one order. With distinct tier names every order is
a selection of the configured tiers, and each step up leaves fewer tiers above.
-/

section

/-- No two tiers of the configuration share a name. -/
def DistinctTiers (config : ModelDelegationConfig) : Prop :=
  (config.tiers.map (·.name)).Nodup

variable {config : ModelDelegationConfig} {tiers : List ModelRoutingTier}
  {tier : ModelRoutingTier}

/-! ## Orders of a contract -/

theorem tierByName_sound {name : String} (found : tierByName tiers name = some tier) :
    tier ∈ tiers ∧ tier.name = name := by
  have member := List.mem_of_find?_eq_some found
  have named := List.find?_some found
  exact ⟨List.mem_reverse.mp member, by simpa using named⟩

theorem orderTiers_sound {seen : List String} {order : List PyValue}
    {ordered : List ModelRoutingTier} (resolved : orderTiers tiers seen order = .ok ordered) :
    (∀ tier ∈ ordered, tier ∈ tiers ∧ tier.name ∉ seen) ∧ (ordered.map (·.name)).Nodup := by
  induction order generalizing seen ordered with
  | nil =>
    cases resolved
    exact ⟨by simp, List.nodup_nil⟩
  | cons name rest ih =>
    rw [orderTiers] at resolved
    split at resolved
    · cases resolved
    · rename_i key tier looked
      obtain ⟨found, named⟩ : tierByName tiers key = some tier ∧ tier.name = key := by
        simp only [Option.bind_eq_some_iff, Option.map_eq_some_iff, Prod.mk.injEq] at looked
        obtain ⟨_, _, _, found, rfl, rfl⟩ := looked
        exact ⟨found, (tierByName_sound found).2⟩
      split at resolved
      · -- a repeated name is skipped
        exact ih resolved
      · rename_i unseen
        cases later : orderTiers tiers (key :: seen) rest with
        | error raised =>
          rw [later] at resolved
          cases resolved
        | ok others =>
          rw [later] at resolved
          cases resolved
          obtain ⟨sound, distinct⟩ := ih later
          constructor
          · intro other member
            cases List.mem_cons.mp member with
            | inl same =>
              rw [same]
              exact ⟨(tierByName_sound found).1, by simpa [named] using unseen⟩
            | inr inRest =>
              obtain ⟨configured, fresh⟩ := sound other inRest
              exact ⟨configured, fun repeated => fresh (List.mem_cons_of_mem _ repeated)⟩
          · -- the tiers still to come do not have the name just taken
            refine List.nodup_cons.mpr ⟨?_, distinct⟩
            intro repeated
            obtain ⟨other, member, sameName⟩ := List.mem_map.mp repeated
            exact (sound other member).2 (by simp [sameName, named])

section

variable (distinct : DistinctTiers config)
  (ordered : tierOrderFromContract config entry = .ok tiers)

include distinct ordered

theorem tierOrder_sound : (∀ tier ∈ tiers, tier ∈ config.tiers) ∧ (tiers.map (·.name)).Nodup := by
  unfold tierOrderFromContract at ordered
  split at ordered
  · cases ordered
    exact ⟨fun _ member => member, distinct⟩
  · obtain ⟨sound, nodup⟩ := orderTiers_sound ordered
    exact ⟨fun tier member => (sound tier member).1, nodup⟩

theorem tierOrder_length : tiers.length ≤ config.tiers.length := by
  obtain ⟨configured, nodup⟩ := tierOrder_sound distinct ordered
  have subset : tiers ⊆ config.tiers := fun tier member => configured tier member
  exact (List.subperm_of_subset nodup.of_map subset).length_le

end

theorem findTier_of_mem {env : RoutingEnv} (distinct : DistinctTiers env.config)
    (member : tier ∈ env.config.tiers) : findTier env tier.name = some tier := by
  cases found : findTier env tier.name with
  | none =>
    have missed := List.find?_eq_none.mp found tier member
    simp at missed
  | some other =>
    have named : other.name = tier.name := by simpa using List.find?_some found
    exact congrArg some
      (List.inj_on_of_nodup_map distinct (List.mem_of_find?_eq_some found) member named)

/-! ## Tiers above a tier -/

variable {current : String}

theorem afterTier_subset (later : tier ∈ afterTier current tiers) :
    tier ∈ tiers ∧ tier.name ≠ current := by
  obtain ⟨member, other⟩ := List.mem_filter.mp later
  exact ⟨(List.dropWhile_suffix _).subset member, by simpa using other⟩

theorem mem_afterTier (member : tier ∈ fromTier (some current) tiers)
    (other : tier.name ≠ current) : tier ∈ afterTier current tiers :=
  List.mem_filter.mpr ⟨member, by simpa using other⟩

theorem afterTier_cons_other {head : ModelRoutingTier} (other : head.name ≠ current) :
    afterTier current (head :: tiers) = afterTier current tiers := by
  simp [afterTier, other]

theorem afterTier_cons_same {head : ModelRoutingTier} (same : head.name = current) :
    afterTier current (head :: tiers) = tiers.filter fun tier => tier.name != current := by
  simp [afterTier, same]

theorem afterTier_length_lt (member : tier ∈ tiers) :
    (afterTier tier.name tiers).length < tiers.length := by
  induction tiers with
  | nil => cases member
  | cons head rest ih =>
    by_cases same : head.name = tier.name
    · rw [afterTier_cons_same same, List.length_cons]
      exact Nat.lt_succ_of_le (List.length_filter_le ..)
    · rw [afterTier_cons_other same, List.length_cons]
      have inRest : tier ∈ rest := by
        cases List.mem_cons.mp member with
        | inl equal => exact absurd (congrArg (·.name) equal.symm) same
        | inr later => exact later
      exact Nat.lt_succ_of_lt (ih inRest)

/-- A tier after `current` has fewer tiers above it than `current` has. -/
theorem afterTier_decreases (distinct : (tiers.map (·.name)).Nodup)
    (later : tier ∈ afterTier current tiers) :
    (afterTier tier.name tiers).length < (afterTier current tiers).length := by
  induction tiers with
  | nil => cases later
  | cons head rest ih =>
    obtain ⟨fresh, distinctRest⟩ := List.nodup_cons.mp distinct
    have others : ∀ other ∈ rest, other.name ≠ head.name := fun other member same =>
      fresh (List.mem_map.mpr ⟨other, member, same⟩)
    by_cases same : head.name = current
    · have all : rest.filter (fun tier => tier.name != current) = rest :=
        List.filter_eq_self.mpr fun other member => by simpa [same] using others other member
      rw [afterTier_cons_same same, all] at later ⊢
      rw [afterTier_cons_other (others tier later).symm]
      exact afterTier_length_lt later
    · rw [afterTier_cons_other same] at later ⊢
      rw [afterTier_cons_other (others tier (afterTier_subset later).1).symm]
      exact ih distinctRest later

def Answers (env : RoutingEnv) (intent : ModelRoutingIntent) (decision : ModelRoutingDecision) :
    Prop :=
  ∃ tiers tier model,
    tierOrderFromContract env.config
      (taskClassEntry env.taskClassContract intent.payload.taskType) = .ok tiers ∧
    tier ∈ fromTier intent.minTierName tiers ∧ decision.tierName = tier.name ∧
    model ∈ tier.models ∧ decision.selectedBackendRef = model.backendRef ∧
    model.backendRef ∉ intent.excludedBackendRefs

theorem mem_sortedSet {items : List String} {item : String} :
    item ∈ sortedSet items ↔ item ∈ items := by
  unfold sortedSet
  rw [(List.perm_insertionSort _ _).mem_iff, List.mem_eraseDups]

end

end OmniMarket
