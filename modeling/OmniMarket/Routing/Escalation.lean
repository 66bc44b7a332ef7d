import OmniMarket.Routing.ReducerSpec

/-!
# Escalation and the reducer

`nextEligibleTier` probes a tier with an empty prompt, `delta` selects with the
real estimate. This module states when the two agree.
-/

namespace OmniMarket
variable {minTierName : Option String} {roiOverlay : Option (List String)} {env : RoutingEnv}

/-- `tier` fits the request: the contract permits it, and one of its models with
a usable backend holds the whole prompt and declares the task or is its override. -/
def FitsPrompt (env : RoutingEnv) (request : ModelDelegationRequest)
    (backends : BifrostBackends) (tier : ModelRoutingTier) : Prop :=
  tierAllowedByContract env tier (taskClassEntry env.taskClassContract request.taskType) =
      .ok true ∧
    ∃ model ∈ tier.models,
      Candidate env backends request.taskType (estimatePromptTokens request.prompt)
        (getContractModelRef env.taskClassContract request.taskType) model

/-- Among the tiers of the task from the first one named `name` on, one of that
name fits the request, and no tier of another name before it does. -/
def FitsLadder (env : RoutingEnv) (request : ModelDelegationRequest) (name : String) : Prop :=
  ∃ backends tiers, env.bifrostEndpoints = .ok backends ∧
    tierOrderFromContract env.config
      (taskClassEntry env.taskClassContract request.taskType) = .ok tiers ∧
    ∃ before tier after, fromTier (some name) tiers = before ++ tier :: after ∧
      tier.name = name ∧ FitsPrompt env request backends tier ∧
      ∀ other ∈ before, other.name ≠ name → ¬ FitsPrompt env request backends other

section

variable {env : RoutingEnv} {request : ModelDelegationRequest} {backends : BifrostBackends}
  {tiers : List ModelRoutingTier} {tier : ModelRoutingTier} {name : String}

theorem takes_iff_fitsPrompt :
    Takes env (routeContext env request backends minTierName []) tier ↔
      FitsPrompt env request backends tier :=
  and_congr_right fun _ => selectModelForTask_isSome

theorem delta_lands_iff :
    (∃ decision, delta env request (some name) = .ok decision ∧ decision.tierName = name) ↔
      FitsLadder env request name := by
  constructor
  · rintro ⟨decision, decided, named⟩
    obtain ⟨backends, tiers, loaded, ordered, walked⟩ := delta_eq_ok.mp decided
    rw [Option.getD_none, withRoiFallback_none] at walked
    obtain ⟨before, tier, after, split, tierNamed, takes, refuse⟩ :=
      route_lands.mp ⟨decision, walked, named⟩
    refine ⟨backends, tiers, loaded, ordered, before, tier, after, split, tierNamed,
      takes_iff_fitsPrompt.mp takes, ?_⟩
    intro other member otherName fits
    exact refuse other member otherName (takes_iff_fitsPrompt.mpr fits)
  · rintro ⟨backends, tiers, loaded, ordered, before, tier, after, split, tierNamed, fits, refuse⟩
    obtain ⟨decision, walked, named⟩ := route_lands.mpr
      (⟨before, tier, after, split, tierNamed, takes_iff_fitsPrompt.mpr fits,
        fun other member otherName takes =>
          refuse other member otherName (takes_iff_fitsPrompt.mp takes)⟩ :
        ∃ before tier after,
          fromTier (routeContext env request backends (some name) []).minTierName tiers =
              before ++ tier :: after ∧
            tier.name = name ∧ Takes env (routeContext env request backends (some name) []) tier ∧
            ∀ other ∈ before, other.name ≠ name →
              ¬ Takes env (routeContext env request backends (some name) []) other)
    refine ⟨decision, delta_eq_ok.mpr ⟨backends, tiers, loaded, ordered, ?_⟩, named⟩
    rw [Option.getD_none, withRoiFallback_none]
    exact walked

end

/-! ## What the probe promises -/

theorem ladderStep_eq_some {taskType : String} {backends : BifrostBackends}
    {skip : List String} {tier : ModelRoutingTier} {name : String} :
    ladderStep env (some taskType) backends skip tier = .ok (some name) ↔
      tier.name = name ∧ name ∉ skip ∧ tierCanRouteTask env tier taskType backends = .ok true := by
  unfold ladderStep
  by_cases skipped : tier.name ∈ skip
  · simp only [List.contains_iff_mem, skipped, if_true, Except.ok.injEq, reduceCtorEq, false_iff]
    rintro ⟨rfl, notSkipped, _⟩
    exact notSkipped skipped
  · simp only [List.contains_iff_mem, skipped, if_false]
    match routes : tierCanRouteTask env tier taskType backends with
    | .error raised => simp
    | .ok false => simp
    | .ok true =>
      simp only [Except.ok.injEq, Option.some.injEq, and_true]
      constructor
      · rintro rfl
        exact ⟨rfl, skipped⟩
      · exact fun named => named.1

/-- The tier that `nextEligibleTier` returns stands after `current` in the task's
order, is not excluded and can route the task. -/
theorem nextEligibleTier_sound {taskType current next : String} {excluded : List String}
    (escalates : nextEligibleTier env current excluded (some taskType) roiOverlay = .ok (some next))
    :
    ∃ backends tiers tier, env.bifrostEndpoints = .ok backends ∧
      tierOrderFromContract env.config
        (taskClassEntry env.taskClassContract taskType) = .ok tiers ∧
      tier ∈ afterTier current tiers ∧ tier.name = next ∧ next ∉ excluded ∧
      tierCanRouteTask env tier taskType backends = .ok true := by
  unfold nextEligibleTier at escalates
  simp only [bind, Except.bind] at escalates
  cases loaded : env.bifrostEndpoints with
  | error raised => simp [loaded] at escalates
  | ok backends =>
    cases ordered : tierOrderFromContract env.config
        (taskClassEntry env.taskClassContract taskType) with
    | error raised => simp [loaded, ordered] at escalates
    | ok tiers =>
      simp only [loaded, ordered] at escalates
      obtain ⟨skip, walked⟩ := withRoiFallback_eq_some escalates
      obtain ⟨before, tier, after, split, _, hit⟩ := Search.findSomeM?_eq_ok_some.mp walked
      obtain ⟨named, unskipped, routes⟩ := ladderStep_eq_some.mp hit
      refine ⟨backends, tiers, tier, rfl, rfl, by simp [split], named, ?_, routes⟩
      intro isExcluded
      exact unskipped (List.mem_append_left _ isExcluded)

theorem ladderStep_eq_none {taskType : String} {backends : BifrostBackends}
    {skip : List String} {tier : ModelRoutingTier}
    (skipped : ladderStep env (some taskType) backends skip tier = .ok none)
    (unskipped : tier.name ∉ skip) : tierCanRouteTask env tier taskType backends = .ok false := by
  unfold ladderStep at skipped
  simp only [List.contains_iff_mem, unskipped, if_false] at skipped
  match routes : tierCanRouteTask env tier taskType backends with
  | .error raised => simp [routes] at skipped
  | .ok true => simp [routes] at skipped
  | .ok false => rfl

/-- When `nextEligibleTier` finds nothing, no later tier outside the excluded ones can
route the task. -/
theorem nextEligibleTier_none {taskType current : String} {excluded : List String}
    (exhausted : nextEligibleTier env current excluded (some taskType) roiOverlay = .ok none) :
    ∃ backends tiers, env.bifrostEndpoints = .ok backends ∧
      tierOrderFromContract env.config
        (taskClassEntry env.taskClassContract taskType) = .ok tiers ∧
      ∀ tier ∈ afterTier current tiers, tier.name ∉ excluded →
        tierCanRouteTask env tier taskType backends = .ok false := by
  unfold nextEligibleTier at exhausted
  simp only [bind, Except.bind] at exhausted
  cases loaded : env.bifrostEndpoints with
  | error raised => simp [loaded] at exhausted
  | ok backends =>
    cases ordered : tierOrderFromContract env.config
        (taskClassEntry env.taskClassContract taskType) with
    | error raised => simp [loaded, ordered] at exhausted
    | ok tiers =>
      simp only [loaded, ordered] at exhausted
      have walked := withRoiFallback_eq_none exhausted
      refine ⟨backends, tiers, rfl, rfl, ?_⟩
      intro tier member notExcluded
      have skipped := Search.findSomeM?_eq_ok_none.mp walked tier member
      exact ladderStep_eq_none skipped (by simpa using notExcluded)

/-- Escalating to the tier `nextEligibleTier` returned lands on that tier exactly when
the ladder fits the prompt there. -/
theorem nextEligibleTier_lands_iff {env : RoutingEnv} {request : ModelDelegationRequest}
    {current next : String} {excluded : List String}
    (_escalates : nextEligibleTier env current excluded (some request.taskType) = .ok (some next)) :
    (∃ decision, delta env request (some next) = .ok decision ∧ decision.tierName = next) ↔
      FitsLadder env request next :=
  delta_lands_iff

/-! ## A stranding ladder -/

def narrowMiddleConfig : ModelDelegationConfig where
  tiers :=
    [{ name := "local",
       models := [{ id := "qwen", backendRef := "local-reasoner", maxContextTokens := 100,
                    useFor := ["research"] }] },
     { name := "cheap_cloud",
       models := [{ id := "glm", backendRef := "cloud-glm", maxContextTokens := 10,
                    useFor := ["research"] }] },
     { name := "claude",
       models := [{ id := "opus", backendRef := "cloud-claude", maxContextTokens := 100,
                    useFor := ["research"] }] }]

def sampleBackend (modelName : String) : BifrostBackendRef where
  endpointUrl := "https://example.invalid/v1/chat/completions"
  modelName := modelName
  timeoutMs := 30000
  maxTokens := 65536

/-- An environment in which every backend of `config` resolves. -/
def sampleEnv (config : ModelDelegationConfig) : RoutingEnv where
  config := config
  taskClassContract := some [("task_classes", .dict [("research", .dict [])])]
  bifrostEndpoints := .ok <| config.tiers.flatMap fun tier =>
    tier.models.map fun model => (model.backendRef, sampleBackend model.id)
  apiKeyRefAvailable _ _ := true
  allowPaidEnv := ""
  backendIdForModel _ := 0
  unicode := PyText.asciiTable

/-- A research request of sixty characters, estimated at fifteen tokens. -/
def sixtyCharRequest : ModelDelegationRequest where
  prompt := "Compare the two proofs of the ladder lemma in our archive !!"
  taskType := "research"
  correlationId := 7

theorem delta_callable_narrowMiddle :
    ∃ decision, delta (sampleEnv narrowMiddleConfig) sixtyCharRequest (some "cheap_cloud") =
        .ok decision ∧
      Callable (sampleEnv narrowMiddleConfig) sixtyCharRequest (some "cheap_cloud") [] decision :=
  ⟨_, rfl, delta_callable (show delta (sampleEnv narrowMiddleConfig) sixtyCharRequest
    (some "cheap_cloud") = .ok _ from rfl)⟩

/-- The probe names the narrow tier, the reducer passes it over. -/
theorem nextEligibleTier_strands :
    ¬ ∀ (env : RoutingEnv) (request : ModelDelegationRequest) (current next : String)
        (excluded : List String),
      nextEligibleTier env current excluded (some request.taskType) = .ok (some next) →
      ∃ decision, delta env request (some next) = .ok decision ∧ decision.tierName = next := by
  intro lands
  have probe : nextEligibleTier (sampleEnv narrowMiddleConfig) "local" []
      (some sixtyCharRequest.taskType) = .ok (some "cheap_cloud") := by rfl
  obtain ⟨decision, decided, named⟩ := lands _ _ _ _ _ probe
  have landed : ((delta (sampleEnv narrowMiddleConfig) sixtyCharRequest
      (some "cheap_cloud")).toOption.map (·.tierName)) = some "claude" := by rfl
  rw [decided] at landed
  simp [Except.toOption, named] at landed

/-- The condition holds of the last tier, which holds the prompt. -/
theorem nextEligibleTier_lands_claude :
    (∃ decision, delta (sampleEnv narrowMiddleConfig) sixtyCharRequest (some "claude") =
        .ok decision ∧ decision.tierName = "claude") ↔
      FitsLadder (sampleEnv narrowMiddleConfig) sixtyCharRequest "claude" :=
  nextEligibleTier_lands_iff
    (show nextEligibleTier (sampleEnv narrowMiddleConfig) "cheap_cloud" []
      (some sixtyCharRequest.taskType) = .ok (some "claude") from rfl)

/-!
# Sibling backends and the reducer

Before it leaves a tier, the orchestrator asks `siblingBackendAvailableInTier` for an
untried backend of the tier, and routes again with the failed backends excluded. The
probe selects with an empty prompt, `delta` with the real estimate.
-/

/-! ## The preferred sibling -/

/-- `model` declares the task, holds the prompt, is usable and not excluded. -/
def serves (env : RoutingEnv) (backends : BifrostBackends) (taskType : String)
    (estimatedTokens : ℕ) (excluded : List String) (model : ModelTierModel) : Bool :=
  model.useFor.contains taskType && servesWithin env backends estimatedTokens excluded model

/-- The sibling that a tier prefers for a prompt of `estimatedTokens`: it serves, and among
those that serve the override comes first, then the fast path, then the declaration order. -/
def PreferredSibling (env : RoutingEnv) (backends : BifrostBackends) (taskType : String)
    (estimatedTokens : ℕ) (contractModelRef : Option String) (excluded : List String)
    (models : List ModelTierModel) (model : ModelTierModel) : Prop :=
  Search.Preferred (serves env backends taskType estimatedTokens excluded · = true)
    (Search.cascadeRank (fun model => decide (contractModelRef = some model.id))
      (onFastPath estimatedTokens)) models model

section

variable {env : RoutingEnv} {models : List ModelTierModel} {taskType : String}
  {estimatedTokens : ℕ} {backends : BifrostBackends} {contractModelRef : Option String}
  {excluded : List String} {model : ModelTierModel}

section

variable (excluding : excluded ≠ [])

include excluding

theorem selectByContractRef_excluding :
    selectByContractRef env models taskType estimatedTokens backends contractModelRef excluded =
      models.find? fun model => decide (contractModelRef = some model.id) &&
        serves env backends taskType estimatedTokens excluded model := by
  unfold selectByContractRef
  cases contractModelRef with
  | none =>
    rw [Option.bind_none]
    symm
    rw [List.find?_eq_none]
    simp
  | some ref =>
    have excludes : excluded.isEmpty = false := by simpa using excluding
    have search : (idMatches env backends estimatedTokens excluded ref models).find?
          (fun model => model.useFor.contains taskType) =
        models.find? fun model => decide (some ref = some model.id) &&
          serves env backends taskType estimatedTokens excluded model := by
      rw [idMatches, List.find?_filter]
      refine congrArg (List.find? · models) (funext fun model => ?_)
      rw [serves, Bool.eq_iff_iff]
      simp only [Bool.and_eq_true, beq_iff_eq, decide_eq_true_eq, Option.some.injEq]
      tauto
    rw [Option.bind_some]
    dsimp only
    rw [search, excludes]
    cases models.find? _ <;> rfl

theorem selectModelForTask_excluding :
    selectModelForTask env models taskType estimatedTokens backends contractModelRef excluded =
      Search.cascade (fun model => decide (contractModelRef = some model.id))
        (onFastPath estimatedTokens) (serves env backends taskType estimatedTokens excluded)
        models := by
  have fast : selectFastPath env models taskType estimatedTokens backends excluded =
      models.find? fun model => onFastPath estimatedTokens model &&
        serves env backends taskType estimatedTokens excluded model := by
    unfold selectFastPath
    refine congrArg (List.find? · models) (funext fun model => ?_)
    rw [serves, ← Bool.and_assoc, Bool.and_comm (onFastPath estimatedTokens model)]
  rw [selectModelForTask, selectByContractRef_excluding excluding, fast]
  rfl

theorem selectModelForTask_preferred :
    selectModelForTask env models taskType estimatedTokens backends contractModelRef excluded =
        some model ↔
      PreferredSibling env backends taskType estimatedTokens contractModelRef excluded models
        model := by
  rw [selectModelForTask_excluding excluding]
  exact Search.cascade_eq_some

theorem selectModelForTask_serves :
    (selectModelForTask env models taskType estimatedTokens backends contractModelRef
        excluded).isSome ↔
      ∃ model ∈ models, serves env backends taskType estimatedTokens excluded model = true := by
  constructor
  · intro picked
    obtain ⟨model, selected⟩ := Option.isSome_iff_exists.mp picked
    have preferred := (selectModelForTask_preferred excluding).mp selected
    exact ⟨model, preferred.mem, preferred.held⟩
  · rintro ⟨model, member, held⟩
    rw [selectModelForTask_excluding excluding]
    exact Search.cascade_isSome member held

end

end

/-! ## When the retry stays -/

def ServesPrompt (env : RoutingEnv) (request : ModelDelegationRequest)
    (backends : BifrostBackends) (excluded : List String) (tier : ModelRoutingTier) : Prop :=
  tierAllowedByContract env tier (taskClassEntry env.taskClassContract request.taskType) =
      .ok true ∧
    ∃ model ∈ tier.models, serves env backends request.taskType
      (estimatePromptTokens request.prompt) excluded model = true

/-- From the first tier named `name` of the task's order on, the first tier that serves
the prompt carries the name, and prefers the backend `ref` for it. -/
def StaysOnSibling (env : RoutingEnv) (request : ModelDelegationRequest) (name : String)
    (excluded : List String) (ref : String) : Prop :=
  ∃ backends tiers, env.bifrostEndpoints = .ok backends ∧
    tierOrderFromContract env.config
      (taskClassEntry env.taskClassContract request.taskType) = .ok tiers ∧
    ∃ before tier after, fromTier (some name) tiers = before ++ tier :: after ∧
      tier.name = name ∧
      tierAllowedByContract env tier (taskClassEntry env.taskClassContract request.taskType) =
        .ok true ∧
      (∃ model, model.backendRef = ref ∧
        PreferredSibling env backends request.taskType (estimatePromptTokens request.prompt)
          (getContractModelRef env.taskClassContract request.taskType) excluded tier.models
          model) ∧
      ∀ other ∈ before, ¬ServesPrompt env request backends excluded other

section

variable {env : RoutingEnv} {request : ModelDelegationRequest} {backends : BifrostBackends}
  {tiers : List ModelRoutingTier} {tier : ModelRoutingTier} {name ref : String}
  {excluded : List String}

theorem takes_iff_servesPrompt (excluding : excluded ≠ []) :
    Takes env (routeContext env request backends minTierName excluded) tier ↔
      ServesPrompt env request backends excluded tier :=
  and_congr_right fun _ => selectModelForTask_serves excluding

theorem route_selects {ctx : RouteContext} {tiers : List ModelRoutingTier} {name ref : String} :
    (∃ decision, route env ctx tiers [] = .ok (some decision) ∧ decision.tierName = name ∧
        decision.selectedBackendRef = ref) ↔
      ∃ before tier after, fromTier ctx.minTierName tiers = before ++ tier :: after ∧
        tier.name = name ∧ tierAllowedByContract env tier ctx.entry = .ok true ∧
        (∃ model, model.backendRef = ref ∧ selectedIn env ctx tier = some model) ∧
        ∀ other ∈ before, ¬Takes env ctx other := by
  unfold route
  constructor
  · rintro ⟨decision, routed, rfl, rfl⟩
    obtain ⟨before, tier, after, split, skipped, hit⟩ := Search.findSomeM?_eq_ok_some.mp routed
    obtain ⟨-, allowed, model, backend, picked, -, rfl⟩ := routeTier_eq_some.mp hit
    refine ⟨before, tier, after, split, rfl, allowed, ⟨model, rfl, picked⟩, ?_⟩
    intro other member takes
    obtain ⟨_, landed, _⟩ := routeTier_of_takes takes (List.not_mem_nil : other.name ∉ [])
    rw [skipped other member] at landed
    cases landed
  · rintro ⟨before, tier, after, split, rfl, allowed, ⟨model, rfl, picked⟩, refuse⟩
    obtain ⟨backend, found⟩ := selectedIn_lookup picked
    have hit : routeTier env ctx [] tier = .ok (some (buildDecision env ctx [] tier model backend)) :=
      routeTier_eq_some.mpr ⟨List.not_mem_nil, allowed, model, backend, picked, found, rfl⟩
    have skipped : ∀ other ∈ before, routeTier env ctx [] other = .ok none :=
      fun other member => routeTier_skips allowed (refuse other member)
    exact ⟨_, Search.findSomeM?_eq_ok_some.mpr ⟨before, tier, after, split, skipped, hit⟩, rfl, rfl⟩

theorem delta_stays_iff (excluding : excluded ≠ []) :
    (∃ decision, delta env request (some name) none excluded = .ok decision ∧
        decision.tierName = name ∧ decision.selectedBackendRef = ref) ↔
      StaysOnSibling env request name excluded ref := by
  constructor
  · rintro ⟨decision, decided, named, selects⟩
    obtain ⟨backends, tiers, loaded, ordered, walked⟩ := delta_eq_ok.mp decided
    rw [Option.getD_none, withRoiFallback_none] at walked
    obtain ⟨before, tier, after, split, tierNamed, allowed, ⟨model, backend, picked⟩, refuse⟩ :=
      route_selects.mp ⟨decision, walked, named, selects⟩
    refine ⟨backends, tiers, loaded, ordered, before, tier, after, split, tierNamed, allowed,
      ⟨model, backend, (selectModelForTask_preferred excluding).mp picked⟩, ?_⟩
    intro other member prompt
    exact refuse other member ((takes_iff_servesPrompt excluding).mpr prompt)
  · rintro ⟨backends, tiers, loaded, ordered, before, tier, after, split, tierNamed, allowed,
      ⟨model, backend, preferred⟩, refuse⟩
    have picked : selectedIn env (routeContext env request backends (some name) excluded) tier =
        some model := (selectModelForTask_preferred excluding).mpr preferred
    have refuses : ∀ other ∈ before,
        ¬Takes env (routeContext env request backends (some name) excluded) other :=
      fun other member takes => refuse other member ((takes_iff_servesPrompt excluding).mp takes)
    obtain ⟨decision, walked, named, selects⟩ := route_selects.mpr
      ⟨before, tier, after, split, tierNamed, allowed, ⟨model, backend, picked⟩, refuses⟩
    refine ⟨decision, delta_eq_ok.mpr ⟨backends, tiers, loaded, ordered, ?_⟩, named, selects⟩
    rw [Option.getD_none, withRoiFallback_none]
    exact walked

end

/-- With some backend excluded, a re-route stays on the sibling that the probe named
exactly when the tier prefers it for the real prompt. -/
theorem siblingBackend_stays_iff {env : RoutingEnv} {request : ModelDelegationRequest}
    {tierName ref : String} {excluded : List String} (excluding : excluded ≠ [])
    (_probed : siblingBackendAvailableInTier env tierName request.taskType excluded =
      .ok (some ref)) :
    (∃ decision, delta env request (some tierName) none excluded = .ok decision ∧
        decision.tierName = tierName ∧ decision.selectedBackendRef = ref) ↔
      StaysOnSibling env request tierName excluded ref :=
  delta_stays_iff excluding

/-! ## A retry that leaves the tier -/

def narrowSiblingConfig : ModelDelegationConfig where
  tiers :=
    [{ name := "local",
       models := [{ id := "qwen", backendRef := "local-reasoner", maxContextTokens := 100,
                    useFor := ["research"] },
                  { id := "phi", backendRef := "local-small", maxContextTokens := 10,
                    useFor := ["research"] }] },
     { name := "claude",
       models := [{ id := "opus", backendRef := "cloud-claude", maxContextTokens := 100,
                    useFor := ["research"] }] }]

/-- The probe names the narrow sibling, the reducer leaves for the paid tier. -/
theorem siblingBackend_leaves :
    ¬ ∀ (env : RoutingEnv) (request : ModelDelegationRequest) (tierName ref : String)
        (excluded : List String), excluded ≠ [] →
      siblingBackendAvailableInTier env tierName request.taskType excluded = .ok (some ref) →
      ∃ decision, delta env request (some tierName) none excluded = .ok decision ∧
        decision.tierName = tierName ∧ decision.selectedBackendRef = ref := by
  intro stays
  have probe : siblingBackendAvailableInTier (sampleEnv narrowSiblingConfig) "local"
      sixtyCharRequest.taskType ["local-reasoner"] = .ok (some "local-small") := rfl
  obtain ⟨decision, decided, named, -⟩ := stays _ _ _ _ _ (by simp) probe
  have landed : ((delta (sampleEnv narrowSiblingConfig) sixtyCharRequest (some "local") none
      ["local-reasoner"]).toOption.map (·.tierName)) = some "claude" := rfl
  rw [decided] at landed
  simp [Except.toOption, named] at landed

/-- With the narrow sibling excluded the wide one takes the prompt. -/
theorem siblingBackend_stays_wide :
    (∃ decision, delta (sampleEnv narrowSiblingConfig) sixtyCharRequest (some "local") none
        ["local-small"] = .ok decision ∧ decision.tierName = "local" ∧
        decision.selectedBackendRef = "local-reasoner") ↔
      StaysOnSibling (sampleEnv narrowSiblingConfig) sixtyCharRequest "local" ["local-small"]
        "local-reasoner" :=
  siblingBackend_stays_iff (by simp)
    (show siblingBackendAvailableInTier (sampleEnv narrowSiblingConfig) "local"
      sixtyCharRequest.taskType ["local-small"] = .ok (some "local-reasoner") from rfl)

end OmniMarket
