import Mathlib.Data.List.Sort
import OmniMarket.Routing.Model
import OmniMarket.Lib.Search

/-!
# Model selection inside a tier

`selectModelForTask` picks the model of one tier in three passes: the
contract-declared override, the fast path, then any model that declares the
task.
-/

namespace OmniMarket

section

variable (env : RoutingEnv)

/-- The backend of `model`, when it is declared and its secret resolves. -/
def usableBackend (backends : BifrostBackends) (model : ModelTierModel) :
    Option BifrostBackendRef :=
  (backends.lookup model.backendRef).filter
    (fun backend => env.apiKeyRefAvailable backend.apiKeyRef backend.apiKeyEnv)

def servesWithin (backends : BifrostBackends) (estimatedTokens : ℕ) (excluded : List String)
    (model : ModelTierModel) : Bool :=
  !excluded.contains model.backendRef &&
  (usableBackend env backends model).isSome &&
  decide ((estimatedTokens : ℤ) ≤ model.maxContextTokens)

def onFastPath (estimatedTokens : ℕ) (model : ModelTierModel) : Bool :=
  match model.fastPathThresholdTokens with
  | none => false
  | some threshold => decide ((estimatedTokens : ℤ) ≤ threshold)

def idMatches (backends : BifrostBackends) (estimatedTokens : ℕ) (excluded : List String)
    (ref : String) (models : List ModelTierModel) :
    List ModelTierModel :=
  models.filter fun model =>
    model.id == ref && servesWithin env backends estimatedTokens excluded model

section

variable (models : List ModelTierModel)

/-- First pass: the override. An id match that does not declare the task is a
pin, honoured only while nothing is excluded. -/
def selectByContractRef (taskType : String) (estimatedTokens : ℕ) (backends : BifrostBackends)
    (contractModelRef : Option String) (excluded : List String) :
    Option ModelTierModel :=
  contractModelRef.bind fun ref =>
    let found := idMatches env backends estimatedTokens excluded ref models
    match found.find? (fun model => model.useFor.contains taskType) with
    | some model => some model
    | none => if excluded.isEmpty then found.head? else none

/-- Second pass: a declaring model whose fast-path threshold covers the prompt. -/
def selectFastPath (taskType : String) (estimatedTokens : ℕ) (backends : BifrostBackends)
    (excluded : List String) :
    Option ModelTierModel :=
  models.find? fun model =>
    model.useFor.contains taskType && onFastPath estimatedTokens model &&
    servesWithin env backends estimatedTokens excluded model

def selectDeclaring (taskType : String) (estimatedTokens : ℕ) (backends : BifrostBackends)
    (excluded : List String) :
    Option ModelTierModel :=
  models.find? fun model =>
    model.useFor.contains taskType && servesWithin env backends estimatedTokens excluded model

def selectModelForTask (taskType : String) (estimatedTokens : ℕ) (backends : BifrostBackends)
    (contractModelRef : Option String) (excluded : List String) :
    Option ModelTierModel :=
  selectByContractRef env models taskType estimatedTokens backends contractModelRef excluded
  <|> selectFastPath env models taskType estimatedTokens backends excluded
  <|> selectDeclaring env models taskType estimatedTokens backends excluded

end

end

/-! ## What a selection guarantees -/

section

variable {env : RoutingEnv} {models : List ModelTierModel} {taskType : String}
  {estimatedTokens : ℕ} {backends : BifrostBackends} {contractModelRef : Option String}
  {excluded : List String} {model : ModelTierModel}

theorem mem_idMatches {ref : String} :
    model ∈ idMatches env backends estimatedTokens excluded ref models ↔
      model ∈ models ∧ model.id = ref ∧
        servesWithin env backends estimatedTokens excluded model = true := by
  simp [idMatches]

theorem selectByContractRef_sound
    (selected : selectByContractRef env models taskType estimatedTokens backends
      contractModelRef excluded = some model) :
    model ∈ models ∧ servesWithin env backends estimatedTokens excluded model = true ∧
      (taskType ∈ model.useFor ∨ (excluded = [] ∧ contractModelRef = some model.id)) := by
  unfold selectByContractRef at selected
  cases contractModelRef with
  | none => simp at selected
  | some ref =>
    simp only [Option.bind_some] at selected
    split at selected
    · rename_i declaring found
      cases selected
      have member := mem_idMatches.mp (List.mem_of_find?_eq_some found)
      have declares := List.find?_some found
      exact ⟨member.1, member.2.2, Or.inl (by simpa using declares)⟩
    · split at selected
      · rename_i nothing
        have member := mem_idMatches.mp (List.mem_of_mem_head? selected)
        refine ⟨member.1, member.2.2, Or.inr ⟨by simpa using nothing, ?_⟩⟩
        rw [member.2.1]
      · cases selected

theorem selectFastPath_sound
    (selected : selectFastPath env models taskType estimatedTokens backends excluded = some model) :
    model ∈ models ∧ servesWithin env backends estimatedTokens excluded model = true ∧
      taskType ∈ model.useFor := by
  have holds := List.find?_some selected
  simp only [Bool.and_eq_true, List.contains_iff_mem] at holds
  exact ⟨List.mem_of_find?_eq_some selected, holds.2, holds.1.1⟩

theorem selectDeclaring_sound
    (selected : selectDeclaring env models taskType estimatedTokens backends excluded =
      some model) :
    model ∈ models ∧ servesWithin env backends estimatedTokens excluded model = true ∧
      taskType ∈ model.useFor := by
  have holds := List.find?_some selected
  simp only [Bool.and_eq_true, List.contains_iff_mem] at holds
  exact ⟨List.mem_of_find?_eq_some selected, holds.2, holds.1⟩

theorem selectModelForTask_sound
    (selected : selectModelForTask env models taskType estimatedTokens backends
      contractModelRef excluded = some model) :
    model ∈ models ∧ servesWithin env backends estimatedTokens excluded model = true ∧
      (taskType ∈ model.useFor ∨ (excluded = [] ∧ contractModelRef = some model.id)) := by
  unfold selectModelForTask at selected
  cases byRef : selectByContractRef env models taskType estimatedTokens backends
      contractModelRef excluded with
  | some other =>
    rw [byRef] at selected
    cases selected
    exact selectByContractRef_sound byRef
  | none =>
    rw [byRef] at selected
    cases fast : selectFastPath env models taskType estimatedTokens backends excluded with
    | some other =>
      rw [fast] at selected
      cases selected
      obtain ⟨member, serves, declares⟩ := selectFastPath_sound fast
      exact ⟨member, serves, Or.inl declares⟩
    | none =>
      rw [fast] at selected
      obtain ⟨member, serves, declares⟩ := selectDeclaring_sound selected
      exact ⟨member, serves, Or.inl declares⟩

/-- A model that `selectModelForTask` may pick when nothing is excluded: it has a
usable backend, holds the prompt, and declares the task or is the override. -/
def Candidate (env : RoutingEnv) (backends : BifrostBackends) (taskType : String)
    (estimatedTokens : ℕ) (contractModelRef : Option String) (model : ModelTierModel) : Prop :=
  servesWithin env backends estimatedTokens [] model = true ∧
    (taskType ∈ model.useFor ∨ contractModelRef = some model.id)

theorem selectModelForTask_isSome :
    (selectModelForTask env models taskType estimatedTokens backends contractModelRef []).isSome ↔
      ∃ model ∈ models, Candidate env backends taskType estimatedTokens contractModelRef model := by
  constructor
  · intro picked
    obtain ⟨model, selected⟩ := Option.isSome_iff_exists.mp picked
    obtain ⟨member, serves, reason⟩ := selectModelForTask_sound selected
    exact ⟨model, member, serves, reason.imp_right And.right⟩
  · rintro ⟨model, member, serves, reason⟩
    by_contra nothing
    have none_selected : selectModelForTask env models taskType estimatedTokens backends
        contractModelRef [] = none := by simpa using nothing
    simp only [selectModelForTask, Option.orElse_eq_orElse, Option.orElse_eq_or,
      Option.or_eq_none_iff] at none_selected
    obtain ⟨byRef, _, declaring⟩ := none_selected
    cases reason with
    | inl declares =>
      have refused := List.find?_eq_none.mp declaring model member
      simp [declares, serves] at refused
    | inr pinned =>
      have matched := mem_idMatches.mpr ⟨member, rfl, serves⟩
      simp only [selectByContractRef, pinned, Option.bind_some, List.isEmpty_nil, if_true] at byRef
      split at byRef
      · cases byRef
      · rw [List.head?_eq_none_iff] at byRef
        rw [byRef] at matched
        cases matched

end

/-!
# The routing reducer

`delta` walks the tiers of a task class and builds the routing decision;
`nextEligibleTier` and `firstEligibleTier` walk the same ladder to answer where
an escalation may go. The lookups by tier or backend name are here as well.
-/

/-! ## Decision texts -/

def SYSTEM_PROMPTS : List (String × String) :=
  [("test",
     "You are a test generation assistant. Write comprehensive pytest unit tests for the " ++
     "provided code. Include edge cases, error paths, and clear assertions. Use " ++
     "@pytest.mark.unit decorator on all tests."),
   ("document",
     "You are a documentation assistant. Write clear, comprehensive docstrings and " ++
     "documentation for the provided code. Follow Google-style docstrings with Args, " ++
     "Returns, and Raises sections."),
   ("research",
     "You are a code research assistant. Analyze the provided code and answer questions " ++
     "about its behavior, architecture, and design decisions. Be thorough and cite " ++
     "specific lines when relevant."),
   ("code_generation",
     "You are a code generation assistant. Implement the requested functionality " ++
     "following existing patterns, conventions, and architecture in the codebase."),
   ("code_review",
     "You are a code review assistant. Identify bugs, style violations, and architectural " ++
     "issues in the provided code. Be specific and actionable."),
   ("refactor",
     "You are a refactoring assistant. Improve the structure, readability, and " ++
     "maintainability of the provided code without changing its behavior."),
   ("reasoning",
     "You are a reasoning assistant. Think through the problem step by step and provide a " ++
     "well-structured analysis."),
   ("planning",
     "You are a planning assistant. Break down the requested work into clear, actionable " ++
     "steps with explicit acceptance criteria."),
   ("review",
     "You are a review assistant. Evaluate the provided artifacts against the stated " ++
     "requirements and report any gaps or issues."),
   ("summarization",
     "You are a summarization assistant. Produce a concise, accurate summary of the " ++
     "provided content."),
   ("simple_tasks", "You are a helpful assistant. Complete the requested task accurately."),
   ("escalation",
     "You are an expert assistant handling a complex task that requires deep reasoning " ++
     "and careful consideration. Approach this methodically."),
   ("complex_reasoning",
     "You are an expert reasoning assistant. Analyze the problem deeply, consider edge " ++
     "cases, and provide a comprehensive solution."),
   ("agent_orchestration",
     "You are an orchestration assistant. Coordinate the required sub-tasks and ensure " ++
     "each is completed correctly before proceeding.")]

def systemPromptFor (taskType : String) : String :=
  (SYSTEM_PROMPTS.lookup taskType).getD
    s!"You are a helpful assistant completing a {taskType} task."

/-- `_estimate_prompt_tokens`: four characters a token. -/
def estimatePromptTokens (prompt : String) : ℕ := prompt.length / 4

def costTierFor (tierName : String) : String :=
  ([("local", "low"), ("cheap_cloud", "medium"), ("claude", "high")].lookup tierName).getD tierName

/-- `sorted(items)` of a set. -/
def sortedSet (items : List String) : List String :=
  items.eraseDups.insertionSort (· ≤ ·)

/-- The parameters of one `delta` call that every tier of the walk shares. -/
structure RouteContext where
  request : ModelDelegationRequest
  entry : Option PyDict
  backends : BifrostBackends
  contractModelRef : Option String
  minTierName : Option String
  excludedBackendRefs : List String

section

variable (env : RoutingEnv)

def routeContext (request : ModelDelegationRequest) (backends : BifrostBackends)
    (minTierName : Option String) (excludedBackendRefs : List String) : RouteContext where
  request := request
  entry := taskClassEntry env.taskClassContract request.taskType
  backends := backends
  contractModelRef := getContractModelRef env.taskClassContract request.taskType
  minTierName := minTierName
  excludedBackendRefs := excludedBackendRefs

section

variable (ctx : RouteContext)

def RouteContext.estimatedTokens : ℕ :=
  estimatePromptTokens ctx.request.prompt

def decisionRationale (roiSkip : List String) (tier : ModelRoutingTier)
    (selected : ModelTierModel) : String :=
  let taskType := ctx.request.taskType
  let estimated := ctx.estimatedTokens
  let fastPath := match selected.fastPathThresholdTokens with
    | none => ""
    | some threshold =>
      if threshold != 0 && decide ((estimated : ℤ) ≤ threshold) then
        s!" Fast-path: tokens within {threshold} threshold."
      else ""
  let override :=
    if ctx.contractModelRef = some selected.id then
      s!" Contract-override: model='" ++ selected.id ++ "'."
    else ""
  let policy := match ctx.entry with
    | none => ""
    | some entry =>
      let value := (entry.get "cloud_routing_policy").asStr?.getD "allowed"
      s!" Contract-driven: task_class='{taskType}' policy='{value}'."
  let escalated := match ctx.minTierName with
    | none => ""
    | some minTier => s!" Escalated: min_tier_name='{minTier}'."
  let demoted :=
    if roiSkip.isEmpty then ""
    else " ROI-demoted past " ++ PyText.reprList env.unicode (sortedSet roiSkip) ++
      " (captured-outcome read-back, OMN-14001)."
  s!"Task '{taskType}' (~{estimated} tokens) routed to " ++ selected.id ++
    " via tier '" ++ tier.name ++ "' (max_context=" ++ toString selected.maxContextTokens ++ ")." ++
    fastPath ++ override ++ policy ++ escalated ++ demoted

/-! ## The walk of `delta` -/

def buildDecision (roiSkip : List String) (tier : ModelRoutingTier) (selected : ModelTierModel)
    (backend : BifrostBackendRef) :
    ModelRoutingDecision where
  correlationId := ctx.request.correlationId
  taskType := ctx.request.taskType
  -- Local endpoints serve the model id of the tier, others the bifrost name.
  selectedModel := if LOCAL_TIERS.contains tier.name then selected.id else backend.modelName
  selectedBackendId := env.backendIdForModel selected.id
  endpointUrl := backend.endpointUrl
  apiKeyRef := backend.apiKeyRef
  extraHeaders := backend.extraHeaders
  costTier := costTierFor tier.name
  maxContextTokens := selected.maxContextTokens
  timeoutMs := backend.timeoutMs
  maxTokens := backend.maxTokens
  systemPrompt := systemPromptFor ctx.request.taskType
  rationale := decisionRationale env ctx roiSkip tier selected
  dodDeterministic := (definitionOfDoneChecks ctx.entry).1
  dodHeuristic := (definitionOfDoneChecks ctx.entry).2
  tierName := tier.name
  selectedBackendRef := selected.backendRef
  timeoutMs_bounds := backend.timeoutMs_bounds
  maxTokens_pos := backend.maxTokens_pos

/-- The loop body of `_route` at one tier. -/
def routeTier (roiSkip : List String) (tier : ModelRoutingTier) :
    Except RoutingError (Option ModelRoutingDecision) :=
  if roiSkip.contains tier.name then .ok none
  else
    match tierAllowedByContract env tier ctx.entry with
    | .error raised => .error raised
    | .ok false => .ok none
    | .ok true =>
      match selectModelForTask env tier.models ctx.request.taskType ctx.estimatedTokens
          ctx.backends ctx.contractModelRef ctx.excludedBackendRefs with
      | none => .ok none
      | some selected =>
        match ctx.backends.lookup selected.backendRef with
        | none => .ok none
        | some backend => .ok (some (buildDecision env ctx roiSkip tier selected backend))

/-- Tiers from the first one named `minTierName`; all of them without a name. -/
def fromTier (minTierName : Option String) (tiers : List ModelRoutingTier) :
    List ModelRoutingTier :=
  match minTierName with
  | none => tiers
  | some name => tiers.dropWhile (fun tier => tier.name != name)

def route (tiers : List ModelRoutingTier) (roiSkip : List String) :
    Except RoutingError (Option ModelRoutingDecision) :=
  (fromTier ctx.minTierName tiers).findSomeM? (routeTier env ctx roiSkip)

end

/-- A walk under ROI suppression, with the fail-safe walk without it. -/
def withRoiFallback {α : Type} (suppressed : List String)
    (walk : List String → Except RoutingError (Option α)) : Except RoutingError (Option α) :=
  match walk suppressed with
  | .error raised => .error raised
  | .ok (some found) => .ok (some found)
  | .ok none => if suppressed.isEmpty then .ok none else walk []

/-- The routing reducer. `roiOverlay` lists the ROI-suppressed tiers. -/
def delta (request : ModelDelegationRequest) (minTierName : Option String := none)
    (roiOverlay : Option (List String) := none) (excludedBackendRefs : List String := []) :
    Except RoutingError ModelRoutingDecision := do
  let backends ← env.bifrostEndpoints
  let ctx := routeContext env request backends minTierName excludedBackendRefs
  let tiers ← tierOrderFromContract env.config ctx.entry
  let decision ← withRoiFallback (roiOverlay.getD []) (route env ctx tiers)
  match decision with
  | some decision => .ok decision
  | none => .error (.noConfiguredEndpoint request.correlationId request.taskType)

end

end OmniMarket
