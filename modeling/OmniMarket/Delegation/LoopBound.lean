import OmniMarket.Delegation.Terminal
import Mathlib.Data.Finset.Lattice.Fold

/-!
# The delegation loop is bounded

A failed attempt may try a sibling backend, re-run a free tier or escalate, and each
of the three resets counters of the others. What is left of a workflow is therefore
weighed lexicographically: the tiers above, then the retries of the tier, then its
backends that the current exclusions leave.
-/

namespace OmniMarket.Delegation

variable {env : WorkflowEnv} {nowNs : ℤ} {w w' : DelegationWorkflowState}
  {event : Event} {outputs : Outputs} {request : ModelDelegationRequest}
variable {tier : String} {tried : List String}
  {tiers : List ModelRoutingTier} {failedBackendRef : String}
  {latest : Option ModelRoutingIntent} {intent : ModelRoutingIntent}
  {decision : ModelRoutingDecision} {costUsd : ℚ} {promptTokens completionTokens : ℕ}
  {slot slot' : Option DelegationWorkflowState}

/-! ## The bound -/

section

variable (config : ModelDelegationConfig)

/-- The largest `max_retries` of the configuration. -/
def maxRetryBudget : ℕ :=
  config.tiers.toFinset.sup fun tier => tier.maxRetries.toNat

def maxTierBackends : ℕ :=
  config.tiers.toFinset.sup fun tier => tier.models.length

/-- One tier allows its backends once for the first attempt and once for each retry. -/
def inferencesPerTier : ℕ :=
  (maxRetryBudget config + 1) * (maxTierBackends config + 1)

def loopBound : ℕ :=
  config.tiers.length * inferencesPerTier config

end

/-! ## What is left -/

section

variable (env : WorkflowEnv)

section

variable (request : ModelDelegationRequest)

def tierOrderOf :
    List ModelRoutingTier :=
  (tierOrderFromContract env.routing.config
    (taskClassEntry env.routing.taskClassContract request.taskType)).toOption.getD []

def tiersAbove (tier : String) : ℕ :=
  (afterTier tier (tierOrderOf env request)).length

def retryBudget (tier : String) : ℕ :=
  ((findTier env.routing tier).map fun declared => declared.maxRetries.toNat).getD 0

/-- The retries of `tier` that `w` has not spent; those spent on another tier do not count. -/
def retriesLeft (w : DelegationWorkflowState) (tier : String) : ℕ :=
  retryBudget env tier - if w.localRetryTier = some tier then w.localRetryCount else 0

def tierBackends (tier : String) : Finset String :=
  ((findTier env.routing tier).map fun declared =>
    (declared.models.map (·.backendRef)).toFinset).getD ∅

def untriedBackends (tier : String) (tried : List String) : ℕ :=
  (tierBackends env tier \ tried.toFinset).card

/-- The inferences left to a workflow on `tier` that may not try the backends of `tried`
again before it retries or escalates. -/
def tierAllowance (w : DelegationWorkflowState) (tier : String) (tried : List String) : ℕ :=
  inferencesPerTier env.routing.config * tiersAbove env request tier +
    (maxTierBackends env.routing.config + 1) * retriesLeft env w tier +
    untriedBackends env tier tried

/-- The allowance of a workflow that waits for the answer to `intent`. -/
def intentAllowance (w : DelegationWorkflowState) (intent : ModelRoutingIntent) : ℕ :=
  match intent.minTierName with
  | none => inferencesPerTier env.routing.config * (tierOrderOf env request).length
  | some tier => tierAllowance env request w tier intent.excludedBackendRefs

end

/-- The allowance of a workflow whose inference of `decision` is under way. -/
def attemptAllowance (w : DelegationWorkflowState) (decision : ModelRoutingDecision) : ℕ :=
  match w.request, w.currentTierName with
  | some request, some tier =>
    tierAllowance env request w tier (failedBackendsOf w tier decision.selectedBackendRef)
  | _, _ => 0

abbrev FollowedSlot := Option DelegationWorkflowState × Option ModelRoutingIntent

/-- The potential of a workflow: at most this many inference intents are to come. -/
def workflowAllowance (w : DelegationWorkflowState) (latest : Option ModelRoutingIntent) : ℕ :=
  match w.state with
  | .received => (latest.map fun intent => intentAllowance env intent.payload w intent).getD 0
  | .routed =>
    match w.routingDecision, latest with
    | none, some intent => intentAllowance env intent.payload w intent
    | none, none => 0
    | some decision, _ => attemptAllowance env w decision
  | .inferenceCompleted => (w.routingDecision.map (attemptAllowance env w)).getD 0
  | _ => 0

def inferencesLeft : FollowedSlot → ℕ
  | (none, _) => loopBound env.routing.config
  | (some w, latest) => workflowAllowance env w latest

end

/-! ## Arithmetic of the allowance -/

theorem findTier_mem {declared : ModelRoutingTier}
    (found : findTier env.routing tier = some declared) :
    declared ∈ env.routing.config.tiers.toFinset :=
  List.mem_toFinset.mpr (List.mem_of_find?_eq_some found)

theorem retryBudget_le : retryBudget env tier ≤ maxRetryBudget env.routing.config := by
  unfold retryBudget maxRetryBudget
  cases found : findTier env.routing tier with
  | none => exact Nat.zero_le _
  | some declared =>
    exact Finset.le_sup (f := fun tier : ModelRoutingTier => tier.maxRetries.toNat)
      (findTier_mem found)

theorem tierBackends_card_le :
    (tierBackends env tier).card ≤ maxTierBackends env.routing.config := by
  unfold tierBackends maxTierBackends
  cases found : findTier env.routing tier with
  | none => exact Nat.zero_le _
  | some declared =>
    calc ((declared.models.map (·.backendRef)).toFinset).card
      _ ≤ (declared.models.map (·.backendRef)).length := List.toFinset_card_le _
      _ = declared.models.length := List.length_map ..
      _ ≤ _ := Finset.le_sup (f := fun tier : ModelRoutingTier => tier.models.length)
        (findTier_mem found)

theorem tierAllowance_lt (tried : List String) : tierAllowance env request w tier tried <
      inferencesPerTier env.routing.config * (tiersAbove env request tier + 1) := by
  have retries : retriesLeft env w tier ≤ maxRetryBudget env.routing.config :=
    (Nat.sub_le ..).trans retryBudget_le
  have untried : untriedBackends env tier tried ≤ maxTierBackends env.routing.config :=
    (Finset.card_le_card Finset.sdiff_subset).trans tierBackends_card_le
  have onTier := Nat.mul_le_mul_left (maxTierBackends env.routing.config + 1) retries
  unfold tierAllowance
  rw [Nat.mul_succ]
  have perTier : inferencesPerTier env.routing.config =
      (maxTierBackends env.routing.config + 1) * maxRetryBudget env.routing.config +
        (maxTierBackends env.routing.config + 1) := by
    rw [inferencesPerTier, Nat.mul_comm, Nat.mul_succ]
  omega

theorem untriedBackends_lt {ref : String} {tried' : List String}
    (offered : ref ∈ tierBackends env tier) (fresh : ref ∉ tried) (kept : tried ⊆ tried')
    (used : ref ∈ tried') : untriedBackends env tier tried' < untriedBackends env tier tried := by
  apply Finset.card_lt_card
  refine Finset.ssubset_iff_subset_ne.mpr ⟨?_, ?_⟩
  · refine Finset.sdiff_subset_sdiff (Finset.Subset.refl _) ?_
    intro item member
    exact List.mem_toFinset.mpr (kept (List.mem_toFinset.mp member))
  · intro same
    have untried : ref ∈ tierBackends env tier \ tried.toFinset := by simp [offered, fresh]
    rw [← same] at untried
    simp [used] at untried

/-! ## Moves between tiers -/

theorem tierOrderOf_eq
    (ordered : tierOrderFromContract env.routing.config
      (taskClassEntry env.routing.taskClassContract request.taskType) = .ok tiers) :
    tierOrderOf env request = tiers := by
  rw [tierOrderOf, ordered]
  rfl

/-- A tier that stands after `tier` leaves room for one more inference. -/
theorem tierAllowance_after (distinct : DistinctTiers env.routing.config) {next : ModelRoutingTier}
    (tried' : List String) (ordered : tierOrderFromContract env.routing.config
      (taskClassEntry env.routing.taskClassContract request.taskType) = .ok tiers)
    (later : next ∈ afterTier tier tiers) :
    tierAllowance env request w' next.name tried' < tierAllowance env request w tier tried := by
  have fewer := afterTier_decreases (tierOrder_sound distinct ordered).2 later
  rw [← tierOrderOf_eq ordered] at fewer
  calc tierAllowance env request w' next.name tried'
    _ < inferencesPerTier env.routing.config * (tiersAbove env request next.name + 1) :=
        tierAllowance_lt tried'
    _ ≤ inferencesPerTier env.routing.config * tiersAbove env request tier :=
        Nat.mul_le_mul_left _ fewer
    _ ≤ tierAllowance env request w tier tried := by
        rw [tierAllowance, Nat.add_assoc]
        exact Nat.le_add_right ..

theorem NextTierOf.allowance_le (distinct : DistinctTiers env.routing.config) {nextTier : String}
    (onTier : w.currentTierName = some tier) (next : NextTierOf env w request nextTier)
    (tried tried' : List String) :
    tierAllowance env request w' nextTier tried' ≤ tierAllowance env request w tier tried := by
  obtain ⟨current, isCurrent, eligible⟩ := next
  cases onTier.symm.trans isCurrent
  obtain ⟨_, tiers, chosen, _, ordered, later, rfl, _⟩ := nextEligibleTier_sound eligible
  exact (tierAllowance_after distinct tried' ordered later).le

/-! ## Tried backends -/

/-- The failed backends that are noted for `tier`. -/
def failedIn (w : DelegationWorkflowState) (tier : String) : List String :=
  if w.sameTierFailedBackendTier = some tier then w.sameTierFailedBackendRefs else []

theorem mem_failedBackendsOf {ref : String} :
    ref ∈ failedBackendsOf w tier failedBackendRef ↔
      ref ∈ failedIn w tier ∨ ref = failedBackendRef := by
  unfold failedBackendsOf failedIn
  generalize (if w.sameTierFailedBackendTier = some tier then w.sameTierFailedBackendRefs
    else []) = refs
  dsimp only
  split
  · rename_i noted
    exact ⟨Or.inl, fun member => member.elim id fun same => same ▸ noted⟩
  · simp

theorem failedIn_noteFailedBackend :
    failedIn (noteFailedBackend w tier failedBackendRef) tier =
      failedBackendsOf w tier failedBackendRef := if_pos rfl

theorem failedBackendsOf_noteFailedBackend :
    failedBackendsOf (noteFailedBackend w tier failedBackendRef) tier failedBackendRef =
      failedBackendsOf w tier failedBackendRef := by
  have noted : failedBackendRef ∈ failedBackendsOf w tier failedBackendRef :=
    mem_failedBackendsOf.mpr (Or.inr rfl)
  rw [failedBackendsOf, noteFailedBackend]
  simp only [if_true, noted]

theorem untriedBackends_congr {tried' : List String} (same : ∀ ref, ref ∈ tried ↔ ref ∈ tried') :
    untriedBackends env tier tried = untriedBackends env tier tried' := by
  have sets : tried.toFinset = tried'.toFinset := by
    ext ref
    simp [same]
  rw [untriedBackends, sets, untriedBackends]

/-! ## Routing intents -/

def Emission.routingIntent? : Emission → Option ModelRoutingIntent
  | .routingIntent intent => some intent
  | _ => none

def followIntents (latest : Option ModelRoutingIntent) (outputs : Outputs) :
    Option ModelRoutingIntent :=
  (outputs.messages.filterMap Emission.routingIntent?).getLast? <|> latest

theorem followIntents_asked (intent : ModelRoutingIntent) :
    followIntents latest (.ok [.routingIntent intent]) = some intent := rfl

theorem followIntents_escalated (intent : ModelRoutingIntent)
    (proof : ModelLlmDelegationEscalationTriggeredEvent) :
    followIntents latest (.ok [.routingIntent intent, .escalationTriggered proof]) =
      some intent := rfl

theorem inferenceIntents_escalated (intent : ModelRoutingIntent)
    (proof : ModelLlmDelegationEscalationTriggeredEvent) :
    inferenceIntents (.ok [.routingIntent intent, .escalationTriggered proof]) = 0 := rfl

def AwaitsDecision (w : DelegationWorkflowState) : Prop :=
  w.state = .received ∨ w.state = .routed ∧ w.routingDecision = none

/-- `intent` asks for the workflow's own request, from the bottom while the workflow is
fresh, and excludes only backends that are noted as failed. -/
structure AsksFor (w : DelegationWorkflowState) (intent : ModelRoutingIntent) : Prop where
  known : w.request = some intent.payload
  fresh : w.state = .received → intent.minTierName = none
  noted : ∀ tier, intent.minTierName = some tier →
    intent.excludedBackendRefs ⊆ failedIn w tier

structure Following (w : DelegationWorkflowState) (latest : Option ModelRoutingIntent) : Prop where
  schemaless : ∀ request, w.request = some request → request.outputSchemaKey = none
  answerable : AwaitsDecision w → ∃ intent, latest = some intent ∧ AsksFor w intent

/-! ## One step -/

/-! A failed attempt spends no retry of the tier by itself. -/

theorem retriesLeft_rerouted (env : WorkflowEnv) (w : DelegationWorkflowState) (tier : String)
    (costUsd : ℚ) (promptTokens completionTokens : ℕ) :
    retriesLeft env (rerouted w costUsd promptTokens completionTokens) tier =
      retriesLeft env w tier := rfl

theorem retriesLeft_noteFailedBackend (env : WorkflowEnv) (w : DelegationWorkflowState)
    (tier failed : String) (ref : String) :
    retriesLeft env (noteFailedBackend w failed ref) tier = retriesLeft env w tier := rfl

theorem retriesLeft_inferenceFailed (env : WorkflowEnv) (nowNs : ℤ) (w : DelegationWorkflowState)
    (decision : ModelRoutingDecision) (response : ModelInferenceResponseData) (tier : String) :
    retriesLeft env (inferenceFailed env nowNs w decision response) tier =
      retriesLeft env w tier := rfl

theorem inferenceIntents_emitTerminal (inputs : TerminalEmissionInputs) :
    inferenceIntents (.ok [emitTerminal env inputs]) = 0 := by
  rw [inferenceIntents_ok, List.countP_singleton, emitTerminal_not_inference]
  rfl

theorem answers_pay (distinct : DistinctTiers env.routing.config) (attempts : ℕ)
    (asks : AsksFor w intent) (answers : Answers env.routing intent decision) :
    attemptAllowance env (dispatched w decision attempts) decision + 1 ≤
      intentAllowance env intent.payload w intent := by
  obtain ⟨tiers, landed, model, ordered, reached, named, offered, ref, fresh⟩ := answers
  have onLanded : attemptAllowance env (dispatched w decision attempts) decision ≤
      tierAllowance env intent.payload w landed.name
        (failedBackendsOf w landed.name decision.selectedBackendRef) := by
    unfold attemptAllowance
    split
    · rename_i request tier isKnown onTier
      cases asks.known.symm.trans isKnown
      have same : tier = landed.name := by
        have adopted : (some decision.tierName).filter (fun text => !text.isEmpty) = some tier :=
          onTier
        rw [← named]
        exact (Option.some.inj (Option.filter_eq_some_iff.mp adopted).1).symm
      rw [same]
      exact Nat.le_refl _
    · exact Nat.zero_le _
  refine Nat.succ_le_of_lt (lt_of_le_of_lt onLanded ?_)
  unfold intentAllowance
  cases asked : intent.minTierName with
  | none =>
    rw [asked] at reached
    have above := afterTier_length_lt reached
    refine lt_of_lt_of_le (tierAllowance_lt _) (Nat.mul_le_mul_left _ ?_)
    rw [tierOrderOf_eq ordered, tiersAbove, tierOrderOf_eq ordered]
    exact above
  | some tier =>
    rw [asked] at reached
    by_cases same : landed.name = tier
    · have configured := (tierOrder_sound distinct ordered).1 landed
        ((List.dropWhile_suffix _).subset reached)
      have backends : model.backendRef ∈ tierBackends env landed.name := by
        rw [tierBackends, findTier_of_mem distinct configured]
        exact List.mem_toFinset.mpr (List.mem_map_of_mem offered)
      have used : model.backendRef ∈
          failedBackendsOf w landed.name decision.selectedBackendRef :=
        mem_failedBackendsOf.mpr (Or.inr ref.symm)
      have kept : intent.excludedBackendRefs ⊆
          failedBackendsOf w landed.name decision.selectedBackendRef := by
        intro excluded member
        exact mem_failedBackendsOf.mpr (Or.inl (asks.noted landed.name (same ▸ asked) member))
      rw [← same]
      exact Nat.add_lt_add_left (untriedBackends_lt backends fresh kept used) _
    · exact tierAllowance_after distinct _ ordered (mem_afterTier reached same)

theorem workflowAllowance_awaiting {intent : ModelRoutingIntent} (awaited : AwaitsDecision w) :
    workflowAllowance env w (some intent) = intentAllowance env intent.payload w intent := by
  unfold workflowAllowance
  rcases awaited with received | ⟨routed, undecided⟩
  · rw [received]
    rfl
  · rw [routed, undecided]

theorem workflowAllowance_attempting {decision : ModelRoutingDecision}
    {latest : Option ModelRoutingIntent}
    (underWay : w.state = .routed ∨ w.state = .inferenceCompleted)
    (decided : w.routingDecision = some decision) :
    workflowAllowance env w latest = attemptAllowance env w decision := by
  unfold workflowAllowance
  rcases underWay with routed | completed
  · rw [routed, decided]
  · rw [completed, decided]
    rfl

theorem workflowAllowance_over
    (settled : w.state = .executing ∨ w.state = .gateEvaluated ∨ w.state.isTerminal = true) :
    workflowAllowance env w latest = 0 := by
  unfold workflowAllowance
  rcases settled with state | state | terminal
  · rw [state]
  · rw [state]
  · cases state : w.state with
    | completed => rfl
    | failed => rfl
    | _ => simp [state, EnumDelegationState.isTerminal] at terminal

theorem attemptAllowance_eq (known : w.request = some request)
    (onTier : w.currentTierName = some tier) :
    attemptAllowance env w decision =
      tierAllowance env request w tier (failedBackendsOf w tier decision.selectedBackendRef) := by
  rw [attemptAllowance, known, onTier]

/-! ## What the legs keep -/

theorem Following.of_decided
    (schemaless : ∀ request, w.request = some request → request.outputSchemaKey = none)
    (busy : ¬ AwaitsDecision w) : Following w latest :=
  ⟨schemaless, fun awaited => absurd awaited busy⟩

theorem not_awaitsDecision_of_state (routed : w.state ≠ .routed) (received : w.state ≠ .received) :
    ¬ AwaitsDecision w := by
  rintro (state | ⟨state, -⟩)
  · exact received state
  · exact routed state

theorem not_awaitsDecision_of_decided (routed : w.state = .routed)
    (decided : w.routingDecision = some decision) : ¬ AwaitsDecision w := by
  rintro (state | ⟨-, undecided⟩)
  · cases routed.symm.trans state
  · cases decided.symm.trans undecided

theorem not_awaitsDecision_of_terminal (terminal : w.state.isTerminal = true) :
    ¬ AwaitsDecision w := by
  rintro (state | ⟨state, -⟩) <;> simp [state, EnumDelegationState.isTerminal] at terminal

section

variable (schemaless : ∀ request, w.request = some request → request.outputSchemaKey = none)
  (known : w.request = some intent.payload)
  (noted : ∀ tier, intent.minTierName = some tier → intent.excludedBackendRefs ⊆ failedIn w tier)

include schemaless known noted

theorem Following.of_rerouted :
    Following (rerouted w costUsd promptTokens completionTokens) (some intent) :=
  ⟨schemaless, fun _ => ⟨intent, rfl, known, nofun, noted⟩⟩

theorem Following.of_escalated :
    Following (escalated w costUsd promptTokens completionTokens) (some intent) :=
  ⟨schemaless, fun _ => ⟨intent, rfl, known, nofun, noted⟩⟩

end

theorem Leg.following (coherent : Coherent w) (following : Following w latest)
    (leg : Leg env nowNs w event w' outputs) : Following w' (followIntents latest outputs) := by
  have schemaless := following.schemaless
  cases leg with
  | ignored idle => exact following
  | @replayed duplicate fresh =>
    obtain ⟨request, known⟩ := Option.isSome_iff_exists.mp coherent.known
    have own : w.request.getD duplicate = request := by rw [known, Option.getD_some]
    rw [followIntents_asked, own]
    exact ⟨schemaless, fun _ => ⟨_, rfl, known, fun _ => rfl, nofun⟩⟩
  | commanded fresh =>
    obtain ⟨intent, latestIs, asks⟩ := following.answerable (Or.inl fresh)
    exact ⟨schemaless, fun _ => ⟨intent, latestIs, asks.known, nofun, asks.noted⟩⟩
  | decided awaited issued =>
    exact .of_decided schemaless (not_awaitsDecision_of_decided rfl rfl)
  | inferenceRaised attempting lookup noted =>
    obtain ⟨tier, refs, rfl⟩ := noted.frame
    exact .of_decided schemaless
      (not_awaitsDecision_of_decided attempting.routed attempting.decided)
  | siblingRetried attempting failed onTier identified available =>
    rw [followIntents_asked]
    refine .of_rerouted schemaless attempting.known ?_
    rintro asked ⟨⟩ excluded member
    rw [failedIn_noteFailedBackend]
    exact mem_sortedSet.mp member
  | inferenceEscalated attempting failed noted next =>
    obtain ⟨tier, refs, rfl⟩ := noted.frame
    rw [followIntents_escalated]
    exact .of_escalated schemaless attempting.known fun _ _ => List.nil_subset _
  | inferenceEnded attempting failed noted =>
    obtain ⟨tier, refs, rfl⟩ := noted.frame
    exact .of_decided schemaless (not_awaitsDecision_of_terminal rfl)
  | forwarded attempting settled =>
    exact .of_decided schemaless (not_awaitsDecision_of_state nofun nofun)
  | repairAsked attempting due issued =>
    exact .of_decided schemaless
      (not_awaitsDecision_of_decided attempting.routed attempting.decided)
  | complianceRaised attempting settled => exact following
  | barOverflowed atGate => exact .of_decided schemaless (not_awaitsDecision_of_state nofun nofun)
  | gateEnded atGate terminal outcome recorded =>
    rcases recorded with rfl | ⟨authority, opened⟩
    · exact .of_decided schemaless (not_awaitsDecision_of_terminal terminal)
    · obtain ⟨tier, count, rfl⟩ := opened.frame
      exact .of_decided schemaless (not_awaitsDecision_of_terminal terminal)
  | gateRaised atGate opened =>
    obtain ⟨tier, count, rfl⟩ := opened.frame
    exact .of_decided schemaless (not_awaitsDecision_of_state nofun nofun)
  | localRetried atGate onTier opened budget left =>
    rw [followIntents_asked, opened]
    exact .of_rerouted schemaless atGate.known fun _ _ => List.nil_subset _
  | gateEscalated atGate opened next =>
    obtain ⟨tier, count, rfl⟩ := opened.frame
    rw [followIntents_escalated]
    exact .of_escalated schemaless atGate.known fun _ _ => List.nil_subset _
  | progressed routed => exact .of_decided schemaless (not_awaitsDecision_of_state nofun nofun)
  | lifecycleEnded active terminal outcome =>
    exact .of_decided schemaless (not_awaitsDecision_of_terminal terminal)

/-! ## What the legs pay -/

theorem attemptAllowance_noted (noted : NotedFailure w decision.selectedBackendRef w') :
    attemptAllowance env w' decision = attemptAllowance env w decision := by
  rcases noted with rfl | ⟨tier, onTier, -, rfl⟩
  · rfl
  · cases known : w.request with
    | none => simp only [attemptAllowance, noteFailedBackend, known]
    | some request =>
      rw [attemptAllowance_eq known onTier,
        attemptAllowance_eq (w := noteFailedBackend w tier _) known onTier,
        failedBackendsOf_noteFailedBackend]
      rfl

theorem escalated_pays (distinct : DistinctTiers env.routing.config) {nextTier : String}
    (known : w.request = some request) (next : NextTierOf env w request nextTier) :
    workflowAllowance env (escalated w' costUsd promptTokens completionTokens)
        (some { payload := request, minTierName := some nextTier }) ≤
      attemptAllowance env w decision := by
  obtain ⟨tier, onTier, -⟩ := id next
  rw [workflowAllowance_awaiting (Or.inr ⟨rfl, rfl⟩), attemptAllowance_eq known onTier]
  exact next.allowance_le distinct onTier _ _

theorem localRetried_pays {maxRetries : ℤ} (known : w.request = some request)
    (onTier : w.currentTierName = some tier)
    (budget : tierMaxRetries env.routing tier = .ok maxRetries)
    (opened : w'.localRetryCount = if w.localRetryTier = some tier then w.localRetryCount else 0)
    (current : w'.localRetryTier = some tier) (left : (w'.localRetryCount : ℤ) < maxRetries) :
    workflowAllowance env
        (rerouted { w' with localRetryCount := w'.localRetryCount + 1 } costUsd promptTokens
          completionTokens)
        (some { payload := request, minTierName := some tier }) ≤
      attemptAllowance env w decision := by
  rw [workflowAllowance_awaiting (Or.inr ⟨rfl, rfl⟩), attemptAllowance_eq known onTier]
  have declared : retryBudget env tier = maxRetries.toNat := by
    unfold tierMaxRetries at budget
    unfold retryBudget
    split at budget
    · rename_i declared found
      cases budget
      rw [found]
      rfl
    · cases budget
  have spent : retriesLeft env
      (rerouted { w' with localRetryCount := w'.localRetryCount + 1 } costUsd promptTokens
        completionTokens) tier + 1 = retriesLeft env w tier := by
    have after : (rerouted { w' with localRetryCount := w'.localRetryCount + 1 } costUsd
        promptTokens completionTokens).localRetryTier = some tier := current
    rw [retriesLeft, if_pos after, retriesLeft, ← opened, declared]
    change maxRetries.toNat - (w'.localRetryCount + 1) + 1 = _
    omega
  have untried : untriedBackends env tier [] ≤ maxTierBackends env.routing.config :=
    (Finset.card_le_card Finset.sdiff_subset).trans tierBackends_card_le
  change tierAllowance env request _ tier [] ≤ _
  rw [tierAllowance, tierAllowance, ← spent, Nat.mul_succ]
  omega

theorem workflowAllowance_replayed (asks : AsksFor w intent) (fresh : w.state = .received) :
    workflowAllowance env { w with routingIntentReplayed := true }
        (some { payload := intent.payload }) = workflowAllowance env w (some intent) := by
  have after := @workflowAllowance_awaiting env { w with routingIntentReplayed := true }
    { payload := intent.payload } (Or.inl fresh)
  rw [after, workflowAllowance_awaiting (Or.inl fresh), intentAllowance, intentAllowance,
    asks.fresh fresh]

theorem inferenceRaised_pays {response : ModelInferenceResponseData}
    (attempting : Attempting w request decision)
    (noted : NotedFailure (inferenceFailed env nowNs w decision response)
      decision.selectedBackendRef w') :
    workflowAllowance env w' latest = workflowAllowance env w latest := by
  have routed : w'.state = .routed := noted.state.trans attempting.routed
  obtain ⟨tier, refs, same⟩ := id noted.frame
  have decided : w'.routingDecision = w.routingDecision := by rw [same]; rfl
  rw [workflowAllowance_attempting (Or.inl routed) (decided.trans attempting.decided),
    workflowAllowance_attempting (Or.inl attempting.routed) attempting.decided]
  exact (attemptAllowance_noted noted).trans rfl

theorem siblingRetried_pays {response : ModelInferenceResponseData}
    (attempting : Attempting w request decision) (onTier : w.currentTierName = some tier) :
    workflowAllowance env
        (rerouted (noteFailedBackend (inferenceFailed env nowNs w decision response) tier
          decision.selectedBackendRef) costUsd promptTokens completionTokens)
        (some
          { payload := request, minTierName := some tier
            excludedBackendRefs :=
              sortedSet (failedBackendsOf w tier decision.selectedBackendRef) }) ≤
      workflowAllowance env w latest := by
  rw [workflowAllowance_awaiting (Or.inr ⟨rfl, rfl⟩),
    workflowAllowance_attempting (Or.inl attempting.routed) attempting.decided,
    attemptAllowance_eq attempting.known onTier]
  change tierAllowance env request _ tier (sortedSet _) ≤ _
  rw [tierAllowance, untriedBackends_congr fun ref => mem_sortedSet, retriesLeft_rerouted,
    retriesLeft_noteFailedBackend, retriesLeft_inferenceFailed]
  exact Nat.le_refl _

/-- A routing decision that `w` waits for answers the latest intent. -/
def AnswersLatest (env : WorkflowEnv) (w : DelegationWorkflowState)
    (latest : Option ModelRoutingIntent) (event : Event) : Prop :=
  ∀ decision, event = .decision decision → Awaits w event →
    ∃ intent, latest = some intent ∧ Answers env.routing intent decision

theorem Leg.pays (distinct : DistinctTiers env.routing.config) (coherent : Coherent w)
    (following : Following w latest) (answered : AnswersLatest env w latest event)
    (leg : Leg env nowNs w event w' outputs) :
    inferenceIntents outputs + workflowAllowance env w' (followIntents latest outputs) ≤
      workflowAllowance env w latest := by
  cases leg with
  | ignored idle =>
    rw [inferenceIntents_ok, List.countP_nil, Nat.zero_add]
    exact Nat.le_refl _
  | @replayed duplicate fresh =>
    obtain ⟨intent, rfl, asks⟩ := following.answerable (Or.inl fresh)
    have own : w.request.getD duplicate = intent.payload := by
      rw [asks.known, Option.getD_some]
    rw [followIntents_asked, own]
    exact (Nat.zero_add _).trans_le (workflowAllowance_replayed asks fresh).le
  | @commanded command fresh =>
    obtain ⟨intent, rfl, asks⟩ := following.answerable (Or.inl fresh)
    have undecided := (coherent.received fresh).2.1
    have after := @workflowAllowance_awaiting env
      { w with state := .routed, invocationCommand := some command } intent
      (Or.inr ⟨rfl, undecided⟩)
    rw [workflowAllowance_awaiting (Or.inl fresh)]
    exact (Nat.zero_add _).trans_le after.le
  | @decided decision attempts outputs awaited issued =>
    obtain ⟨intent, rfl, answers⟩ := answered decision rfl awaited
    obtain ⟨_, ⟨⟩, asks⟩ := following.answerable awaited
    rw [workflowAllowance_attempting (Or.inl rfl) rfl, workflowAllowance_awaiting awaited,
      Nat.add_comm]
    exact (Nat.add_le_add_left issued.intents_le _).trans (answers_pay distinct attempts asks answers)
  | inferenceRaised attempting lookup noted =>
    rw [inferenceRaised_pays attempting noted, inferenceIntents_error, Nat.zero_add]
    exact Nat.le_refl _
  | siblingRetried attempting failed onTier identified available =>
    rw [followIntents_asked]
    exact (Nat.zero_add _).trans_le (siblingRetried_pays attempting onTier)
  | inferenceEscalated attempting failed noted next =>
    rw [followIntents_escalated, inferenceIntents_escalated, Nat.zero_add,
      workflowAllowance_attempting (Or.inl attempting.routed) attempting.decided]
    exact escalated_pays distinct attempting.known next
  | inferenceEnded attempting failed noted =>
    rw [workflowAllowance_over (Or.inr (Or.inr rfl)), inferenceIntents_emitTerminal]
    exact Nat.zero_le _
  | @forwarded response request decision tokens attempting settled =>
    have after := @workflowAllowance_attempting env
      { recordInferenceResponse w response with
        state := .inferenceCompleted
        accumulatedTokens := tokens } decision latest (Or.inr rfl) attempting.decided
    rw [workflowAllowance_attempting (Or.inl attempting.routed) attempting.decided]
    exact (Nat.zero_add _).trans_le after.le
  | repairAsked attempting due issued =>
    obtain ⟨request, schemaKey, budget, known, _, keyed, _⟩ := due
    rw [following.schemaless request known] at keyed
    cases keyed
  | complianceRaised attempting settled => exact Nat.le_of_eq (Nat.zero_add _)
  | barOverflowed atGate =>
    rw [workflowAllowance_over (Or.inr (Or.inl rfl))]
    exact Nat.zero_le _
  | gateEnded atGate terminal outcome recorded =>
    rw [workflowAllowance_over (Or.inr (Or.inr terminal)), inferenceIntents_emitTerminal]
    exact Nat.zero_le _
  | gateRaised atGate opened =>
    rw [workflowAllowance_over (Or.inr (Or.inl opened.state))]
    exact Nat.zero_le _
  | localRetried atGate onTier opened budget left =>
    rw [followIntents_asked, workflowAllowance_attempting (Or.inr atGate.completed) atGate.decided]
    refine (Nat.zero_add _).trans_le (localRetried_pays atGate.known onTier budget ?_ ?_ left)
    · rw [opened]
      rfl
    · rw [opened]
      rfl
  | gateEscalated atGate opened next =>
    rw [followIntents_escalated,
      workflowAllowance_attempting (Or.inr atGate.completed) atGate.decided]
    exact (Nat.zero_add _).trans_le (escalated_pays distinct atGate.known next)
  | progressed routed =>
    rw [workflowAllowance_over (Or.inl rfl)]
    exact Nat.zero_le _
  | lifecycleEnded active terminal outcome =>
    rw [workflowAllowance_over (Or.inr (Or.inr terminal)), inferenceIntents_emitTerminal]
    exact Nat.zero_le _

/-! ## Runs -/

/-- The run of one correlation id beside the latest routing intent. -/
abbrev followedRun (env : WorkflowEnv) (deliveries : List Delivery) :
    List (Trace.Transition FollowedSlot Delivery Outputs) :=
  Trace.run (Trace.observing (step env) followIntents) (none, none) deliveries

def Delivery.Schemaless (delivery : Delivery) : Prop :=
  ∀ request, delivery.event = .request request → request.outputSchemaKey = none

/-- Every routing decision that is waited for answers the latest routing intent. -/
def DecisionsAnswer (env : WorkflowEnv) (deliveries : List Delivery) : Prop :=
  ∀ t ∈ followedRun env deliveries, ∀ w, t.before.1 = some w →
    AnswersLatest env w t.before.2 t.event.event

structure FollowedWell (state : FollowedSlot) : Prop where
  coherent : SlotCoherent state.1
  following : ∀ w, state.1 = some w → Following w state.2

theorem SlotStep.followed {delivery : Delivery} (schemaless : delivery.Schemaless)
    (well : FollowedWell (slot, latest)) (taken : SlotStep env slot delivery slot' outputs) :
    FollowedWell (slot', followIntents latest outputs) := by
  refine ⟨taken.coherent, ?_⟩
  intro w found
  cases taken with
  | absent => cases found
  | @created _ request requested =>
    cases found
    rw [followIntents_asked]
    refine ⟨?_, fun _ => ⟨_, rfl, rfl, fun _ => rfl, nofun⟩⟩
    rintro _ ⟨⟩
    exact schemaless request requested
  | moved coherent leg =>
    cases found
    exact leg.following coherent (well.following _ rfl)

theorem SlotStep.pays {delivery : Delivery} (distinct : DistinctTiers env.routing.config)
    (well : FollowedWell (slot, latest))
    (answered : ∀ w, slot = some w → AnswersLatest env w latest delivery.event)
    (taken : SlotStep env slot delivery slot' outputs) :
    inferenceIntents outputs + inferencesLeft env (slot', followIntents latest outputs) ≤
      inferencesLeft env (slot, latest) := by
  cases taken with
  | absent => exact Nat.le_of_eq (Nat.zero_add _)
  | @created _ request requested =>
    have fresh : AwaitsDecision (newWorkflow env delivery.nowNs request) := Or.inl rfl
    rw [followIntents_asked, inferencesLeft, inferencesLeft, workflowAllowance_awaiting fresh]
    have shorter : (tierOrderOf env request).length ≤ env.routing.config.tiers.length := by
      unfold tierOrderOf
      cases ordered : tierOrderFromContract env.routing.config
          (taskClassEntry env.routing.taskClassContract request.taskType) with
      | error raised => exact Nat.zero_le _
      | ok tiers => exact tierOrder_length distinct ordered
    refine (Nat.zero_add _).trans_le ((Nat.mul_le_mul_left _ shorter).trans ?_)
    rw [loopBound, Nat.mul_comm]
  | moved coherent leg =>
    exact leg.pays distinct coherent (well.following _ rfl) (answered _ rfl)

theorem followedRun_slotStep {deliveries : List Delivery}
    {t : Trace.Transition FollowedSlot Delivery Outputs} (taken : t ∈ followedRun env deliveries)
    (well : FollowedWell t.before) : SlotStep env t.before.1 t.event t.after.1 t.output ∧
      t.after = (t.after.1, followIntents t.before.2 t.output) := by
  obtain ⟨stepped, followed⟩ := Trace.observing_steps taken
  have slotStep := step_slotStep env well.coherent t.event
  rw [stepped] at slotStep
  exact ⟨slotStep, Prod.ext rfl followed⟩

theorem followedRun_well {deliveries : List Delivery}
    (schemaless : ∀ delivery ∈ deliveries, delivery.Schemaless) :
    ∀ t ∈ followedRun env deliveries, FollowedWell t.before := by
  have start : FollowedWell (none, none) := ⟨slotCoherent_none, fun w found => by cases found⟩
  have preserved : ∀ t ∈ followedRun env deliveries, FollowedWell t.before → FollowedWell t.after := by
    intro t taken before
    obtain ⟨slotStep, followed⟩ := followedRun_slotStep taken before
    rw [followed]
    exact slotStep.followed (schemaless t.event (Trace.mem_events taken)) before
  exact (Trace.run_invariant start preserved).2

/-- The inference intents of a run on a request without an output schema are bounded by
a number of the tier configuration, when tier names are distinct and every routing
decision answers the latest routing intent. -/
theorem inference_intents_bounded {deliveries : List Delivery}
    (distinct : DistinctTiers env.routing.config)
    (schemaless : ∀ delivery ∈ deliveries, delivery.Schemaless)
    (answered : DecisionsAnswer env deliveries) :
    ((slotRun env deliveries).map fun t => inferenceIntents t.output).sum ≤
      loopBound env.routing.config := by
  have pays : ∀ t ∈ followedRun env deliveries,
      inferenceIntents t.output + inferencesLeft env t.after ≤ inferencesLeft env t.before := by
    intro t taken
    have well := followedRun_well schemaless t taken
    obtain ⟨slotStep, followed⟩ := followedRun_slotStep taken well
    rw [followed]
    exact slotStep.pays distinct well (answered t taken)
  have paid := Trace.run_potential pays
  have unobserved : slotRun env deliveries =
      (followedRun env deliveries).map Trace.Transition.unobserved :=
    (Trace.run_observing none).symm
  rw [unobserved, List.map_map]
  exact (Nat.le_add_right _ _).trans paid

/-- The local backend is unreachable, and the reducer answers with the next tier. -/
def escalatedAttempts : List Delivery :=
  escalatedOnce ++ sampleDeliver [.decision (sampleDecision "cheap_cloud" "cloud-glm")]

/-- Three tiers of one backend without retries allow six inferences. -/
theorem escalated_attempts_bounded :
    ((slotRun (sampleWorkflowEnv narrowMiddleConfig) escalatedAttempts).map
      fun t => inferenceIntents t.output).sum ≤ loopBound narrowMiddleConfig := by
  refine @inference_intents_bounded (sampleWorkflowEnv narrowMiddleConfig) escalatedAttempts
    (by unfold DistinctTiers; decide) ?_ ?_
  · intro delivery member request requested
    simp only [escalatedAttempts, escalatedOnce, sampleDeliver, List.map_cons, List.map_nil,
      List.cons_append, List.nil_append, List.mem_cons, List.not_mem_nil, or_false] at member
    rcases member with rfl | rfl | rfl | rfl <;> cases requested
    rfl
  · intro t taken w before decision decided awaited
    simp only [escalatedAttempts, escalatedOnce, sampleDeliver, List.map_cons, List.map_nil,
      List.cons_append, List.nil_append, Trace.run, List.mem_cons, List.not_mem_nil,
      or_false] at taken
    rcases taken with rfl | rfl | rfl | rfl <;> cases decided
    · refine ⟨{ payload := sampleRequest none 100 sampleTokens_pos }, by decide +kernel, ?_⟩
      exact ⟨narrowMiddleConfig.tiers, _, _, rfl, List.mem_cons_self .., rfl,
        List.mem_cons_self .., rfl, List.not_mem_nil⟩
    · refine ⟨{ payload := sampleRequest none 100 sampleTokens_pos, minTierName := some "cheap_cloud" },
        by decide +kernel, ?_⟩
      exact ⟨narrowMiddleConfig.tiers, _, _, rfl, List.mem_cons_self .., rfl,
        List.mem_cons_self .., rfl, List.not_mem_nil⟩

end OmniMarket.Delegation
