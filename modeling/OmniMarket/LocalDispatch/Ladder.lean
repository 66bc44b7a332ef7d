import OmniMarket.LocalDispatch.Dispatch
import Mathlib.Algebra.Order.BigOperators.Group.List

/-!
# How far the local ladder goes
-/

namespace OmniMarket.LocalDispatch

variable {env : LocalEnv} {taskType : String} {state next : DispatchState}
  {outcome : AttemptOutcome} {result : DispatchResult}
  {current : String} {exhausted : DispatchState → DispatchResult}
  {failureClass : Option DelegationFailureClass}

/-! ## One attempt -/

def RetryableFailure : AttemptOutcome → Prop
  | .timedOut _ _ => isRetryableTransportFailure (some .timeout) = true
  | .transportFailed result => isRetryableTransportFailure result.failureClass = true
  | .gated _ _ => True

def currentTier (env : LocalEnv) (state : DispatchState) : String :=
  chargedTier env state.backend.backendId state.backend.tier

/-- `record` is an attempt on the current backend. -/
def OnBackend (state : DispatchState) (record : AttemptRecord) : Prop :=
  record.backendId = state.backend.backendId ∧ record.tier = state.backend.tier

structure Escalates (env : LocalEnv) (taskType : String) (state next : DispatchState) : Prop where
  budget : state.escalationCount < maxEscalations env taskType
  counted : next.escalationCount = state.escalationCount + 1
  excluded : next.excludedTiers = currentTier env state :: state.excludedTiers
  retries : next.localRetryCounts = state.localRetryCounts

structure Redrafts (env : LocalEnv) (state next : DispatchState) : Prop where
  free : isFreeTier env.routing (currentTier env state) = true
  budget : state.localRetryCounts (currentTier env state) <
    retriesOf env.routing (currentTier env state)
  sameBackend : next.backend = state.backend
  counted : next.escalationCount = state.escalationCount
  excluded : next.excludedTiers = state.excludedTiers
  retries : next.localRetryCounts = Function.update state.localRetryCounts
    (currentTier env state) (state.localRetryCounts (currentTier env state) + 1)

theorem escalateOr_eq_inl {retryable : Bool}
    (stepped : escalateOr env taskType current retryable state exhausted = .ok (.inl next)) :
    state.escalationCount < maxEscalations env taskType ∧
      next.escalationCount = state.escalationCount + 1 ∧
      next.excludedTiers = current :: state.excludedTiers ∧
      next.localRetryCounts = state.localRetryCounts ∧ next.attempts = state.attempts := by
  unfold escalateOr at stepped
  simp only at stepped
  split at stepped
  · rename_i allowed
    simp only [Bool.and_eq_true, decide_eq_true_eq] at allowed
    split at stepped
    · cases stepped
    · cases stepped
    · cases stepped
      exact ⟨allowed.2, rfl, rfl, rfl, rfl⟩
  · cases stepped

theorem escalateOr_eq_inr {retryable : Bool}
    (stepped : escalateOr env taskType current retryable state exhausted = .ok (.inr result)) :
    result = exhausted { state with excludedTiers := current :: state.excludedTiers } ∧
      (retryable = false ∨ maxEscalations env taskType ≤ state.escalationCount ∨
        resolveNextBackend env current taskType (current :: state.excludedTiers) = .ok none) := by
  unfold escalateOr at stepped
  simp only at stepped
  split at stepped
  · split at stepped
    · cases stepped
    · rename_i resolved
      cases stepped
      exact ⟨rfl, Or.inr (Or.inr resolved)⟩
    · cases stepped
  · rename_i refused
    cases stepped
    simp only [Bool.and_eq_true, decide_eq_true_eq, not_and, not_lt] at refused
    refine ⟨rfl, ?_⟩
    cases retryable with
    | false => exact Or.inl rfl
    | true => exact Or.inr (Or.inl (refused rfl))

theorem retriesOf_eq {tier : String} {maxRetries : ℤ}
    (declared : tierMaxRetries env.routing tier = .ok maxRetries) :
    retriesOf env.routing tier = maxRetries.toNat := by
  simp [retriesOf, declared]

theorem transportFailureStep_continues {message : String} {call : CallResult}
    (stepped : transportFailureStep env taskType state failureClass message call = .ok (.inl next))
    :
    (∃ record, OnBackend state record ∧ next.attempts = state.attempts ++ [record]) ∧
      Escalates env taskType state next := by
  unfold transportFailureStep at stepped
  obtain ⟨budget, counted, excluded, retries, attempts⟩ := escalateOr_eq_inl stepped
  exact ⟨⟨_, ⟨rfl, rfl⟩, attempts⟩, budget, counted, excluded, retries⟩

theorem transportFailureStep_fails {message : String} {call : CallResult}
    (stepped : transportFailureStep env taskType state failureClass message call =
      .ok (.inr result)) :
    (∃ record, OnBackend state record ∧ result.attempts = state.attempts ++ [record]) ∧
      result.escalationCount = state.escalationCount ∧
      (isRetryableTransportFailure failureClass = false ∨
        maxEscalations env taskType ≤ state.escalationCount ∨
        resolveNextBackend env (currentTier env state) taskType
          (currentTier env state :: state.excludedTiers) = .ok none) := by
  unfold transportFailureStep at stepped
  obtain ⟨rfl, reason⟩ := escalateOr_eq_inr stepped
  exact ⟨⟨_, ⟨rfl, rfl⟩, rfl⟩, rfl, reason⟩

theorem attemptStep_continues (stepped : attemptStep env taskType state outcome = .ok (.inl next)) :
    (∃ record, OnBackend state record ∧ next.attempts = state.attempts ++ [record]) ∧
      (Escalates env taskType state next ∨ Redrafts env state next) := by
  cases outcome with
  | timedOut message call => exact (transportFailureStep_continues stepped).imp_right Or.inl
  | transportFailed call => exact (transportFailureStep_continues stepped).imp_right Or.inl
  | gated call gate =>
    simp only [attemptStep, gatedStep] at stepped
    split at stepped
    · cases stepped
    · split at stepped
      · cases stepped
      · split at stepped
        · rename_i free
          split at stepped
          · cases stepped
          · rename_i maxRetries declared
            split at stepped
            · rename_i budget
              cases stepped
              refine ⟨⟨_, ⟨rfl, rfl⟩, rfl⟩, Or.inr ⟨free, ?_, rfl, rfl, rfl, rfl⟩⟩
              rw [currentTier, retriesOf_eq declared]
              have below : (state.localRetryCounts (currentTier env state) : ℤ) < maxRetries :=
                budget
              unfold currentTier at below
              omega
            · obtain ⟨budget, counted, excluded, retries, attempts⟩ := escalateOr_eq_inl stepped
              exact ⟨⟨_, ⟨rfl, rfl⟩, attempts⟩, Or.inl ⟨budget, counted, excluded, retries⟩⟩
        · obtain ⟨budget, counted, excluded, retries, attempts⟩ := escalateOr_eq_inl stepped
          exact ⟨⟨_, ⟨rfl, rfl⟩, attempts⟩, Or.inl ⟨budget, counted, excluded, retries⟩⟩

theorem attemptStep_fails (stepped : attemptStep env taskType state outcome = .ok (.inr result))
    (failed : result.status = .failed) :
    (∃ record, OnBackend state record ∧ result.attempts = state.attempts ++ [record]) ∧
      result.escalationCount = state.escalationCount ∧
      (¬ RetryableFailure outcome ∨ maxEscalations env taskType ≤ state.escalationCount ∨
        resolveNextBackend env (currentTier env state) taskType
          (currentTier env state :: state.excludedTiers) = .ok none) := by
  cases outcome with
  | timedOut message call =>
    obtain ⟨recorded, counted, reason⟩ := transportFailureStep_fails stepped
    exact ⟨recorded, counted, reason.imp_left fun refused => by simp [RetryableFailure, refused]⟩
  | transportFailed call =>
    obtain ⟨recorded, counted, reason⟩ := transportFailureStep_fails stepped
    exact ⟨recorded, counted, reason.imp_left fun refused => by simp [RetryableFailure, refused]⟩
  | gated call gate =>
    simp only [attemptStep, gatedStep] at stepped
    -- a rejected draft ends the dispatch only when nothing is left to escalate to
    have rejected {exhausted : DispatchState → DispatchResult} {banked : DispatchState}
        (ended : escalateOr env taskType (currentTier env state) true banked exhausted =
          .ok (.inr result)) (same : banked.escalationCount = state.escalationCount)
        (tiers : banked.excludedTiers = state.excludedTiers) :
        ¬ RetryableFailure (.gated call gate) ∨
          maxEscalations env taskType ≤ state.escalationCount ∨
          resolveNextBackend env (currentTier env state) taskType
            (currentTier env state :: state.excludedTiers) = .ok none := by
      have reason := (escalateOr_eq_inr ended).2
      rw [same, tiers] at reason
      exact reason.imp_left fun refused => by cases refused
    split at stepped
    · cases stepped
    · split at stepped
      · cases stepped
        simp [gatedResult] at failed
      · split at stepped
        · split at stepped
          · cases stepped
          · split at stepped
            · cases stepped
            · have reason := rejected stepped rfl rfl
              obtain ⟨rfl, _⟩ := escalateOr_eq_inr stepped
              exact ⟨⟨_, ⟨rfl, rfl⟩, rfl⟩, rfl, reason⟩
        · have reason := rejected stepped rfl rfl
          obtain ⟨rfl, _⟩ := escalateOr_eq_inr stepped
          exact ⟨⟨_, ⟨rfl, rfl⟩, rfl⟩, rfl, reason⟩

/-! ## Termination -/

def tierNames (env : LocalEnv) : List String :=
  (env.routing.config.tiers.map (·.name)).dedup

def retriesLeft (env : LocalEnv) (state : DispatchState) (tier : String) : ℕ :=
  retriesOf env.routing tier - state.localRetryCounts tier

theorem isFreeTier_declared {tier : String} (free : isFreeTier env.routing tier = true) :
    tier ∈ tierNames env := by
  unfold isFreeTier findTier at free
  split at free
  · cases free
  · rename_i declared found
    have named := List.find?_some found
    have member := List.mem_of_find?_eq_some found
    simp only [tierNames, List.mem_dedup, List.mem_map]
    exact ⟨declared, member, by simpa using named⟩

theorem Redrafts.retriesLeft_lt {tiers : List String} (redrafts : Redrafts env state next)
    (listed : currentTier env state ∈ tiers) :
    (tiers.map (retriesLeft env next)).sum < (tiers.map (retriesLeft env state)).sum := by
  apply List.sum_lt_sum
  · intro tier _
    simp only [retriesLeft, redrafts.retries]
    by_cases same : tier = currentTier env state
    · rw [same, Function.update_self]
      omega
    · rw [Function.update_of_ne same]
  · refine ⟨currentTier env state, listed, ?_⟩
    have budget := redrafts.budget
    simp only [retriesLeft, redrafts.retries, Function.update_self]
    omega

/-! ## Which tiers were charged -/

def chargedTierOf (env : LocalEnv) (attempt : AttemptRecord) : String :=
  chargedTier env attempt.backendId attempt.tier

theorem chargedTierOf_onBackend {record : AttemptRecord} (onBackend : OnBackend state record) :
    chargedTierOf env record = currentTier env state := by
  rw [chargedTierOf, onBackend.1, onBackend.2, currentTier]

structure ChargedInv (env : LocalEnv) (state : DispatchState) : Prop where
  charged : ∀ tier ∈ state.excludedTiers, ∃ attempt ∈ state.attempts,
    chargedTierOf env attempt = tier
  excluded : ∀ attempt ∈ state.attempts,
    chargedTierOf env attempt ∈ state.excludedTiers ∨
      chargedTierOf env attempt = currentTier env state

theorem ChargedInv.step (holds : ChargedInv env state)
    (stepped : attemptStep env taskType state outcome = .ok (.inl next)) : ChargedInv env next := by
  obtain ⟨⟨record, onBackend, attempts⟩, continuation⟩ := attemptStep_continues stepped
  have recorded : chargedTierOf env record = currentTier env state :=
    chargedTierOf_onBackend onBackend
  rcases continuation with escalates | redrafts
  · -- an escalation excludes the tier that the attempt has just charged
    refine ⟨?_, ?_⟩
    · intro tier member
      rw [escalates.excluded, List.mem_cons] at member
      rw [attempts]
      rcases member with rfl | earlier
      · exact ⟨record, by simp, recorded⟩
      · obtain ⟨attempt, present, same⟩ := holds.charged tier earlier
        exact ⟨attempt, by simp [present], same⟩
    · intro attempt member
      rw [attempts, List.mem_append, List.mem_singleton] at member
      rw [escalates.excluded, List.mem_cons]
      rcases member with earlier | rfl
      · rcases holds.excluded attempt earlier with isExcluded | isCurrent
        · exact Or.inl (Or.inr isExcluded)
        · exact Or.inl (Or.inl isCurrent)
      · exact Or.inl (Or.inl recorded)
  · -- a second draft stays on its tier
    have sameTier : currentTier env next = currentTier env state := by
      simp [currentTier, redrafts.sameBackend]
    refine ⟨?_, ?_⟩
    · intro tier member
      rw [redrafts.excluded] at member
      obtain ⟨attempt, present, same⟩ := holds.charged tier member
      exact ⟨attempt, by simp [attempts, present], same⟩
    · intro attempt member
      rw [attempts, List.mem_append, List.mem_singleton] at member
      rw [redrafts.excluded, sameTier]
      rcases member with earlier | rfl
      · exact holds.excluded attempt earlier
      · exact Or.inr recorded

/-! ## Exhaustion -/

/-- No tier after `current` that is not charged yet can route the task. -/
def NoTierLeft (env : LocalEnv) (taskType current : String) (charged : String → Prop) : Prop :=
  ∃ backends tiers, env.routing.bifrostEndpoints = .ok backends ∧
    tierOrderFromContract env.routing.config
      (taskClassEntry env.routing.taskClassContract taskType) = .ok tiers ∧
    ∀ tier ∈ afterTier current tiers, ¬ charged tier.name →
      tierCanRouteTask env.routing tier taskType backends = .ok false

def NextTierUnresolvable (env : LocalEnv) (taskType current : String)
    (charged : String → Prop) : Prop :=
  ∃ excluded nextTier, (∀ tier, tier ∈ excluded ↔ charged tier) ∧
    nextEligibleTier env.routing current excluded (some taskType)
      (env.roiOverlayReader taskType) = .ok (some nextTier) ∧
    ∀ backendId, backendIdForTier env.routing nextTier taskType = .ok (some backendId) →
      ∃ message, env.resolveDelegationBackend taskType (some backendId) = .error message

theorem resolveNextBackend_none {excluded : List String}
    (unresolved : resolveNextBackend env current taskType excluded = .ok none) :
    NoTierLeft env taskType current (· ∈ excluded) ∨
      NextTierUnresolvable env taskType current (· ∈ excluded) := by
  unfold resolveNextBackend at unresolved
  simp only [bind, Except.bind] at unresolved
  match walked : nextEligibleTier env.routing current excluded (some taskType)
      (env.roiOverlayReader taskType) with
  | .error raised => simp [walked] at unresolved
  | .ok none => exact Or.inl (nextEligibleTier_none walked)
  | .ok (some nextTier) =>
    refine Or.inr ⟨excluded, nextTier, fun _ => Iff.rfl, walked, ?_⟩
    intro backendId selected
    simp only [walked, selected] at unresolved
    cases resolved : env.resolveDelegationBackend taskType (some backendId) with
    | error message => exact ⟨message, rfl⟩
    | ok backend => simp [resolved] at unresolved

def Charged (env : LocalEnv) (result : DispatchResult) (tier : String) : Prop :=
  ∃ attempt ∈ result.attempts, chargedTierOf env attempt = tier

theorem charged_of_fails {record : AttemptRecord} (holds : ChargedInv env state)
    (onBackend : OnBackend state record) (attempts : result.attempts = state.attempts ++ [record])
    (tier : String) :
    tier ∈ currentTier env state :: state.excludedTiers ↔ Charged env result tier := by
  have recorded : chargedTierOf env record = currentTier env state :=
    chargedTierOf_onBackend onBackend
  rw [List.mem_cons, Charged, attempts]
  constructor
  · rintro (rfl | earlier)
    · exact ⟨record, by simp, recorded⟩
    · obtain ⟨attempt, present, same⟩ := holds.charged tier earlier
      exact ⟨attempt, by simp [present], same⟩
  · rintro ⟨attempt, member, rfl⟩
    rw [List.mem_append, List.mem_singleton] at member
    rcases member with earlier | rfl
    · exact (holds.excluded attempt earlier).symm
    · exact Or.inl recorded

/-- A dispatch that fails with escalation budget left on a retryable failure: above the
tier charged for its last attempt nothing uncharged can route the task, or the
next eligible tier has no backend that resolves. -/
theorem dispatch_failed_exhausted {outcomes : ℕ → AttemptOutcome} {last : ℕ} {final : DispatchState}
    (returned : dispatch env taskType outcomes = .ok (some (last, final, result)))
    (failed : result.status = .failed)
    (budget : result.escalationCount < maxEscalations env taskType)
    (retryable : RetryableFailure (outcomes last)) :
    ∃ earlier attempt, result.attempts = earlier ++ [attempt] ∧
      (NoTierLeft env taskType (chargedTierOf env attempt) (Charged env result) ∨
        NextTierUnresolvable env taskType (chargedTierOf env attempt) (Charged env result)) := by
  unfold dispatch at returned
  cases initial : resolveInitialBackend env taskType with
  | error raised => simp [initial] at returned
  | ok backend =>
    simp only [initial] at returned
    have start : ChargedInv env { backend } := ⟨by simp, by simp⟩
    obtain ⟨holds, ended⟩ :=
      Loop.run_result (fun _ _ _ inv stepped => ChargedInv.step inv stepped) start returned
    obtain ⟨⟨record, onBackend, attempts⟩, counted, reason⟩ := attemptStep_fails ended failed
    refine ⟨final.attempts, record, attempts, ?_⟩
    have recorded : chargedTierOf env record = currentTier env final :=
      chargedTierOf_onBackend onBackend
    have sameCharged : (· ∈ currentTier env final :: final.excludedTiers) =
        Charged env result :=
      funext fun tier => propext (charged_of_fails holds onBackend attempts tier)
    rw [recorded, ← sameCharged]
    rcases reason with notRetryable | outOfBudget | unresolved
    · exact absurd retryable notRetryable
    · omega
    · exact resolveNextBackend_none unresolved

/-! ## A hidden tier -/

/-- A port whose local overlay has an endpoint for every backend of the three-tier
configuration but the middle tier's. -/
def overlayGapEnv : LocalEnv where
  routing := sampleEnv narrowMiddleConfig
  parseFloat _ := none
  resolveDelegationBackend _ backendId :=
    if backendId = some "cloud-glm" then .error "no populated endpoint_url"
    else .ok { backendId := backendId.getD "local-reasoner", modelId := "qwen",
               endpointRef := "https://example.invalid/v1/chat/completions" }
  roiOverlayReader _ := none

def rateLimited (_ : ℕ) : AttemptOutcome :=
  .transportFailed { failureClass := some .rateLimited, errorMessage := some "429" }

def overlayGapResult : DispatchResult where
  status := .failed
  content := ""
  delegatedTo := "https://example.invalid/v1/chat/completions"
  modelName := "qwen"
  errorMessage := some "429"
  escalationCount := 0
  costUsd := 0
  attempts := [{ tier := "unknown", backendId := "local-reasoner", modelId := "qwen",
                 qualityGatePassed := false, qualityScore := none, costUsd := 0,
                 failureClass := some .rateLimited, errorMessage := some "429" }]

theorem overlayGap_dispatch :
    ∃ final, dispatch overlayGapEnv "research" rateLimited =
      .ok (some (0, final, overlayGapResult)) := by
  have computed : ((dispatch overlayGapEnv "research" rateLimited).toOption.bind id).map
      (fun run => (run.1, run.2.2)) = some (0, overlayGapResult) := by decide +kernel
  match returned : dispatch overlayGapEnv "research" rateLimited with
  | .error raised => simp [returned, Except.toOption] at computed
  | .ok none => simp [returned, Except.toOption] at computed
  | .ok (some (last, final, result)) =>
    simp only [returned, Except.toOption, Option.bind_some, id_eq, Option.map_some,
      Option.some.injEq, Prod.mk.injEq] at computed
    obtain ⟨rfl, rfl⟩ := computed
    exact ⟨final, rfl⟩

/-- The condition above holds of that dispatch: it fails with both escalations left. -/
theorem overlayGap_exhausted :
    ∃ earlier attempt, overlayGapResult.attempts = earlier ++ [attempt] ∧
      (NoTierLeft overlayGapEnv "research" (chargedTierOf overlayGapEnv attempt)
          (Charged overlayGapEnv overlayGapResult) ∨
        NextTierUnresolvable overlayGapEnv "research" (chargedTierOf overlayGapEnv attempt)
          (Charged overlayGapEnv overlayGapResult)) :=
  overlayGap_dispatch.elim fun _ returned =>
    dispatch_failed_exhausted returned rfl (by decide) (by decide : isRetryableTransportFailure
      (some .rateLimited) = true)

/-- A tier without an endpoint hides the tier above it: the dispatch fails although
the last tier can route the task and its backend resolves. -/
theorem unresolvable_tier_hides_higher_tier :
    ¬ ∀ (env : LocalEnv) (taskType : String) (outcomes : ℕ → AttemptOutcome) (last : ℕ)
        (final : DispatchState) (result : DispatchResult),
      dispatch env taskType outcomes = .ok (some (last, final, result)) →
      result.status = .failed →
      result.escalationCount < maxEscalations env taskType →
      RetryableFailure (outcomes last) →
      ∀ earlier attempt, result.attempts = earlier ++ [attempt] →
      ∀ backends tiers, env.routing.bifrostEndpoints = .ok backends →
        tierOrderFromContract env.routing.config
          (taskClassEntry env.routing.taskClassContract taskType) = .ok tiers →
      ∀ tier ∈ afterTier (chargedTierOf env attempt) tiers, ¬ Charged env result tier.name →
        tierCanRouteTask env.routing tier taskType backends = .ok true →
      ∀ model ∈ tier.models, ∃ message,
        env.resolveDelegationBackend taskType (some model.backendRef) = .error message := by
  intro exhausts
  obtain ⟨final, returned⟩ := overlayGap_dispatch
  have uncharged : ¬ Charged overlayGapEnv overlayGapResult "claude" := by
    rintro ⟨attempt, member, named⟩
    simp only [overlayGapResult, List.mem_singleton] at member
    subst member
    exact absurd named (by decide)
  obtain ⟨message, refused⟩ := exhausts overlayGapEnv "research" rateLimited 0 final
    overlayGapResult returned rfl (by decide) (by decide : isRetryableTransportFailure
      (some .rateLimited) = true) [] _ rfl _ narrowMiddleConfig.tiers rfl rfl
    narrowMiddleConfig.tiers[2] (by decide) uncharged rfl
    narrowMiddleConfig.tiers[2].models[0] (by decide)
  simp [overlayGapEnv, narrowMiddleConfig] at refused

end OmniMarket.LocalDispatch
