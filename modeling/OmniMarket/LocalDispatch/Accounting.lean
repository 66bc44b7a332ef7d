import OmniMarket.LocalDispatch.Ladder
import OmniMarket.QualityGate.Acceptance
import OmniMarket.Lib.Scans

/-!
# What a local dispatch accounts for

Every attempt banks its cost, appends its record and may improve the best artifact,
whichever branch of the loop it takes. The ledger of a state is what the branches
bank into, and the evidence row is projected from it at each of the three exits.
-/

namespace OmniMarket.LocalDispatch
variable {rt : QualityGate.GateRuntime} {input : ModelQualityGateInput}
  {gate : ModelQualityGateResult} {failureClass : Option DelegationFailureClass} {call : CallResult}

/-! ## The evidence of an exit -/

structure EvidenceMetrics where
  inputTokens : ℕ
  outputTokens : ℕ
  totalTokens : ℕ
  latencyMs : ℤ
  costUsd : ℚ
  costSavingsUsd : ℚ

/-- The terminal payload that is projected to the evidence row. -/
structure EvidencePayload where
  status : DispatchStatus
  taskType : String
  provider : String
  modelName : String
  response : String
  qualityGatePassed : Bool
  qualityGatesFailed : List String
  errorMessage : String
  escalationCount : ℕ
  metrics : EvidenceMetrics

/-- `_project_evidence`: its payload. -/
def projectEvidence (taskType : String) (banked : DispatchState) (result : CallResult)
    (qualityPassed : Bool) (failureMessage : String) : EvidencePayload :=
  let content := result.content.getD ""
  { status := if qualityPassed then .completed else .failed
    taskType
    provider := banked.backend.endpointRef
    modelName := banked.backend.modelId
    response := if content.isEmpty then failureMessage else content
    qualityGatePassed := qualityPassed
    qualityGatesFailed := if qualityPassed then [] else [failureMessage]
    errorMessage := failureMessage
    escalationCount := banked.escalationCount
    metrics :=
      { inputTokens := result.tokensIn
        outputTokens := result.tokensOut
        totalTokens := result.tokensIn + result.tokensOut
        latencyMs := result.latencyMs
        costUsd := banked.cumulativeCostUsd
        costSavingsUsd := banked.cumulativeSavingsUsd } }

/-- `result.error_message or "delegation call failed"`. -/
def transportFailureMessage (result : CallResult) : String :=
  match result.errorMessage with
  | some message => if message.isEmpty then "delegation call failed" else message
  | none => "delegation call failed"

/-- Bank the cost of an attempt that never reached the gate. -/
def bankTransportFailure (state : DispatchState) (result : CallResult) : DispatchState :=
  { state with
    cumulativeCostUsd := state.cumulativeCostUsd + result.actualCostUsd
    cumulativeSavingsUsd := state.cumulativeSavingsUsd + result.savingsUsd }

def exitEvidence (taskType : String) (state : DispatchState) (qualityPassed : Bool) :
    AttemptOutcome → EvidencePayload
  | .timedOut message result =>
    projectEvidence taskType (bankTransportFailure state result) result false message
  | .transportFailed result =>
    projectEvidence taskType (bankTransportFailure state result) result false
      (transportFailureMessage result)
  | .gated result gate =>
    projectEvidence taskType (bankGatedAttempt state qualityPassed result gate) result
      qualityPassed (if qualityPassed then "" else "; ".intercalate gate.failureReasons)

/-- The loop body of `dispatch` with its projection. -/
def attemptStepProjecting (env : LocalEnv) (taskType : String) (state : DispatchState)
    (outcome : AttemptOutcome) :
    Except DispatchError (DispatchState ⊕ (DispatchResult × EvidencePayload)) :=
  match attemptStep env taskType state outcome with
  | .error raised => .error raised
  | .ok (.inl next) => .ok (.inl next)
  | .ok (.inr result) =>
    .ok (.inr (result, exitEvidence taskType state (result.status == .completed) outcome))

/-! ## The pinned dispatch -/

/-- `_resolve_initial_backend` under a caller's pin. A pin that does not resolve raises. -/
def resolvePinnedBackend (env : LocalEnv) (taskType : String) :
    Option String → Except DispatchError ModelResolvedDelegationBackend
  | none => resolveInitialBackend env taskType
  | some backendId =>
    (env.resolveDelegationBackend taskType (some backendId)).mapError DispatchError.runtime

/-- At most `fuel` attempts of `dispatch`, with its pin and its projection. -/
def dispatchProjecting (env : LocalEnv) (taskType : String) (backendId : Option String)
    (fuel : ℕ) (outcomes : ℕ → AttemptOutcome) :
    Except DispatchError (Option (ℕ × DispatchState × DispatchResult × EvidencePayload)) :=
  match resolvePinnedBackend env taskType backendId with
  | .error raised => .error raised
  | .ok backend =>
    Loop.run (fun index state => attemptStepProjecting env taskType state (outcomes index))
      fuel 0 { backend }

variable {env : LocalEnv} {taskType : String} {backendId : Option String}
  {state next : DispatchState} {outcome : AttemptOutcome} {result : DispatchResult}
  {evidence : EvidencePayload}

theorem attemptStepProjecting_fst :
    (attemptStepProjecting env taskType state outcome).map (Sum.map id Prod.fst) =
      attemptStep env taskType state outcome := by
  unfold attemptStepProjecting
  match attemptStep env taskType state outcome with
  | .error raised => rfl
  | .ok (.inl next) => rfl
  | .ok (.inr result) => rfl

theorem attemptStepProjecting_eq_inl
    (stepped : attemptStepProjecting env taskType state outcome = .ok (.inl next)) :
    attemptStep env taskType state outcome = .ok (.inl next) := by
  rw [← attemptStepProjecting_fst, stepped]
  rfl

theorem attemptStepProjecting_eq_inr
    (stepped : attemptStepProjecting env taskType state outcome = .ok (.inr (result, evidence))) :
    attemptStep env taskType state outcome = .ok (.inr result) ∧
      evidence = exitEvidence taskType state (result.status == .completed) outcome := by
  unfold attemptStepProjecting at stepped
  split at stepped
  · cases stepped
  · cases stepped
  · rename_i returned
    cases stepped
    exact ⟨returned, rfl⟩

/-! ## Verdicts of the gate -/

def GateJudged : AttemptOutcome → Prop
  | .timedOut _ _ => True
  | .transportFailed _ => True
  | .gated result gate =>
    ∃ rt input judgeAdequacyScore judgeVerdict responseContract,
      input.llmResponseContent = result.content.getD "" ∧
        QualityGate.delta rt input judgeAdequacyScore judgeVerdict responseContract = .ok gate

theorem evaluateResponseContract_scored {responseContract : PyDict}
    (judged : QualityGate.evaluateResponseContract rt input responseContract = .ok gate) :
    ∃ score, gate.qualityScore = .finite score ∧ 0 ≤ score := by
  unfold QualityGate.evaluateResponseContract at judged
  simp only at judged
  split at judged
  · cases judged
    exact ⟨0, rfl, le_refl 0⟩
  · split at judged
    · cases judged
    · cases judged
      exact ⟨0, rfl, le_refl 0⟩
    · obtain ⟨reasons, _, closed⟩ := Raising.bind_eq_ok.mp judged
      split at closed
      · cases closed
        exact ⟨1, rfl, zero_le_one⟩
      · cases closed
        exact ⟨0, rfl, le_refl 0⟩

theorem runLegacyChecks_scored (rt : QualityGate.GateRuntime) (input : ModelQualityGateInput) :
    ∃ score, (QualityGate.runLegacyChecks rt input).qualityScore = .finite score ∧ 0 ≤ score := by
  -- each part is a product of a share and a weight, and neither is negative
  refine ⟨_, rfl, PyNumber.round_nonneg (Double.nonneg_add (Double.nonneg_add
    (Double.nonneg_mul (by positivity) (Double.nearest_nonneg (by norm_num)))
    (Double.nonneg_mul (by positivity) (Double.nearest_nonneg (by norm_num))))
    (Double.nonneg_mul ?_ (Double.nearest_nonneg (by norm_num))))⟩
  split_ifs
  · exact zero_le_one
  · exact Double.nonneg_div (Nat.cast_nonneg _) (Nat.cast_nonneg _)

theorem delta_scored {judgeAdequacyScore : Option QualityGate.UnitScore}
    {judgeVerdict : Option QualityGate.EnumDelegationJudgeVerdict}
    {responseContract : Option PyDict}
    (judged : QualityGate.delta rt input judgeAdequacyScore judgeVerdict responseContract =
      .ok gate) : ∃ score, gate.qualityScore = .finite score ∧ 0 ≤ score := by
  cases responseContract with
  | some responseContract => exact evaluateResponseContract_scored judged
  | none =>
    cases declared : (QualityGate.mergedDod input).isEmpty with
    | true =>
      rw [QualityGate.delta_undeclared declared] at judged
      cases judged
      exact runLegacyChecks_scored rt input
    | false =>
      obtain ⟨proof, unfolded⟩ := QualityGate.delta_declared declared
      rw [unfolded] at judged
      obtain ⟨outcome, _, rfl⟩ := Raising.map_eq_ok.mp judged
      exact ⟨_, QualityGate.GateVerdict.result_qualityScore .., QualityGate.UnitScore.nonneg _⟩

/-! ## The ledger -/

/-- The content of a gated attempt that may be returned after a failure. -/
structure Draft where
  content : String
  score : ℚ
  nonempty : content ≠ ""
  nonneg : 0 ≤ score

def callOf : AttemptOutcome → CallResult
  | .timedOut _ result => result
  | .transportFailed result => result
  | .gated result _ => result

/-- The content that the gate judged, empty for an attempt without a verdict. -/
def gatedContent : AttemptOutcome → String
  | .gated result _ => result.content.getD ""
  | _ => ""

def draftOf : AttemptOutcome → Option Draft
  | .gated result gate =>
    match gate.qualityScore with
    | .finite score =>
      if draft : result.content.getD "" ≠ "" ∧ 0 ≤ score then
        some ⟨result.content.getD "", score, draft.1, draft.2⟩
      else none
    | _ => none
  | _ => none

def gateScore : AttemptOutcome → Option PyFloat
  | .gated _ gate => some gate.qualityScore
  | _ => none

/-- `record` is the record of an attempt with this outcome. -/
structure RecordOf (outcome : AttemptOutcome) (record : AttemptRecord) : Prop where
  cost : record.costUsd = (callOf outcome).actualCostUsd
  score : record.qualityScore = gateScore outcome

/-- What the attempts of a dispatch have left behind. -/
structure Ledger where
  costUsd : ℚ
  attempts : List AttemptRecord
  bestContent : String
  bestContentScore : PyFloat

def DispatchState.ledger (state : DispatchState) : Ledger where
  costUsd := state.cumulativeCostUsd
  attempts := state.attempts
  bestContent := state.bestContent
  bestContentScore := state.bestContentScore

/-- A draft replaces the best artifact if its score is strictly higher. -/
def Ledger.keepBest (ledger : Ledger) : Option Draft → String × PyFloat
  | none => (ledger.bestContent, ledger.bestContentScore)
  | some draft =>
    if PyFloat.lt ledger.bestContentScore (.finite draft.score) then
      (draft.content, .finite draft.score)
    else (ledger.bestContent, ledger.bestContentScore)

/-- `banked` is the ledger after an attempt with this outcome. -/
structure Ledger.Banks (ledger : Ledger) (outcome : AttemptOutcome) (banked : Ledger) : Prop where
  cost : banked.costUsd = ledger.costUsd + (callOf outcome).actualCostUsd
  recorded : ∃ record, RecordOf outcome record ∧ banked.attempts = ledger.attempts ++ [record]
  best : (banked.bestContent, banked.bestContentScore) = ledger.keepBest (draftOf outcome)

/-- `result` is what a dispatch returns from `banked`. -/
structure Ledger.Closes (banked : Ledger) (outcome : AttemptOutcome)
    (result : DispatchResult) : Prop where
  cost : result.costUsd = banked.costUsd
  attempts : result.attempts = banked.attempts
  content : result.status = .failed →
    result.content =
      if banked.bestContent.isEmpty then gatedContent outcome else banked.bestContent

/-! ## One attempt -/

theorem escalateOr_keeps_ledger {current : String} {retryable : Bool}
    {exhausted : DispatchState → DispatchResult}
    (stepped : escalateOr env taskType current retryable state exhausted = .ok (.inl next)) :
    next.ledger = state.ledger := by
  unfold escalateOr at stepped
  simp only at stepped
  split at stepped
  · split at stepped
    · cases stepped
    · cases stepped
    · cases stepped
      rfl
  · cases stepped

theorem transportFailure_banks {message : String} (called : callOf outcome = call)
    (unjudged : gateScore outcome = none) (undrafted : draftOf outcome = none) :
    state.ledger.Banks outcome
      { costUsd := state.cumulativeCostUsd + call.actualCostUsd
        attempts := state.attempts ++
          [{ tier := state.backend.tier, backendId := state.backend.backendId,
             modelId := state.backend.modelId, qualityGatePassed := false, qualityScore := none,
             costUsd := call.actualCostUsd, failureClass, errorMessage := some message }]
        bestContent := state.bestContent
        bestContentScore := state.bestContentScore } := by
  refine ⟨by rw [called]; rfl, ⟨_, ⟨?_, ?_⟩, rfl⟩, ?_⟩
  · rw [called]
  · rw [unjudged]
  · rw [undrafted]
    rfl

theorem bankGatedAttempt_banks (state : DispatchState) (judged : GateJudged (.gated call gate))
    (accepted : Bool) :
    state.ledger.Banks (.gated call gate) (bankGatedAttempt state accepted call gate).ledger := by
  refine ⟨rfl, ⟨_, ⟨rfl, rfl⟩, rfl⟩, ?_⟩
  obtain ⟨_, _, _, _, _, _, verdict⟩ := judged
  obtain ⟨score, scored, nonneg⟩ := delta_scored verdict
  show ((bankGatedAttempt state accepted call gate).bestContent,
    (bankGatedAttempt state accepted call gate).bestContentScore) = _
  by_cases empty : call.content.getD "" = ""
  · simp [bankGatedAttempt, draftOf, scored, empty, Ledger.keepBest, DispatchState.ledger]
  · by_cases higher : PyFloat.lt state.bestContentScore (.finite score) = true
    · simp [bankGatedAttempt, draftOf, scored, empty, nonneg, Ledger.keepBest,
        DispatchState.ledger, higher]
    · simp [bankGatedAttempt, draftOf, scored, empty, nonneg, Ledger.keepBest,
        DispatchState.ledger, higher]

theorem attemptStep_banks (judged : GateJudged outcome)
    (stepped : attemptStep env taskType state outcome = .ok (.inl next)) :
    state.ledger.Banks outcome next.ledger := by
  cases outcome with
  | timedOut message call =>
    simp only [attemptStep, transportFailureStep] at stepped
    rw [escalateOr_keeps_ledger stepped]
    exact transportFailure_banks rfl rfl rfl
  | transportFailed call =>
    simp only [attemptStep, transportFailureStep] at stepped
    rw [escalateOr_keeps_ledger stepped]
    exact transportFailure_banks rfl rfl rfl
  | gated call gate =>
    simp only [attemptStep, gatedStep] at stepped
    split at stepped
    · cases stepped
    · rename_i accepted _
      have banked := bankGatedAttempt_banks state judged accepted
      split at stepped
      · cases stepped
      · split at stepped
        · split at stepped
          · cases stepped
          · split at stepped
            · cases stepped
              exact banked
            · rw [escalateOr_keeps_ledger stepped]
              exact banked
        · rw [escalateOr_keeps_ledger stepped]
          exact banked

theorem transportFailureStep_closes {message : String} (called : callOf outcome = call)
    (unjudged : gateScore outcome = none) (undrafted : draftOf outcome = none)
    (unread : gatedContent outcome = "")
    (stepped : transportFailureStep env taskType state failureClass message call =
      .ok (.inr result)) :
    ∃ banked, state.ledger.Banks outcome banked ∧ banked.Closes outcome result := by
  unfold transportFailureStep at stepped
  obtain ⟨rfl, _⟩ := escalateOr_eq_inr stepped
  refine ⟨_, transportFailure_banks called unjudged undrafted, rfl, rfl, ?_⟩
  intro _
  show state.bestContent = if state.bestContent.isEmpty then _ else state.bestContent
  split
  · rename_i empty
    rw [unread, String.isEmpty_iff.mp empty]
  · rfl

theorem attemptStep_closes (judged : GateJudged outcome)
    (stepped : attemptStep env taskType state outcome = .ok (.inr result)) :
    ∃ banked, state.ledger.Banks outcome banked ∧ banked.Closes outcome result := by
  cases outcome with
  | timedOut message call => exact transportFailureStep_closes rfl rfl rfl rfl stepped
  | transportFailed call => exact transportFailureStep_closes rfl rfl rfl rfl stepped
  | gated call gate =>
    simp only [attemptStep, gatedStep] at stepped
    split at stepped
    · cases stepped
    · rename_i accepted _
      have banked := bankGatedAttempt_banks state judged accepted
      refine ⟨_, banked, ?_⟩
      split at stepped
      · cases stepped
        refine ⟨rfl, rfl, ?_⟩
        intro open'
        cases open'
      · split at stepped
        · split at stepped
          · cases stepped
          · split at stepped
            · cases stepped
            · obtain ⟨rfl, _⟩ := escalateOr_eq_inr stepped
              exact ⟨rfl, rfl, fun _ => rfl⟩
        · obtain ⟨rfl, _⟩ := escalateOr_eq_inr stepped
          exact ⟨rfl, rfl, fun _ => rfl⟩

theorem exitEvidence_costUsd (qualityPassed : Bool) :
    (exitEvidence taskType state qualityPassed outcome).metrics.costUsd =
      state.ledger.costUsd + (callOf outcome).actualCostUsd := by
  cases outcome <;> rfl

/-! ## The whole dispatch -/

/-- The first `count` attempts. -/
def attemptsMade (outcomes : ℕ → AttemptOutcome) (count : ℕ) : List AttemptOutcome :=
  (List.range count).map outcomes

theorem attemptsMade_succ (outcomes : ℕ → AttemptOutcome) (count : ℕ) :
    attemptsMade outcomes (count + 1) = attemptsMade outcomes count ++ [outcomes count] := by
  simp [attemptsMade, List.range_succ]

def totalCost (made : List AttemptOutcome) : ℚ :=
  (made.map fun outcome => (callOf outcome).actualCostUsd).sum

def draftsOf (made : List AttemptOutcome) : List Draft := made.filterMap draftOf

/-- `content` is that of the earliest draft of the highest score, empty without drafts. -/
def BestContent (drafts : List Draft) (content : String) : Prop :=
  drafts = [] ∧ content = "" ∨ ∃ best, FirstMax Draft.score drafts best ∧ content = best.content

def Ledger.HoldsBest (ledger : Ledger) (drafts : List Draft) : Prop :=
  drafts = [] ∧ ledger.bestContent = "" ∧ ledger.bestContentScore = .finite (-1) ∨
    ∃ best, FirstMax Draft.score drafts best ∧ ledger.bestContent = best.content ∧
      ledger.bestContentScore = .finite best.score

structure Ledger.Accounts (ledger : Ledger) (made : List AttemptOutcome) : Prop where
  cost : ledger.costUsd = totalCost made
  recorded : List.Forall₂ RecordOf made ledger.attempts
  best : ledger.HoldsBest (draftsOf made)

variable {ledger banked : Ledger}

theorem Ledger.HoldsBest.step {drafts : List Draft} {draft : Option Draft}
    (holds : ledger.HoldsBest drafts)
    (kept : (banked.bestContent, banked.bestContentScore) = ledger.keepBest draft) :
    banked.HoldsBest (drafts ++ draft.toList) := by
  cases draft with
  | none =>
    simp only [Ledger.keepBest, Prod.mk.injEq] at kept
    simpa [Ledger.HoldsBest, kept.1, kept.2] using holds
  | some draft =>
    refine Or.inr ?_
    rcases holds with ⟨rfl, _, unscored⟩ | ⟨best, first, content, score⟩
    · have above : (-1 : ℚ) < draft.score := by linarith [draft.nonneg]
      simp only [Ledger.keepBest, unscored, PyFloat.lt_finite, above, decide_true, if_true,
        Prod.mk.injEq] at kept
      exact ⟨draft, FirstMax.singleton, kept.1, kept.2⟩
    · by_cases higher : best.score < draft.score
      · simp only [Ledger.keepBest, score, PyFloat.lt_finite, higher, decide_true, if_true,
          Prod.mk.injEq] at kept
        exact ⟨draft, first.snoc_of_lt higher, kept.1, kept.2⟩
      · simp only [Ledger.keepBest, score, PyFloat.lt_finite, higher, decide_false,
          Bool.false_eq_true, if_false, Prod.mk.injEq] at kept
        exact ⟨best, first.snoc_of_le (not_lt.mp higher), kept.1.trans content, kept.2⟩

theorem Ledger.Accounts.step {made : List AttemptOutcome} (holds : ledger.Accounts made)
    (banks : ledger.Banks outcome banked) : banked.Accounts (made ++ [outcome]) := by
  refine ⟨?_, ?_, ?_⟩
  · rw [banks.cost, holds.cost]
    simp [totalCost]
  · obtain ⟨record, recorded, attempts⟩ := banks.recorded
    rw [attempts]
    exact List.rel_append holds.recorded (.cons recorded .nil)
  · have drafts : draftsOf (made ++ [outcome]) = draftsOf made ++ (draftOf outcome).toList := by
      cases drafted : draftOf outcome <;> simp [draftsOf, drafted]
    rw [drafts]
    exact holds.best.step banks.best

/-! ## The attempt budget -/

def freeTiers (env : LocalEnv) : List String :=
  (tierNames env).filter fun tier => isFreeTier env.routing tier

/-- One attempt, the escalations, and the re-drafts of the free tiers. A negative retry
budget allows no re-draft. -/
def attemptBudget (env : LocalEnv) (taskType : String) : ℕ :=
  1 + maxEscalations env taskType + ((freeTiers env).map (retriesOf env.routing)).sum

def freeBudgetLeft (env : LocalEnv) (taskType : String) (state : DispatchState) : ℕ :=
  (maxEscalations env taskType - state.escalationCount) +
    ((freeTiers env).map (retriesLeft env state)).sum

theorem attemptStep_spends (stepped : attemptStep env taskType state outcome = .ok (.inl next)) :
    freeBudgetLeft env taskType next < freeBudgetLeft env taskType state := by
  obtain ⟨_, escalates | redrafts⟩ := attemptStep_continues stepped
  · have sameRetries : (freeTiers env).map (retriesLeft env next) =
        (freeTiers env).map (retriesLeft env state) := by
      simp [retriesLeft, escalates.retries]
    have budget := escalates.budget
    simp only [freeBudgetLeft, sameRetries, escalates.counted]
    omega
  · have isFree : currentTier env state ∈ freeTiers env :=
      List.mem_filter.mpr ⟨isFreeTier_declared redrafts.free, redrafts.free⟩
    have fewer := redrafts.retriesLeft_lt isFree
    simp only [freeBudgetLeft, redrafts.counted]
    omega

theorem freeBudgetLeft_initial (env : LocalEnv) (taskType : String)
    (backend : ModelResolvedDelegationBackend) :
    freeBudgetLeft env taskType { backend } + 1 = attemptBudget env taskType := by
  have fresh : retriesLeft env { backend } = retriesOf env.routing := by
    funext tier
    simp [retriesLeft]
  simp only [freeBudgetLeft, attemptBudget, fresh]
  omega

theorem dispatchProjecting_ne_none {fuel : ℕ} (outcomes : ℕ → AttemptOutcome)
    (enough : attemptBudget env taskType ≤ fuel) :
    dispatchProjecting env taskType backendId fuel outcomes ≠ .ok none := by
  unfold dispatchProjecting
  cases resolvePinnedBackend env taskType backendId with
  | error raised => simp
  | ok backend =>
    apply Loop.run_ne_none
      fun _ _ _ stepped => attemptStep_spends (attemptStepProjecting_eq_inl stepped)
    have initial := freeBudgetLeft_initial env taskType backend
    omega

/-! ## The account of a dispatch -/

/-- What a dispatch that returned after `count` attempts accounts for. -/
structure DispatchAccount (env : LocalEnv) (taskType : String) (outcomes : ℕ → AttemptOutcome)
    (count : ℕ) (result : DispatchResult) (evidence : EvidencePayload) : Prop where
  bounded : count ≤ attemptBudget env taskType
  recorded : List.Forall₂ RecordOf (attemptsMade outcomes count) result.attempts
  returned : result.costUsd = totalCost (attemptsMade outcomes count)
  projected : evidence.metrics.costUsd = totalCost (attemptsMade outcomes count)
  best : result.status = .failed →
    BestContent (draftsOf (attemptsMade outcomes count)) result.content

structure LoopAccount (env : LocalEnv) (taskType : String) (outcomes : ℕ → AttemptOutcome)
    (index : ℕ) (state : DispatchState) : Prop where
  budget : index + freeBudgetLeft env taskType state + 1 ≤ attemptBudget env taskType
  ledger : state.ledger.Accounts (attemptsMade outcomes index)

theorem LoopAccount.step {outcomes : ℕ → AttemptOutcome} {index : ℕ}
    (judged : GateJudged (outcomes index)) (holds : LoopAccount env taskType outcomes index state)
    (stepped : attemptStep env taskType state (outcomes index) = .ok (.inl next)) :
    LoopAccount env taskType outcomes (index + 1) next := by
  have spends := attemptStep_spends stepped
  have budget := holds.budget
  refine ⟨by omega, ?_⟩
  rw [attemptsMade_succ]
  exact holds.ledger.step (attemptStep_banks judged stepped)

theorem Ledger.HoldsBest.bestContent {drafts : List Draft} (holds : ledger.HoldsBest drafts) :
    BestContent drafts ledger.bestContent := by
  rcases holds with ⟨none, empty, _⟩ | ⟨best, first, content, _⟩
  · exact Or.inl ⟨none, empty⟩
  · exact Or.inr ⟨best, first, content⟩

theorem gatedContent_undrafted (judged : GateJudged outcome) (undrafted : draftOf outcome = none) :
    gatedContent outcome = "" := by
  cases outcome with
  | timedOut message call => rfl
  | transportFailed call => rfl
  | gated call gate =>
    obtain ⟨_, _, _, _, _, _, verdict⟩ := judged
    obtain ⟨score, scored, nonneg⟩ := delta_scored verdict
    simpa [draftOf, scored, nonneg, gatedContent] using undrafted

theorem Ledger.Closes.bestContent {made : List AttemptOutcome}
    (closes : banked.Closes outcome result) (judged : GateJudged outcome)
    (accounts : banked.Accounts (made ++ [outcome])) (failed : result.status = .failed) :
    BestContent (draftsOf (made ++ [outcome])) result.content := by
  have best := accounts.best.bestContent
  rw [closes.content failed]
  split
  · rename_i isEmpty
    have empty : banked.bestContent = "" := String.isEmpty_iff.mp isEmpty
    rcases best with ⟨none, _⟩ | ⟨best, _, content⟩
    · -- nothing was banked, so the last attempt had no content of its own either
      have undrafted : draftOf outcome = Option.none := by
        cases drafted : draftOf outcome with
        | none => rfl
        | some draft => simp [draftsOf, drafted] at none
      exact Or.inl ⟨none, gatedContent_undrafted judged undrafted⟩
    · exact absurd (content.symm.trans empty) best.nonempty
  · exact best

/-- Every dispatch returns or raises within its budget of attempts. What it returns has one
record for each call; the returned and the projected cost are that of all calls; a failed
dispatch returns the earliest content of the highest score, and nothing only if
no judged attempt had content. -/
theorem dispatch_accounts (env : LocalEnv) (taskType : String) (backendId : Option String)
    (fuel : ℕ) (outcomes : ℕ → AttemptOutcome) (judged : ∀ index, GateJudged (outcomes index)) :
    (attemptBudget env taskType ≤ fuel →
      dispatchProjecting env taskType backendId fuel outcomes ≠ .ok none) ∧
    ∀ last final result evidence,
      dispatchProjecting env taskType backendId fuel outcomes =
        .ok (some (last, final, result, evidence)) →
      DispatchAccount env taskType outcomes (last + 1) result evidence := by
  refine ⟨dispatchProjecting_ne_none outcomes, ?_⟩
  intro last final result evidence returned
  unfold dispatchProjecting at returned
  cases initial : resolvePinnedBackend env taskType backendId with
  | error raised => simp [initial] at returned
  | ok backend =>
    simp only [initial] at returned
    have start : LoopAccount env taskType outcomes 0 { backend } := by
      refine ⟨?_, rfl, .nil, Or.inl ⟨rfl, rfl, rfl⟩⟩
      have initial := freeBudgetLeft_initial env taskType backend
      omega
    obtain ⟨holds, ended⟩ := Loop.run_result_at
      (fun index _ _ inv stepped =>
        LoopAccount.step (judged index) inv (attemptStepProjecting_eq_inl stepped))
      start returned
    obtain ⟨stepped, rfl⟩ := attemptStepProjecting_eq_inr ended
    obtain ⟨banked, banks, closes⟩ := attemptStep_closes (judged last) stepped
    have accounts := holds.ledger.step banks
    rw [← attemptsMade_succ] at accounts
    have budget := holds.budget
    refine ⟨by omega, ?_, ?_, ?_, ?_⟩
    · rw [closes.attempts]
      exact accounts.recorded
    · rw [closes.cost]
      exact accounts.cost
    · rw [exitEvidence_costUsd, ← banks.cost]
      exact accounts.cost
    · intro failed
      rw [attemptsMade_succ] at accounts ⊢
      exact closes.bestContent (judged last) accounts failed

/-! ### A ladder of drafts -/

/-- A free local tier with one re-draft, below two tiers without one. -/
def draftLadderConfig : ModelDelegationConfig where
  tiers :=
    [{ name := "local", maxRetries := 1,
       models := [{ id := "qwen", backendRef := "local-reasoner", maxContextTokens := 100,
                    useFor := ["research"] }] },
     { name := "cheap_cloud",
       models := [{ id := "glm", backendRef := "cloud-glm", maxContextTokens := 100,
                    useFor := ["research"] }] },
     { name := "claude",
       models := [{ id := "opus", backendRef := "cloud-claude", maxContextTokens := 100,
                    useFor := ["research"] }] }]

def draftLadderEnv : LocalEnv where
  routing := sampleEnv draftLadderConfig
  parseFloat _ := none
  resolveDelegationBackend _ backendId :=
    .ok { backendId := backendId.getD "local-reasoner", modelId := "qwen",
          endpointRef := "https://example.invalid/v1/chat/completions" }
  roiOverlayReader _ := none

def draftInput (content : String) : ModelQualityGateInput where
  correlationId := 1
  taskType := "research"
  llmResponseContent := content

def rejectedDraft (content : String) : AttemptOutcome :=
  .gated { content := some content, actualCostUsd := 1 / 1000 }
    (QualityGate.runLegacyChecks QualityGate.identifierRuntime (draftInput content))

/-- Two local drafts, then two metered tiers that run into a rate limit. -/
def draftLadder : ℕ → AttemptOutcome
  | 0 => rejectedDraft "The first proof is shorter, and the second generalises."
  | 1 => rejectedDraft "Both work."
  | _ => .transportFailed { failureClass := some .rateLimited, errorMessage := some "429",
                            actualCostUsd := 1 / 100 }

theorem draftLadder_judged (index : ℕ) : GateJudged (draftLadder index) := by
  match index with
  | 0 => exact ⟨_, _, none, none, none, rfl, QualityGate.delta_undeclared rfl⟩
  | 1 => exact ⟨_, _, none, none, none, rfl, QualityGate.delta_undeclared rfl⟩
  | _ + 2 => trivial

/-- The ladder uses its whole budget, pays for four calls, and returns the first draft. -/
theorem draftLadder_accounts : ∃ final result evidence,
      dispatchProjecting draftLadderEnv "research" none 4 draftLadder =
        .ok (some (3, final, result, evidence)) ∧
      result.content = "The first proof is shorter, and the second generalises." ∧
      result.costUsd = 11 / 500 ∧
      DispatchAccount draftLadderEnv "research" draftLadder 4 result evidence := by
  have computed : ((dispatchProjecting draftLadderEnv "research" none 4 draftLadder).toOption.bind
      id).map (fun run => (run.1, run.2.2.1.content, run.2.2.1.costUsd)) =
        some (3, "The first proof is shorter, and the second generalises.", 11 / 500) := by
    decide +kernel
  match returned : dispatchProjecting draftLadderEnv "research" none 4 draftLadder with
  | .error raised => simp [returned, Except.toOption] at computed
  | .ok none => simp [returned, Except.toOption] at computed
  | .ok (some (last, final, result, evidence)) =>
    simp only [returned, Except.toOption, Option.bind_some, id_eq, Option.map_some,
      Option.some.injEq, Prod.mk.injEq] at computed
    obtain ⟨rfl, content, cost⟩ := computed
    have accounts := (dispatch_accounts draftLadderEnv "research" none 4 draftLadder
      draftLadder_judged).2 3 final result evidence returned
    exact ⟨final, result, evidence, rfl, content, cost, accounts⟩

end OmniMarket.LocalDispatch
