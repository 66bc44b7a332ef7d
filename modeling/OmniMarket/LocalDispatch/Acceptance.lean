import OmniMarket.Delegation.Terminal
import OmniMarket.LocalDispatch.Dispatch

/-!
# Acceptance on the two paths

The local port and the bus orchestrator decide on a gate result with procedures of
their own. They agree where the required bar of the task class resolves. Where the
class declares none, the port falls back to the reducer's verdict and the bus fails.
-/

namespace OmniMarket.Delegation

variable {env : WorkflowEnv} {nowNs : ℤ} {w w' : DelegationWorkflowState}
  {subject : GateSubject} {result : ModelQualityGateResult}
variable {authority : RequiredBarAuthority}

/-! ## The bus -/

theorem escalateOrFailGate_not_completed {costUsd : ℚ} (evaluated : w.state = .gateEvaluated) :
    (escalateOrFailGate env nowNs w subject result authority costUsd).workflow.state ≠
      .completed := by
  unfold escalateOrFailGate
  dsimp only
  split
  · rw [raising, evaluated]
    nofun
  · rw [escalateTo_eq (Or.inr evaluated)]
    nofun
  · rw [advance_declared (by rw [evaluated]; decide)]
    nofun

theorem rejectGateResult_not_completed (evaluated : w.state = .gateEvaluated) :
    (rejectGateResult env nowNs w subject result authority).workflow.state ≠ .completed := by
  unfold rejectGateResult maybeRetryLocal
  dsimp only
  split
  · exact escalateOrFailGate_not_completed evaluated
  · split
    · exact escalateOrFailGate_not_completed evaluated
    · split
      · rw [raising]
        exact fun completed => by cases evaluated.symm.trans completed
      · split
        · exact escalateOrFailGate_not_completed evaluated
        · rw [advance_rerouted]
          · nofun
          · exact Or.inr evaluated

section

variable (atGate : AtGate w subject)

include atGate

/-- What the bus makes of a gate result, once the draft of `subject` is at the gate. -/
theorem handleGateResult_eq :
    handleGateResult env nowNs w result =
      settleGateResult env nowNs (gateEvaluated w result) subject result := by
  have drafted : gateSubject? (gateEvaluated w result) = some subject :=
    gateSubject?_eq_some.mpr ⟨atGate.known, atGate.decided, atGate.drafted, atGate.modelled⟩
  unfold handleGateResult
  rw [if_neg (not_not.mpr atGate.completed), advance_declared (by rw [atGate.completed]; decide)]
  dsimp only
  split
  · rename_i missing
    cases missing.symm.trans drafted
  · rename_i other found
    cases found.symm.trans drafted
    rfl

theorem handleGateResult_resolved
    (resolved : resolveRequiredBarAuthority env.parseFloat env.routing subject.request.taskType =
      .ok authority) :
    (handleGateResult env nowNs w result).workflow.state = .completed ↔
      qualityAccepted result authority = true := by
  rw [handleGateResult_eq atGate, settleGateResult, resolved]
  dsimp only
  split
  · rename_i accepted
    rw [advance_declared rfl]
    exact iff_of_true rfl accepted
  · rename_i rejected
    exact iff_of_false (rejectGateResult_not_completed rfl) rejected

theorem handleGateResult_unresolved {raised : RequiredBarError}
    (unresolved : resolveRequiredBarAuthority env.parseFloat env.routing subject.request.taskType =
      .error raised) : (handleGateResult env nowNs w result).workflow.state ≠ .completed := by
  rw [handleGateResult_eq atGate, settleGateResult, unresolved]
  cases raised with
  | overflow => nofun
  | authority message =>
    dsimp only
    rw [advance_declared rfl]
    nofun

theorem handleGateResult_missing {message : String}
    (missing : resolveRequiredBarAuthority env.parseFloat env.routing subject.request.taskType =
      .error (.authority message)) :
    (handleGateResult env nowNs w result).workflow.state = .failed := by
  rw [handleGateResult_eq atGate, settleGateResult, missing]
  dsimp only
  rw [advance_declared rfl]
  rfl

end

theorem isQualityAccepted_resolved {taskType : String}
    (resolved : resolveRequiredBarAuthority env.parseFloat env.routing taskType = .ok authority) :
    LocalDispatch.isQualityAccepted env.parseFloat env.routing taskType result =
      .ok (qualityAccepted result authority) := by
  unfold LocalDispatch.isQualityAccepted qualityAccepted
  by_cases filtered : result.failCategory = .failDeterministic
  · rw [if_pos filtered]
    simp [preFilterRejected, filtered]
  · have kept : preFilterRejected result = false := by simp [preFilterRejected, filtered]
    rw [if_neg filtered, kept, resolved]
    cases passed : result.passed with
    | false => simp
    | true =>
      by_cases floor : result.scoreSource = SCORE_SOURCE_DETERMINISTIC_ACCEPTANCE
      · simp [floor, judgeUnavailableFloor, passed]
      · cases below : scoreBelowBar result.qualityScore authority with
        | false => simp [floor, judgeUnavailableFloor, passed, below]
        | true => simp [floor, judgeUnavailableFloor, passed, below]

/-! ## Side by side -/

/-- The task class is not in the contract, or declares no `required_bar`. -/
def BarUndeclared (env : RoutingEnv) (taskType : String) : Prop :=
  ∀ entry, taskClassEntry env.taskClassContract taskType = some entry →
    (qualityGatePolicy entry).bind (fun policy => policy.get? "required_bar") = none

theorem BarUndeclared.missing {parseFloat : ParseFloat} {routing : RoutingEnv} {taskType : String}
    (undeclared : BarUndeclared routing taskType) :
    ∃ message, resolveRequiredBarAuthority parseFloat routing taskType =
      .error (.authority message) := by
  unfold resolveRequiredBarAuthority
  cases found : taskClassEntry routing.taskClassContract taskType with
  | none => exact ⟨_, rfl⟩
  | some entry =>
    have absent : (qualityGatePolicy entry).bind
        (fun policy => (policy.get? "required_bar").map (policy, ·)) = none := by
      have none_declared := undeclared entry found
      cases policy : qualityGatePolicy entry with
      | none => rfl
      | some policy =>
        rw [policy, Option.bind_some] at none_declared
        rw [Option.bind_some, none_declared, Option.map_none]
    dsimp only
    rw [absent]
    exact ⟨_, rfl⟩

theorem isQualityAccepted_undeclared {taskType : String}
    (undeclared : BarUndeclared env.routing taskType) :
    LocalDispatch.isQualityAccepted env.parseFloat env.routing taskType result =
      .ok (result.passed && !preFilterRejected result) := by
  obtain ⟨message, missing⟩ := @BarUndeclared.missing env.parseFloat env.routing taskType undeclared
  unfold LocalDispatch.isQualityAccepted
  by_cases filtered : result.failCategory = .failDeterministic
  · rw [if_pos filtered]
    simp [preFilterRejected, filtered]
  · have kept : preFilterRejected result = false := by simp [preFilterRejected, filtered]
    rw [if_neg filtered, kept, missing, Bool.not_false, Bool.and_true]
    split
    · rename_i floor
      rw [(Bool.and_eq_true_iff.mp floor).1]
    · rfl

/-- On a draft at the gate: what the bus completes, the port accepts. Where the required
bar resolves, the port accepts exactly what the bus completes. Where the class declares
none, the bus fails every result and the port goes by the reducer's verdict. -/
theorem local_acceptance_agrees (atGate : AtGate w subject) (result : ModelQualityGateResult) :
    ((handleGateResult env nowNs w result).workflow.state = .completed →
      LocalDispatch.isQualityAccepted env.parseFloat env.routing subject.request.taskType result =
        .ok true) ∧
    (∀ authority, resolveRequiredBarAuthority env.parseFloat env.routing subject.request.taskType =
        .ok authority →
      ∃ accepted, LocalDispatch.isQualityAccepted env.parseFloat env.routing
          subject.request.taskType result = .ok accepted ∧
        (accepted = true ↔ (handleGateResult env nowNs w result).workflow.state = .completed)) ∧
    (BarUndeclared env.routing subject.request.taskType →
      (handleGateResult env nowNs w result).workflow.state = .failed ∧
        LocalDispatch.isQualityAccepted env.parseFloat env.routing subject.request.taskType result =
          .ok (result.passed && !preFilterRejected result)) := by
  refine ⟨?_, ?_, ?_⟩
  · intro completed
    cases resolved : resolveRequiredBarAuthority env.parseFloat env.routing
        subject.request.taskType with
    | error raised => exact absurd completed (handleGateResult_unresolved atGate resolved)
    | ok authority =>
      rw [isQualityAccepted_resolved resolved]
      exact congrArg _ ((handleGateResult_resolved atGate resolved).mp completed)
  · intro authority resolved
    exact ⟨_, isQualityAccepted_resolved resolved, (handleGateResult_resolved atGate resolved).symm⟩
  · intro undeclared
    obtain ⟨message, missing⟩ :=
      @BarUndeclared.missing env.parseFloat env.routing subject.request.taskType undeclared
    exact ⟨handleGateResult_missing atGate missing, isQualityAccepted_undeclared undeclared⟩

/-! ## A class without a bar -/

/-- A research draft that waits for its gate result. -/
def researchDraft : DelegationWorkflowState :=
  { recordInferenceResponse
      (dispatched
        (newWorkflow (sampleWorkflowEnv narrowMiddleConfig) 0 (sampleRequest none 100 sampleTokens_pos))
        (sampleDecision "local" "local-reasoner") 1)
      (sampleResponse "The lemma holds." "" 4 5) with
    state := .inferenceCompleted
    accumulatedTokens := 9 }

def researchSubject : GateSubject where
  request := sampleRequest none 100 sampleTokens_pos
  decision := sampleDecision "local" "local-reasoner"
  content := "The lemma holds."
  modelUsed := "qwen"

theorem researchDraft_atGate : AtGate researchDraft researchSubject :=
  ⟨rfl, rfl, rfl, rfl, rfl⟩

def passedResult : ModelQualityGateResult where
  correlationId := 7
  passed := true
  qualityScore := .finite 1

/-- The bus fails the draft for want of a bar; the port would have accepted it. -/
theorem researchDraft_agreement :
    (handleGateResult (sampleWorkflowEnv narrowMiddleConfig) 0 researchDraft
        passedResult).workflow.state = .failed ∧
      LocalDispatch.isQualityAccepted (sampleWorkflowEnv narrowMiddleConfig).parseFloat
        (sampleWorkflowEnv narrowMiddleConfig).routing "research" passedResult = .ok true :=
  (local_acceptance_agrees researchDraft_atGate passedResult).2.2 (by
    intro entry declared
    cases declared
    rfl)

theorem acceptance_differs_without_bar :
    ¬ ∀ (env : WorkflowEnv) (nowNs : ℤ) (w : DelegationWorkflowState) (subject : GateSubject)
        (result : ModelQualityGateResult), AtGate w subject →
      (LocalDispatch.isQualityAccepted env.parseFloat env.routing subject.request.taskType
          result = .ok true ↔
        (handleGateResult env nowNs w result).workflow.state = .completed) := by
  intro agrees
  have accepted : LocalDispatch.isQualityAccepted (sampleWorkflowEnv narrowMiddleConfig).parseFloat
      (sampleWorkflowEnv narrowMiddleConfig).routing researchSubject.request.taskType
      passedResult = .ok true := rfl
  have completed := (agrees _ 0 _ _ _ researchDraft_atGate).mp accepted
  exact absurd completed (by decide +kernel)

end OmniMarket.Delegation
