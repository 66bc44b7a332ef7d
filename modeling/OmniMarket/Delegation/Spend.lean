import OmniMarket.Delegation.Terminal
import Mathlib.Algebra.Order.Group.Nat
import Mathlib.Algebra.Order.Monoid.Prod

/-!
# The token ledger of a delegation

The tokens of every consumed response are banked, held for the gate, or lost. A
terminal of the inference or gate path reports what is banked and held.
-/

namespace OmniMarket.Delegation

variable {env : WorkflowEnv} {nowNs : ℤ} {w w' : DelegationWorkflowState}
  {event : Event} {outputs : Outputs}
variable {response : ModelInferenceResponseData} {inputs : TerminalEmissionInputs}
  {result : ModelDelegationResult} {deliveries : List Delivery} {t : SlotTransition}

/-! ## Quantities -/

/-- Prompt and completion tokens. -/
abbrev Tokens := ℕ × ℕ

def responseTokens (response : ModelInferenceResponseData) : Tokens :=
  (response.promptTokens, response.completionTokens)

section

variable (w : DelegationWorkflowState)

def bankedTokens : Tokens :=
  (w.cumulativeAttemptPromptTokens, w.cumulativeAttemptCompletionTokens)

/-- The tokens of the recorded response, while the workflow keeps it. -/
def heldTokens : Tokens :=
  if w.inferenceContent.isSome then (w.inferencePromptTokens, w.inferenceCompletionTokens) else 0

def spendTokens : Tokens := bankedTokens w + heldTokens w

def consumedTokens (event : Event) (w' : DelegationWorkflowState) :
    Tokens :=
  match event with
  | .response response => if w' = w then 0 else responseTokens response
  | _ => 0

end

open Classical in
noncomputable def repairTokens (env : WorkflowEnv) (w : DelegationWorkflowState)
    (event : Event) : Tokens :=
  match event with
  | .response response =>
    if Awaits w (.response response) ∧ RepairDue env w response then responseTokens response
    else 0
  | _ => 0

def raisedTokens (event : Event) (outputs : Outputs) : Tokens :=
  match event, outputs with
  | .response response, .error (.routing _) => responseTokens response
  | _, _ => 0

/-! ## Which legs consume -/

theorem consumedTokens_changed (changed : w' ≠ w) :
    consumedTokens w (.response response) w' = responseTokens response := by
  simp only [consumedTokens, changed, if_false]

theorem repairTokens_settled (settled : ¬ RepairDue env w response) :
    repairTokens env w (.response response) = 0 := by
  simp only [repairTokens, settled, and_false, if_false]

theorem not_repairDue_of_failed (failed : response.errorMessage ≠ "") :
    ¬ RepairDue env w response := by
  rintro ⟨request, schemaKey, budget, -, succeeded, -⟩
  exact failed succeeded

theorem LookupsRaise.failed (lookup : LookupsRaise env w response) :
    response.errorMessage ≠ "" := by
  obtain ⟨request, decision, -, failed, -⟩ := lookup
  exact failed

theorem IssuesInference.not_raised (issued : IssuesInference outputs)
    (event : Event) : raisedTokens event outputs = 0 := by
  rcases issued with ⟨intent, rfl⟩ | ⟨message, rfl⟩ <;> cases event <;> rfl

/-! ## Held and banked tokens -/

theorem heldTokens_empty (empty : w.inferenceContent = none) : heldTokens w = 0 := by
  simp only [heldTokens, empty, Option.isSome_none, Bool.false_eq_true, if_false]

theorem spendTokens_empty (empty : w.inferenceContent = none) : spendTokens w = bankedTokens w := by
  rw [spendTokens, heldTokens_empty empty, add_zero]

theorem spendTokens_rerouted (w : DelegationWorkflowState) (costUsd : ℚ)
    (promptTokens completionTokens : ℕ) :
    spendTokens (rerouted w costUsd promptTokens completionTokens) =
      bankedTokens w + (promptTokens, completionTokens) :=
  spendTokens_empty rfl

theorem spendTokens_escalated (w : DelegationWorkflowState) (costUsd : ℚ)
    (promptTokens completionTokens : ℕ) :
    spendTokens (escalated w costUsd promptTokens completionTokens) =
      bankedTokens w + (promptTokens, completionTokens) :=
  spendTokens_empty rfl

theorem AtGate.held {subject : GateSubject} (atGate : AtGate w subject) :
    heldTokens w = (w.inferencePromptTokens, w.inferenceCompletionTokens) := by
  simp only [heldTokens, atGate.drafted, Option.isSome_some, if_true]

theorem Leg.balanced (coherent : Coherent w) (leg : Leg env nowNs w event w' outputs) :
    spendTokens w' + (repairTokens env w event + raisedTokens event outputs) =
      spendTokens w + consumedTokens w event w' := by
  cases leg with
  | ignored idle =>
    cases event with
    | response response =>
      simp [repairTokens, raisedTokens, consumedTokens, idle]
    | _ => rfl
  | replayed fresh => rfl
  | commanded fresh => rfl
  | decided awaited issued => rw [issued.not_raised]; rfl
  | @inferenceRaised response request decision _ raised attempting lookup noted =>
    obtain ⟨tier, refs, rfl⟩ := noted.frame
    have changed : { inferenceFailed env nowNs w decision response with
        sameTierFailedBackendTier := tier, sameTierFailedBackendRefs := refs } ≠ w :=
      ne_of_apply_ne DelegationWorkflowState.escalationHistory
        (by simp [inferenceFailed, recordEscalationAttempt])
    rw [consumedTokens_changed changed,
      repairTokens_settled (not_repairDue_of_failed lookup.failed), zero_add]
    rfl
  | siblingRetried attempting failed onTier identified available =>
    have empty := (coherent.routed attempting.routed).1
    rw [consumedTokens_changed, repairTokens_settled (not_repairDue_of_failed failed),
      spendTokens_rerouted, spendTokens_empty empty]
    · rfl
    · exact ne_of_apply_ne DelegationWorkflowState.routingDecision
        (by rw [attempting.decided]; nofun)
  | inferenceEscalated attempting failed noted next =>
    obtain ⟨tier, refs, rfl⟩ := noted.frame
    have empty := (coherent.routed attempting.routed).1
    rw [consumedTokens_changed, repairTokens_settled (not_repairDue_of_failed failed),
      spendTokens_escalated, spendTokens_empty empty]
    · rfl
    · exact ne_of_apply_ne DelegationWorkflowState.routingDecision
        (by rw [attempting.decided]; nofun)
  | inferenceEnded attempting failed noted =>
    obtain ⟨tier, refs, rfl⟩ := noted.frame
    have empty := (coherent.routed attempting.routed).1
    rw [consumedTokens_changed, repairTokens_settled (not_repairDue_of_failed failed),
      spendTokens_empty empty]
    · rfl
    · exact ne_of_apply_ne DelegationWorkflowState.state (by rw [attempting.routed]; nofun)
  | forwarded attempting settled =>
    have empty := (coherent.routed attempting.routed).1
    rw [consumedTokens_changed, repairTokens_settled settled, spendTokens_empty empty]
    · rfl
    · exact ne_of_apply_ne DelegationWorkflowState.state (by rw [attempting.routed]; nofun)
  | @repairAsked response request decision _ attempting due issued =>
    have answered : repairTokens env w (.response response) = responseTokens response :=
      if_pos ⟨attempting.awaits, due⟩
    rw [consumedTokens_changed, answered, issued.not_raised, add_zero]
    · rfl
    · exact ne_of_apply_ne DelegationWorkflowState.complianceAttempts
        (Nat.succ_ne_self w.complianceAttempts)
  | complianceRaised attempting settled =>
    rw [repairTokens_settled settled]
    simp [consumedTokens, raisedTokens]
  | barOverflowed atGate => rfl
  | gateEnded atGate terminal outcome recorded =>
    rcases recorded with rfl | ⟨authority, opened⟩
    · rfl
    · obtain ⟨tier, count, rfl⟩ := opened.frame
      rfl
  | gateRaised atGate opened =>
    obtain ⟨tier, count, rfl⟩ := opened.frame
    rfl
  | localRetried atGate onTier opened budget left =>
    subst opened
    rw [spendTokens_rerouted, spendTokens, atGate.held]
    rfl
  | gateEscalated atGate opened next =>
    obtain ⟨tier, count, rfl⟩ := opened.frame
    rw [spendTokens_escalated, spendTokens, atGate.held]
    rfl
  | progressed routed => rfl
  | lifecycleEnded active terminal outcome => rfl

/-! ## The history records what the ledger carries -/

def historyTokens (w : DelegationWorkflowState) : Tokens :=
  (w.escalationHistory.map fun attempt => (attempt.promptTokens, attempt.completionTokens)).sum

/-- The draft at the gate is held but not yet recorded. -/
def draftTokens (w : DelegationWorkflowState) : Tokens :=
  if w.state = .inferenceCompleted then heldTokens w else 0

def Recorded (w : DelegationWorkflowState) : Prop :=
  historyTokens w + draftTokens w ≤ spendTokens w

theorem historyTokens_recordEscalationAttempt (env : WorkflowEnv) (w : DelegationWorkflowState)
    (attempt : ModelDelegationEscalationAttempt) (promptTokens completionTokens : ℕ) :
    historyTokens (recordEscalationAttempt env w attempt promptTokens completionTokens) =
      historyTokens w + (promptTokens, completionTokens) := by
  simp [historyTokens, recordEscalationAttempt]

theorem Recorded.history (recorded : Recorded w) : historyTokens w ≤ spendTokens w :=
  (le_add_of_nonneg_right zero_le).trans recorded

theorem Recorded.of_history (elsewhere : w.state ≠ .inferenceCompleted)
    (carried : historyTokens w ≤ spendTokens w) : Recorded w := by
  unfold Recorded draftTokens
  rw [if_neg elsewhere, add_zero]
  exact carried

theorem Recorded.draft {subject : GateSubject} (recorded : Recorded w) (atGate : AtGate w subject) :
    historyTokens w + (w.inferencePromptTokens, w.inferenceCompletionTokens) ≤ spendTokens w := by
  have drafted : draftTokens w = (w.inferencePromptTokens, w.inferenceCompletionTokens) :=
    (if_pos atGate.completed).trans atGate.held
  exact drafted ▸ recorded

theorem EnumDelegationState.ne_inferenceCompleted {target : EnumDelegationState}
    (terminal : target.isTerminal = true) : target ≠ .inferenceCompleted := by
  rintro rfl
  cases terminal

theorem Leg.recorded (coherent : Coherent w) (recorded : Recorded w)
    (leg : Leg env nowNs w event w' outputs) (quiet : raisedTokens event outputs = 0) :
    Recorded w' := by
  have history := recorded.history
  cases leg with
  | ignored idle => exact recorded
  | replayed fresh => exact recorded
  | commanded fresh => exact .of_history nofun history
  | decided awaited issued => exact .of_history nofun history
  | @inferenceRaised response request decision _ raised attempting lookup noted =>
    obtain ⟨tier, refs, rfl⟩ := noted.frame
    have elsewhere : w.state ≠ .inferenceCompleted := by rw [attempting.routed]; nofun
    refine .of_history elsewhere ?_
    -- the failed response used no tokens, so the history does not grow
    have unpaid : (response.promptTokens, response.completionTokens) = (0 : Tokens) := quiet
    calc historyTokens (inferenceFailed env nowNs w decision response)
        = historyTokens w + (response.promptTokens, response.completionTokens) :=
          historyTokens_recordEscalationAttempt ..
      _ = historyTokens w := by rw [unpaid, add_zero]
      _ ≤ spendTokens w := history
  | @siblingRetried response request decision tier _ costUsd attempting failed onTier identified
      available =>
      refine .of_history nofun ?_
      rw [spendTokens_empty (coherent.routed attempting.routed).1] at history
      rw [spendTokens_rerouted]
      exact (historyTokens_recordEscalationAttempt ..).le.trans (add_le_add_left history _)
  | inferenceEscalated attempting failed noted next =>
    obtain ⟨tier, refs, rfl⟩ := noted.frame
    refine .of_history nofun ?_
    rw [spendTokens_empty (coherent.routed attempting.routed).1] at history
    rw [spendTokens_escalated]
    exact (historyTokens_recordEscalationAttempt ..).le.trans (add_le_add_left history _)
  | inferenceEnded attempting failed noted =>
    obtain ⟨tier, refs, rfl⟩ := noted.frame
    refine .of_history nofun ?_
    rw [spendTokens_empty (coherent.routed attempting.routed).1] at history
    exact (historyTokens_recordEscalationAttempt ..).le.trans (add_le_add_left history _)
  | forwarded attempting settled =>
    rw [spendTokens_empty (coherent.routed attempting.routed).1] at history
    exact add_le_add_left history _
  | repairAsked attempting due issued =>
    have elsewhere : w.state ≠ .inferenceCompleted := by rw [attempting.routed]; nofun
    exact .of_history elsewhere history
  | complianceRaised attempting settled => exact recorded
  | barOverflowed atGate => exact .of_history nofun history
  | gateEnded atGate terminal outcome settled =>
    have elsewhere := EnumDelegationState.ne_inferenceCompleted terminal
    rcases settled with rfl | ⟨authority, opened⟩
    · exact .of_history elsewhere history
    · obtain ⟨tier, count, rfl⟩ := opened.frame
      refine .of_history elsewhere ?_
      exact (historyTokens_recordEscalationAttempt ..).le.trans (recorded.draft atGate)
  | gateRaised atGate opened =>
    obtain ⟨tier, count, rfl⟩ := opened.frame
    refine .of_history nofun ?_
    exact (historyTokens_recordEscalationAttempt ..).le.trans (recorded.draft atGate)
  | localRetried atGate onTier opened budget left =>
    subst opened
    refine .of_history nofun ?_
    have drafted := recorded.draft atGate
    rw [spendTokens, atGate.held] at drafted
    rw [spendTokens_rerouted]
    exact (historyTokens_recordEscalationAttempt ..).le.trans drafted
  | gateEscalated atGate opened next =>
    obtain ⟨tier, count, rfl⟩ := opened.frame
    refine .of_history nofun ?_
    have drafted := recorded.draft atGate
    rw [spendTokens, atGate.held] at drafted
    rw [spendTokens_escalated]
    exact (historyTokens_recordEscalationAttempt ..).le.trans drafted
  | progressed routed => exact .of_history nofun history
  | lifecycleEnded active terminal outcome =>
    exact .of_history (EnumDelegationState.ne_inferenceCompleted terminal) history

/-! ## The terminal -/

def reportedTokens (result : ModelDelegationResult) : Tokens :=
  (result.cumulativeInputTokens, result.cumulativeOutputTokens)

theorem hoistMeteredHistoryTier_none (env : WorkflowEnv) (w : DelegationWorkflowState)
    (unserved : historyTokens w = 0) : hoistMeteredHistoryTier env w.escalationHistory = none := by
  unfold hoistMeteredHistoryTier
  rw [List.findSome?_eq_none_iff]
  intro attempt member
  have isEntry : (attempt.promptTokens, attempt.completionTokens) ∈
      w.escalationHistory.map fun attempt => (attempt.promptTokens, attempt.completionTokens) :=
    List.mem_map.mpr ⟨attempt, List.mem_reverse.mp member, rfl⟩
  have served : (attempt.promptTokens, attempt.completionTokens) ≤ (0 : Tokens) :=
    unserved ▸ List.single_le_sum (fun _ _ => zero_le) _ isEntry
  have none_ : attempt.promptTokens = 0 ∧ attempt.completionTokens = 0 :=
    ⟨Nat.le_zero.mp served.1, Nat.le_zero.mp served.2⟩
  unfold hoistAttempt
  rw [if_pos none_]
  exact ite_self none

structure CarriesLedger (env : WorkflowEnv) (w : DelegationWorkflowState)
    (inputs : TerminalEmissionInputs) : Prop where
  history : inputs.escalationHistory = w.escalationHistory
  summed : ((summedSpend env inputs).cumulativeInputTokens,
    (summedSpend env inputs).cumulativeOutputTokens) = spendTokens w

theorem CarriesLedger.reported (carries : CarriesLedger env w inputs) (recorded : Recorded w) :
    reportedTokens (terminalResult env inputs) = spendTokens w := by
  have intact : carriesNoSpend inputs (summedSpend env inputs) →
      hoistMeteredHistoryTier env inputs.escalationHistory = none := by
    rintro ⟨-, -, noInput, noOutput⟩
    have unserved : spendTokens w = 0 := by
      rw [← carries.summed, noInput, noOutput]
      rfl
    rw [carries.history]
    exact hoistMeteredHistoryTier_none env w (le_antisymm (unserved ▸ recorded.history) zero_le)
  have summed := terminalSpend_summed intact
  rw [← carries.summed, ← summed]
  rfl

theorem IssuesInference.no_result (issued : IssuesInference outputs) :
    result ∉ outputs.messages.filterMap Emission.terminal? := by
  rw [issued.no_terminal]
  exact List.not_mem_nil

theorem mem_terminal_singleton :
    result ∈ (Outputs.messages (.ok [emitTerminal env inputs])).filterMap Emission.terminal? ↔
      result = terminalResult env inputs := by
  simp

theorem Leg.terminal_carries (leg : Leg env nowNs w event w' outputs)
    (path : ∀ lifecycle, event ≠ .lifecycle lifecycle)
    (emitted : result ∈ outputs.messages.filterMap Emission.terminal?) :
    ∃ inputs, result = terminalResult env inputs ∧ CarriesLedger env w' inputs := by
  cases leg with
  | ignored idle => cases emitted
  | replayed fresh => cases emitted
  | commanded fresh => cases emitted
  | decided awaited issued => exact absurd emitted issued.no_result
  | inferenceRaised attempting lookup noted => cases emitted
  | siblingRetried attempting failed onTier identified available => cases emitted
  | inferenceEscalated attempting failed noted next => cases emitted
  | inferenceEnded attempting failed noted =>
    refine ⟨_, mem_terminal_singleton.mp emitted, rfl, ?_⟩
    exact Prod.ext (Nat.add_comm ..) (Nat.add_comm ..)
  | forwarded attempting settled => cases emitted
  | repairAsked attempting due issued => exact absurd emitted issued.no_result
  | complianceRaised attempting settled => cases emitted
  | barOverflowed atGate => cases emitted
  | gateEnded atGate terminal outcome recorded =>
    refine ⟨_, mem_terminal_singleton.mp emitted, rfl, ?_⟩
    have held := atGate.held
    rcases recorded with rfl | ⟨authority, opened⟩
    · refine Eq.trans ?_ (congrArg (bankedTokens w + ·) held).symm
      exact Prod.ext (Nat.add_comm ..) (Nat.add_comm ..)
    · obtain ⟨tier, count, rfl⟩ := opened.frame
      refine Eq.trans ?_ (congrArg (bankedTokens w + ·) held).symm
      exact Prod.ext (Nat.add_comm ..) (Nat.add_comm ..)
  | gateRaised atGate opened => cases emitted
  | localRetried atGate onTier opened budget left => cases emitted
  | gateEscalated atGate opened next => cases emitted
  | progressed routed => cases emitted
  | lifecycleEnded active terminal outcome => exact absurd rfl (path _)

/-! ## Runs -/

def spendOf (slot : Option DelegationWorkflowState) : Tokens := (slot.map spendTokens).getD 0

def consumedBy (t : SlotTransition) : Tokens :=
  match t.before, t.after with
  | some w, some w' => consumedTokens w t.event.event w'
  | _, _ => 0

noncomputable def repairedBy (env : WorkflowEnv) (t : SlotTransition) : Tokens :=
  match t.before with
  | some w => repairTokens env w t.event.event
  | none => 0

def raisedBy (t : SlotTransition) : Tokens := raisedTokens t.event.event t.output

def consumedInRun (env : WorkflowEnv) (deliveries : List Delivery) : Tokens :=
  ((slotRun env deliveries).map consumedBy).sum

theorem raisedTokens_silent (event : Event) (messages : List Emission) :
    raisedTokens event (.ok messages) = 0 := by
  cases event <;> rfl

theorem slotRun_balanced (taken : t ∈ slotRun env deliveries) :
    spendOf t.after + (repairedBy env t + raisedBy t) = spendOf t.before + consumedBy t := by
  obtain ⟨before, delivery, output, after⟩ := t
  have slotStep : SlotStep env before delivery after output := slotRun_steps taken
  cases slotStep with
  | absent => simp [spendOf, repairedBy, raisedBy, consumedBy, raisedTokens_silent]
  | created requested =>
    simp only [repairedBy, raisedBy, consumedBy, raisedTokens_silent]
    rfl
  | moved coherent leg => exact leg.balanced coherent

def LookupsKept (env : WorkflowEnv) (t : SlotTransition) : Prop :=
  ∀ w response, t.before = some w → t.event.event = .response response →
    LookupsRaise env w response → responseTokens response = 0

def RepairsKept (env : WorkflowEnv) (t : SlotTransition) : Prop :=
  ∀ w response, t.before = some w → t.event.event = .response response →
    Awaits w (.response response) → RepairDue env w response → responseTokens response = 0

theorem Leg.raised_lookup (leg : Leg env nowNs w event w' outputs)
    (kept : ∀ response, event = .response response → LookupsRaise env w response →
      responseTokens response = 0) : raisedTokens event outputs = 0 := by
  cases leg with
  | decided awaited issued => exact issued.not_raised _
  | inferenceRaised attempting lookup noted => exact kept _ rfl lookup
  | repairAsked attempting due issued => exact issued.not_raised _
  | complianceRaised attempting settled => rfl
  | barOverflowed atGate => rfl
  | gateRaised atGate opened => rfl
  | _ => exact raisedTokens_silent _ _

theorem raisedBy_eq_zero (taken : t ∈ slotRun env deliveries) (kept : LookupsKept env t) :
    raisedBy t = 0 := by
  obtain ⟨before, delivery, output, after⟩ := t
  have slotStep : SlotStep env before delivery after output := slotRun_steps taken
  cases slotStep with
  | absent => exact raisedTokens_silent _ _
  | created requested => exact raisedTokens_silent _ _
  | moved coherent leg => exact leg.raised_lookup fun response => kept _ response rfl

theorem repairedBy_eq_zero_iff : repairedBy env t = 0 ↔ RepairsKept env t := by
  obtain ⟨before, ⟨event, nowNs⟩, output, after⟩ := t
  cases before with
  | none => simp [repairedBy, RepairsKept]
  | some w =>
    cases event with
    | response response =>
      simp only [repairedBy, repairTokens, RepairsKept, Option.some.injEq, Event.response.injEq]
      constructor
      · rintro zero _ _ rfl rfl awaits due
        rwa [if_pos ⟨awaits, due⟩] at zero
      · intro kept
        split
        · rename_i answered
          exact kept w response rfl rfl answered.1 answered.2
        · rfl
    | _ => simp [repairedBy, repairTokens, RepairsKept]

def SlotRecorded (slot : Option DelegationWorkflowState) : Prop :=
  ∀ w, slot = some w → Recorded w

theorem slotRun_recorded (kept : ∀ t ∈ slotRun env deliveries, LookupsKept env t) :
    SlotRecorded (slotFinal env deliveries) := by
  refine (Trace.run_invariant (fun _ found => by cases found) ?_).1
  intro t taken recorded
  have quiet := raisedBy_eq_zero taken (kept t taken)
  obtain ⟨before, delivery, output, after⟩ := t
  have slotStep : SlotStep env before delivery after output := slotRun_steps taken
  cases slotStep with
  | absent => exact recorded
  | created requested =>
    intro w found
    cases found
    exact .of_history nofun le_rfl
  | moved coherent leg =>
    intro w found
    cases found
    exact leg.recorded coherent (recorded _ rfl) quiet

theorem slotFinal_snoc (deliveries : List Delivery) (delivery : Delivery) :
    slotFinal env (deliveries ++ [delivery]) = (step env (slotFinal env deliveries) delivery).1 :=
  Trace.final_append ..

theorem reportedTokens_eq_spend {delivery : Delivery} (emitted : result ∈
      (step env (slotFinal env deliveries) delivery).2.messages.filterMap Emission.terminal?)
    (path : ∀ lifecycle, delivery.event ≠ .lifecycle lifecycle)
    (recorded : SlotRecorded (slotFinal env (deliveries ++ [delivery]))) :
    reportedTokens result = spendOf (slotFinal env (deliveries ++ [delivery])) := by
  rw [slotFinal_snoc] at recorded ⊢
  have coherent := (slotRun_coherent env deliveries).1
  have slotStep := step_slotStep env coherent delivery
  generalize slotFinal env deliveries = before at *
  generalize step env before delivery = moved at *
  obtain ⟨after, outputs⟩ := moved
  dsimp only at *
  cases slotStep with
  | absent => cases emitted
  | created requested => cases emitted
  | moved coherent leg =>
    obtain ⟨inputs, rfl, carries⟩ := leg.terminal_carries path emitted
    exact carries.reported (recorded _ rfl)

/-- Where no lookup loses tokens, a terminal of the inference or gate path reports the
tokens of all consumed responses, each once, if and only if no response with tokens was
answered by a repair prompt. -/
theorem cumulative_tokens_iff {deliveries : List Delivery} {delivery : Delivery}
    {result : ModelDelegationResult} (emitted : result ∈
      (step env (slotFinal env deliveries) delivery).2.messages.filterMap Emission.terminal?)
    (path : ∀ lifecycle, delivery.event ≠ .lifecycle lifecycle)
    (lookups : ∀ t ∈ slotRun env (deliveries ++ [delivery]), LookupsKept env t) :
    reportedTokens result = consumedInRun env (deliveries ++ [delivery]) ↔
      ∀ t ∈ slotRun env (deliveries ++ [delivery]), RepairsKept env t := by
  have reported := reportedTokens_eq_spend emitted path (slotRun_recorded lookups)
  have ledger : spendOf (slotFinal env (deliveries ++ [delivery])) +
      ((slotRun env (deliveries ++ [delivery])).map (repairedBy env)).sum =
      consumedInRun env (deliveries ++ [delivery]) := by
    have balanced : ∀ t ∈ slotRun env (deliveries ++ [delivery]),
        spendOf t.after + repairedBy env t = spendOf t.before + consumedBy t := by
      intro t taken
      have step := slotRun_balanced taken
      rwa [raisedBy_eq_zero taken (lookups t taken), add_zero] at step
    exact (Trace.run_ledger balanced).trans (zero_add _)
  rw [reported, ← ledger, left_eq_add, List.sum_eq_zero_iff]
  simp only [List.mem_map, forall_exists_index, and_imp, forall_apply_eq_imp_iff₂]
  exact forall₂_congr fun t _ => repairedBy_eq_zero_iff

/-- A draft that the loop sends back for repair, then an empty provider answer. -/
def repairedThenEmpty : List Delivery :=
  sampleDeliver
    [.request (sampleRequest (some "review_output") 100 sampleTokens_pos),
     .decision (sampleDecision "local" "local-reasoner"),
     .response (sampleResponse "not json" "" 3 2)]

def plainAttempt : List Delivery :=
  sampleDeliver
    [.request (sampleRequest none 100 sampleTokens_pos),
     .decision (sampleDecision "local" "local-reasoner")]

def emptyAnswer : Delivery :=
  { event := .response (sampleResponse "" "Empty message content" 1 1), nowNs := 0 }

/-- Without a schema the empty answer is the only response, and it is reported. -/
theorem emptyAnswer_reported : ∃ result ∈ (step (sampleWorkflowEnv narrowMiddleConfig)
        (slotFinal (sampleWorkflowEnv narrowMiddleConfig) plainAttempt)
        emptyAnswer).2.messages.filterMap Emission.terminal?,
      (reportedTokens result =
          consumedInRun (sampleWorkflowEnv narrowMiddleConfig) (plainAttempt ++ [emptyAnswer]) ↔
        ∀ t ∈ slotRun (sampleWorkflowEnv narrowMiddleConfig) (plainAttempt ++ [emptyAnswer]),
          RepairsKept (sampleWorkflowEnv narrowMiddleConfig) t) := by
  have reported : ((step (sampleWorkflowEnv narrowMiddleConfig)
      (slotFinal (sampleWorkflowEnv narrowMiddleConfig) plainAttempt)
      emptyAnswer).2.messages.filterMap Emission.terminal?).map reportedTokens = [(1, 1)] := by
    decide +kernel
  obtain ⟨result, emitted, -⟩ := List.mem_map.mp (reported ▸ List.mem_singleton_self (1, 1))
  refine ⟨result, emitted, cumulative_tokens_iff emitted nofun ?_⟩
  intro t taken w response _ isResponse lookup
  obtain ⟨_, _, _, _, retryable, -⟩ := lookup
  have delivered := Trace.mem_events taken
  simp only [plainAttempt, sampleDeliver, List.map_cons, List.map_nil, List.cons_append,
    List.nil_append, List.mem_cons, List.not_mem_nil, or_false] at delivered
  rcases delivered with isEvent | isEvent | isEvent
  · rw [isEvent] at isResponse; cases isResponse
  · rw [isEvent] at isResponse; cases isResponse
  · rw [isEvent] at isResponse
    cases isResponse
    exact absurd retryable (by decide +kernel)

/-- The terminal reports the last attempt only; the repaired one is lost. -/
theorem repaired_tokens_unreported : ∃ result ∈ (step (sampleWorkflowEnv narrowMiddleConfig)
        (slotFinal (sampleWorkflowEnv narrowMiddleConfig) repairedThenEmpty)
        emptyAnswer).2.messages.filterMap Emission.terminal?,
      reportedTokens result ≠
        consumedInRun (sampleWorkflowEnv narrowMiddleConfig) (repairedThenEmpty ++ [emptyAnswer]) := by
  have consumed : consumedInRun (sampleWorkflowEnv narrowMiddleConfig)
      (repairedThenEmpty ++ [emptyAnswer]) = (4, 3) := by decide +kernel
  have reported : ((step (sampleWorkflowEnv narrowMiddleConfig)
      (slotFinal (sampleWorkflowEnv narrowMiddleConfig) repairedThenEmpty)
      emptyAnswer).2.messages.filterMap Emission.terminal?).map reportedTokens = [(1, 1)] := by
    decide +kernel
  obtain ⟨result, emitted, isOne⟩ := List.mem_map.mp (reported ▸ List.mem_singleton_self (1, 1))
  refine ⟨result, emitted, ?_⟩
  rw [isOne, consumed]
  decide

end OmniMarket.Delegation
