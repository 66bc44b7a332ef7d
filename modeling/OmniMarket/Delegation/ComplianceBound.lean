import OmniMarket.Delegation.Terminal
import Mathlib.Algebra.Order.BigOperators.Group.Finset

/-!
# The compliance repair loop

The loop has no attempt cap. Of the three dimensions of its budget only the tokens are
fed, so a provider that reports no tokens keeps it going forever.
-/

namespace OmniMarket.Delegation

variable {env : WorkflowEnv} {nowNs : ℤ} {w w' : DelegationWorkflowState}
  {request : ModelDelegationRequest} {decision : ModelRoutingDecision}
variable {schemaKey : String} {budget : ModelBudgetLimits}
  {response : ModelInferenceResponseData}
variable {runtime : ComplianceRuntime}

/-! ## Rejected responses -/

/-- The registered schema of `schemaKey`, if any, rejects the output. -/
def NonCompliant (runtime : ComplianceRuntime) (candidateOutput schemaKey : String) : Prop :=
  ∀ targetSchema, runtime.getSchema schemaKey = some targetSchema →
    ∃ head tail, validateAgainstSchema runtime candidateOutput targetSchema = .ok (head :: tail)

section

variable {candidateOutput : String} (rejected : NonCompliant runtime candidateOutput schemaKey)

include rejected

theorem NonCompliant.schemaRejects_iff :
    SchemaRejects runtime candidateOutput schemaKey ↔ runtime.getSchema schemaKey ≠ none := by
  constructor
  · rintro ⟨targetSchema, _, _, registered, _⟩ missing
    cases registered.symm.trans missing
  · intro registered
    obtain ⟨targetSchema, found⟩ := Option.ne_none_iff_exists'.mp registered
    obtain ⟨head, tail, validated⟩ := rejected targetSchema found
    exact ⟨targetSchema, head, tail, found, validated⟩

theorem NonCompliant.evaluates (originalPrompt : String)
    (attemptNumber cumulativeTokens attemptTokens : ℕ) (limits : ModelBudgetLimits) :
    ∃ result, evaluate runtime candidateOutput schemaKey originalPrompt attemptNumber
      cumulativeTokens attemptTokens limits = .ok result := by
  unfold evaluate
  cases registered : runtime.getSchema schemaKey with
  | none => exact ⟨_, rfl⟩
  | some targetSchema =>
    obtain ⟨head, tail, validated⟩ := rejected targetSchema registered
    simp only [validated]
    split
    · exact ⟨_, rfl⟩
    · exact ⟨_, rfl⟩

end

structure InLoop (w : DelegationWorkflowState) (request : ModelDelegationRequest)
    (decision : ModelRoutingDecision) (schemaKey : String) (budget : ModelBudgetLimits) : Prop where
  attempting : Attempting w request decision
  schema : request.outputSchemaKey = some schemaKey
  limits : request.complianceBudget = some budget

structure RejectedResponse (env : WorkflowEnv) (schemaKey : String)
    (response : ModelInferenceResponseData) : Prop where
  succeeded : response.errorMessage = ""
  rejected : NonCompliant env.compliance response.content schemaKey

def RepairAllowed (env : WorkflowEnv) (schemaKey : String) (budget : ModelBudgetLimits)
    (tokens : ℕ) : Prop :=
  env.compliance.getSchema schemaKey ≠ none ∧ tokens ≤ budget.maxTokens

theorem rejectedResponse_step (inLoop : InLoop w request decision schemaKey budget)
    (rejects : RejectedResponse env schemaKey response) :
    (RepairAllowed env schemaKey budget (w.accumulatedTokens + response.totalTokens) ∧
      ∃ prompt, step env (some w) { event := .response response, nowNs } =
        (some (repaired w (w.accumulatedTokens + response.totalTokens)),
          (issueInference env (repaired w (w.accumulatedTokens + response.totalTokens)) request
            decision prompt).outputs)) ∨
    (¬ RepairAllowed env schemaKey budget (w.accumulatedTokens + response.totalTokens) ∧
      ∃ w', w'.state = .inferenceCompleted ∧
        step env (some w) { event := .response response, nowNs } =
          (some w', .ok [.qualityGateIntent (gateInput request decision response)])) := by
  obtain ⟨⟨routed, known, decided⟩, schema, limits⟩ := inLoop
  obtain ⟨result, evaluated⟩ := rejects.rejected.evaluates request.prompt w.complianceAttempts
    w.accumulatedTokens response.totalTokens budget
  have tokens := (evaluate_spec evaluated).1
  have asks : result.asksRepair = true ↔
      RepairAllowed env schemaKey budget (w.accumulatedTokens + response.totalTokens) :=
    (evaluate_spec evaluated).2.trans (and_congr_left' rejects.rejected.schemaRejects_iff)
  have handled : handleInferenceResponse env nowNs w response =
      evaluateCompliance env w request decision schemaKey budget response := by
    simp only [handleInferenceResponse, routed, known, decided, schema, limits, rejects.succeeded,
      ne_eq, not_true_eq_false, if_false]
  simp only [step, handleExisting, handled, evaluateCompliance, evaluated, ← asks]
  by_cases repair : result.asksRepair = true
  · left
    refine ⟨repair, result.repairPrompt, ?_⟩
    rw [if_pos repair, advance_declared (by rw [routed]; decide), issueInference_workflow, tokens]
    have stays : { repaired w (w.accumulatedTokens + response.totalTokens) with
        state := .routed } = repaired w (w.accumulatedTokens + response.totalTokens) :=
      congrArg (fun s => { repaired w (w.accumulatedTokens + response.totalTokens) with
        state := s }) routed.symm
    rw [← stays]
    rfl
  · right
    rw [if_neg repair, forwardToGate, advance_declared (by rw [routed]; decide)]
    exact ⟨repair, _, rfl, rfl⟩

theorem InLoop.repaired (inLoop : InLoop w request decision schemaKey budget) (tokens : ℕ) :
    InLoop (repaired w tokens) request decision schemaKey budget :=
  ⟨⟨inLoop.attempting.routed, inLoop.attempting.known, inLoop.attempting.decided⟩,
    inLoop.schema, inLoop.limits⟩

theorem forwarded_ignores (forwarded : w.state = .inferenceCompleted)
    (response : ModelInferenceResponseData) :
    step env (some w) { event := .response response, nowNs } = (some w, .ok []) := by
  simp only [step, handleExisting, handleInferenceResponse, forwarded]
  rfl

/-! ## Streams of rejected responses -/

structure RejectedStream (env : WorkflowEnv) (schemaKey : String) where
  response : ℕ → ModelInferenceResponseData
  nowNs : ℕ → ℤ
  rejects : ∀ n, RejectedResponse env schemaKey (response n)

variable {stream : RejectedStream env schemaKey} {n : ℕ}

section

variable (stream : RejectedStream env schemaKey)

def RejectedStream.delivery (n : ℕ) : Delivery where
  event := .response (stream.response n)
  nowNs := stream.nowNs n

def RejectedStream.deliveries (n : ℕ) : List Delivery :=
  (List.range n).map stream.delivery

/-- The tokens that the first `n` responses report. -/
def RejectedStream.tokens (n : ℕ) : ℕ :=
  ∑ i ∈ Finset.range n, (stream.response i).totalTokens

end

section

variable (w : DelegationWorkflowState)

section

variable (stream : RejectedStream env schemaKey)

/-- The run of `w` on the first `n` responses. -/
abbrev loopRun (n : ℕ) :
    List SlotTransition :=
  Trace.run (step env) (some w) (stream.deliveries n)

abbrev loopFinal (n : ℕ) :
    Option DelegationWorkflowState :=
  Trace.final (step env) (some w) (stream.deliveries n)

/-- The repair intents that the first `n` responses cause. -/
def repairIntents (n : ℕ) :
    ℕ :=
  ((loopRun w stream n).map fun t => inferenceIntents t.output).sum

/-- One of the first `n` responses is forwarded to the quality gate. -/
def Forwards (n : ℕ) : Prop :=
  ∃ t ∈ loopRun w stream n, ∃ payload, t.output = .ok [.qualityGateIntent payload]

/-- Only finitely many repairs are asked for, and then the output is forwarded. -/
def RepairLoopEnds : Prop :=
  ∃ n, Forwards w stream n ∧ ∀ m, repairIntents w stream m ≤ n

end

end

theorem RejectedStream.deliveries_succ :
    stream.deliveries (n + 1) = stream.deliveries n ++ [stream.delivery n] := by
  rw [deliveries, List.range_succ, List.map_append, List.map_singleton, deliveries]

theorem loopRun_succ : loopRun w stream (n + 1) =
    loopRun w stream n ++ Trace.run (step env) (loopFinal w stream n) [stream.delivery n] := by
  rw [loopRun, RejectedStream.deliveries_succ, Trace.run_append]

theorem loopFinal_succ : loopFinal w stream (n + 1) =
    (step env (loopFinal w stream n) (stream.delivery n)).1 := by
  rw [loopFinal, RejectedStream.deliveries_succ, Trace.final_append]
  rfl

theorem repairIntents_succ : repairIntents w stream (n + 1) = repairIntents w stream n +
    inferenceIntents (step env (loopFinal w stream n) (stream.delivery n)).2 := by
  rw [repairIntents, loopRun_succ, List.map_append, List.sum_append]
  rfl

/-! ## While repairs are allowed -/

/-- Each of the first `n` responses is followed by a repair. -/
def RepairsThrough (w : DelegationWorkflowState) (budget : ModelBudgetLimits)
    (stream : RejectedStream env schemaKey) (n : ℕ) : Prop :=
  ∀ i < n, RepairAllowed env schemaKey budget (w.accumulatedTokens + stream.tokens (i + 1))

theorem RejectedStream.tokens_succ :
    stream.tokens (n + 1) = stream.tokens n + (stream.response n).totalTokens :=
  Finset.sum_range_succ ..

theorem RejectedStream.tokens_mono {m : ℕ} (le : m ≤ n) : stream.tokens m ≤ stream.tokens n :=
  Finset.sum_le_sum_of_subset (Finset.range_mono le)

section

variable (inLoop : InLoop w request decision schemaKey budget)
  (allowed : RepairsThrough w budget stream n)

include inLoop allowed

/-- After `n` repairs the workflow is still in the loop, with the tokens added up. -/
theorem loopFinal_open :
    ∃ wn, loopFinal w stream n = some wn ∧ InLoop wn request decision schemaKey budget ∧
      wn.accumulatedTokens = w.accumulatedTokens + stream.tokens n := by
  induction n with
  | zero => exact ⟨w, rfl, inLoop, rfl⟩
  | succ n ih =>
    obtain ⟨wn, reached, stays, tokens⟩ := ih fun i lt => allowed i (Nat.lt_succ_of_lt lt)
    have total : wn.accumulatedTokens + (stream.response n).totalTokens =
        w.accumulatedTokens + stream.tokens (n + 1) := by
      rw [tokens, RejectedStream.tokens_succ, Nat.add_assoc]
    rcases @rejectedResponse_step env (stream.nowNs n) wn request decision schemaKey budget
      (stream.response n) stays (stream.rejects n) with ⟨_, prompt, stepped⟩ | ⟨refused, _⟩
    · rw [loopFinal_succ, reached]
      refine ⟨repaired wn _, congrArg Prod.fst stepped, stays.repaired _, ?_⟩
      exact total
    · rw [total] at refused
      exact absurd (allowed n (Nat.lt_succ_self n)) refused

theorem loopRun_open : ∀ t ∈ loopRun w stream n, ∃ wn prompt,
      t.output = (issueInference env wn request decision prompt).outputs := by
  induction n with
  | zero => exact fun t taken => by cases taken
  | succ n ih =>
    have before : RepairsThrough w budget stream n := fun i lt => allowed i (Nat.lt_succ_of_lt lt)
    obtain ⟨wn, reached, stays, tokens⟩ := loopFinal_open inLoop before
    intro t taken
    rw [loopRun_succ, reached] at taken
    rcases List.mem_append.mp taken with earlier | last
    · exact ih before t earlier
    · rw [List.mem_singleton.mp last]
      rcases @rejectedResponse_step env (stream.nowNs n) wn request decision schemaKey budget
        (stream.response n) stays (stream.rejects n) with ⟨_, prompt, stepped⟩ | ⟨refused, _⟩
      · exact ⟨_, prompt, congrArg Prod.snd stepped⟩
      · rw [tokens, Nat.add_assoc, ← RejectedStream.tokens_succ] at refused
        exact absurd (allowed n (Nat.lt_succ_self n)) refused

theorem repairIntents_open : repairIntents w stream n ≤ n := by
  have length : (loopRun w stream n).length = n := by
    rw [← List.length_map (·.event), Trace.run_events, RejectedStream.deliveries,
      List.length_map, List.length_range]
  have each : ∀ count ∈ (loopRun w stream n).map fun t => inferenceIntents t.output,
      count ≤ 1 := by
    intro count member
    obtain ⟨t, taken, rfl⟩ := List.mem_map.mp member
    obtain ⟨wn, prompt, issued⟩ := loopRun_open inLoop allowed t taken
    rw [issued]
    exact (issueInference_issues request decision prompt).intents_le
  calc repairIntents w stream n
    _ ≤ ((loopRun w stream n).map fun t => inferenceIntents t.output).length • 1 :=
        List.sum_le_card_nsmul _ 1 each
    _ = n := by simp [length]

theorem not_forwards_open : ¬ Forwards w stream n := by
  rintro ⟨t, taken, payload, forwarded⟩
  obtain ⟨wn, prompt, issued⟩ := loopRun_open inLoop allowed t taken
  have issues := @issueInference_issues env wn request decision prompt
  rw [← issued, forwarded] at issues
  rcases issues with ⟨intent, same⟩ | ⟨message, same⟩ <;> cases same

end

/-! ## The first refused repair -/

theorem forwarded_stays {n' : ℕ} {wn : DelegationWorkflowState}
    (forwarded : wn.state = .inferenceCompleted) (reached : loopFinal w stream n = some wn)
    (later : n ≤ n') :
    loopFinal w stream n' = some wn ∧ repairIntents w stream n' = repairIntents w stream n := by
  induction n', later using Nat.le_induction with
  | base => exact ⟨reached, rfl⟩
  | succ m _ ih =>
    have ignores := @forwarded_ignores env (stream.nowNs m) wn forwarded (stream.response m)
    rw [loopFinal_succ, repairIntents_succ, ih.1, ih.2]
    exact ⟨congrArg Prod.fst ignores, congrArg (fun moved => _ + inferenceIntents moved.2) ignores⟩

theorem loop_closes (inLoop : InLoop w request decision schemaKey budget)
    (allowed : RepairsThrough w budget stream n)
    (refused : ¬ RepairAllowed env schemaKey budget (w.accumulatedTokens + stream.tokens (n + 1))) :
    RepairLoopEnds w stream := by
  obtain ⟨wn, reached, stays, tokens⟩ := loopFinal_open inLoop allowed
  have total : wn.accumulatedTokens + (stream.response n).totalTokens =
      w.accumulatedTokens + stream.tokens (n + 1) := by
    rw [tokens, RejectedStream.tokens_succ, Nat.add_assoc]
  rcases @rejectedResponse_step env (stream.nowNs n) wn request decision schemaKey budget
    (stream.response n) stays (stream.rejects n) with ⟨goesOn, _⟩ | ⟨_, w', forwarded, stepped⟩
  · exact absurd (total ▸ goesOn) refused
  · have closed : loopFinal w stream (n + 1) = some w' := by
      rw [loopFinal_succ, reached]
      exact congrArg Prod.fst stepped
    have lastOutput : (step env (loopFinal w stream n) (stream.delivery n)).2 =
        .ok [.qualityGateIntent (gateInput request decision (stream.response n))] := by
      rw [reached]
      exact congrArg Prod.snd stepped
    have counted : repairIntents w stream (n + 1) ≤ n := by
      rw [repairIntents_succ, lastOutput]
      exact repairIntents_open inLoop allowed
    refine ⟨n + 1, ?_, ?_⟩
    · rw [Forwards, loopRun_succ]
      refine ⟨_, List.mem_append_right _ (List.mem_singleton_self _), _, lastOutput⟩
    · intro m
      rcases Nat.lt_or_ge n m with after | before
      · rw [(forwarded_stays forwarded closed after).2]
        exact counted.trans (Nat.le_succ n)
      · have within : RepairsThrough w budget stream m := fun i lt =>
          allowed i (Nat.lt_of_lt_of_le lt before)
        exact (repairIntents_open inLoop within).trans (before.trans (Nat.le_succ n))

/-- On a stream of rejected responses the loop ends if and only if the schema is not
registered or the tokens that the responses report exceed the token limit. Neither the
cost nor the time limit ends it. -/
theorem repair_loop_ends_iff (inLoop : InLoop w request decision schemaKey budget)
    (stream : RejectedStream env schemaKey) :
    RepairLoopEnds w stream ↔ env.compliance.getSchema schemaKey = none ∨
      ∃ n, budget.maxTokens < w.accumulatedTokens + stream.tokens n := by
  classical
  constructor
  · rintro ⟨n, forwards, -⟩
    by_contra within
    obtain ⟨registered, fits⟩ := not_or.mp within
    refine not_forwards_open (n := n) inLoop ?_ forwards
    intro i _
    exact ⟨registered, Nat.le_of_not_lt fun exceeds => fits ⟨i + 1, exceeds⟩⟩
  · intro condition
    have refused : ∃ n, ¬ RepairAllowed env schemaKey budget
        (w.accumulatedTokens + stream.tokens (n + 1)) := by
      rcases condition with missing | ⟨n, exceeds⟩
      · exact ⟨0, fun allowed => allowed.1 missing⟩
      · refine ⟨n, fun allowed => ?_⟩
        have grown : stream.tokens n ≤ stream.tokens (n + 1) :=
          RejectedStream.tokens_mono (Nat.le_succ n)
        have fits := allowed.2
        omega
    refine loop_closes inLoop ?_ (Nat.find_spec refused)
    intro i lt
    exact not_not.mp (Nat.find_min refused lt)

/-! ## A provider without token counts -/

theorem repairIntents_eq (inLoop : InLoop w request decision schemaKey budget)
    (directives : ∀ systemPrompt prompt model taskType, ∃ resolved,
      env.applyInferenceProtocol systemPrompt prompt model taskType = .ok resolved)
    (allowed : RepairsThrough w budget stream n) : repairIntents w stream n = n := by
  induction n with
  | zero => rfl
  | succ n ih =>
    have before : RepairsThrough w budget stream n := fun i lt => allowed i (Nat.lt_succ_of_lt lt)
    obtain ⟨wn, prompt, issued⟩ : ∃ wn prompt,
        (step env (loopFinal w stream n) (stream.delivery n)).2 =
          (issueInference env wn request decision prompt).outputs :=
      loopRun_open inLoop allowed ⟨loopFinal w stream n, stream.delivery n, _, _⟩
        (loopRun_succ ▸ List.mem_append_right _ (List.mem_singleton_self _))
    rw [repairIntents_succ, ih before, issued, issueInference]
    obtain ⟨resolved, loaded⟩ := directives decision.systemPrompt
      (promptWithContextPack request prompt) decision.selectedModel request.taskType
    rw [loaded]
    rfl

def reviewAttempt : DelegationWorkflowState :=
  dispatched
    (newWorkflow (sampleWorkflowEnv narrowMiddleConfig) 0
      (sampleRequest (some "review_output") 100 sampleTokens_pos))
    (sampleDecision "local" "local-reasoner") 1

/-- A provider that answers in prose and reports `tokens` tokens each time. -/
def proseStream (tokens : ℕ) :
    RejectedStream (sampleWorkflowEnv narrowMiddleConfig) "review_output" where
  response _ := sampleResponse "I reviewed it." "" tokens 0
  nowNs _ := 0
  rejects _ := ⟨rfl, fun _ _ => ⟨_, _, rfl⟩⟩

theorem reviewAttempt_inLoop : InLoop reviewAttempt
    (sampleRequest (some "review_output") 100 sampleTokens_pos)
    (sampleDecision "local" "local-reasoner") "review_output"
    { maxTokens := 100, maxCostUsd := 1, maxTimeS := 1
      maxTokens_pos := by decide, maxCostUsd_pos := by decide, maxTimeS_pos := by decide } :=
  ⟨⟨rfl, rfl, rfl⟩, rfl, rfl⟩

theorem proseStream_tokens (tokens n : ℕ) : (proseStream tokens).tokens n = n * tokens := by
  rw [RejectedStream.tokens]
  simp [proseStream, sampleResponse]

/-- Two answers of sixty tokens exceed the limit of a hundred. -/
theorem metered_provider_ends : RepairLoopEnds reviewAttempt (proseStream 60) :=
  (repair_loop_ends_iff reviewAttempt_inLoop (proseStream 60)).mpr
    (Or.inr ⟨2, by rw [proseStream_tokens]; decide⟩)

/-- The review attempt is reached by a request and its decision; a provider that reports no
tokens is then sent one repair after the other, and nothing reaches the gate. -/
theorem tokenless_provider_loops : slotFinal (sampleWorkflowEnv narrowMiddleConfig) (sampleDeliver
        [.request (sampleRequest (some "review_output") 100 sampleTokens_pos),
         .decision (sampleDecision "local" "local-reasoner")]) = some reviewAttempt ∧
      (∀ n, repairIntents reviewAttempt (proseStream 0) n = n) ∧
      ¬ RepairLoopEnds reviewAttempt (proseStream 0) := by
  have allowed : ∀ n, RepairsThrough reviewAttempt
      { maxTokens := 100, maxCostUsd := 1, maxTimeS := 1
        maxTokens_pos := by decide, maxCostUsd_pos := by decide, maxTimeS_pos := by decide }
      (proseStream 0) n := by
    intro n i _
    rw [proseStream_tokens, Nat.mul_zero]
    exact ⟨nofun, by decide⟩
  have repaired (n : ℕ) : repairIntents reviewAttempt (proseStream 0) n = n :=
    repairIntents_eq reviewAttempt_inLoop (fun _ _ _ _ => ⟨_, rfl⟩) (allowed n)
  refine ⟨by decide +kernel, repaired, ?_⟩
  rintro ⟨n, -, bounded⟩
  have exceeded := bounded (n + 1)
  rw [repaired] at exceeded
  exact absurd exceeded (Nat.not_succ_le_self n)

end OmniMarket.Delegation
