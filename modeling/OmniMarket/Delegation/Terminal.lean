import OmniMarket.Delegation.Inversion

/-!
# Coherent workflows and their terminal event

What every reachable workflow satisfies, that it ends at most once, and what a redelivered event does.
-/

/-!
# Coherence of reachable workflows
-/

namespace OmniMarket.Delegation
variable {deliveries : List Delivery}

section

variable {env : WorkflowEnv} {nowNs : ℤ} {w w' : DelegationWorkflowState}

theorem NotedFailure.frame {failedBackendRef : String}
    (noted : NotedFailure w failedBackendRef w') :
    ∃ tier refs, w' = { w with
      sameTierFailedBackendTier := tier
      sameTierFailedBackendRefs := refs } := by
  rcases noted with rfl | ⟨tier, -, -, rfl⟩
  · exact ⟨w'.sameTierFailedBackendTier, w'.sameTierFailedBackendRefs, rfl⟩
  · exact ⟨_, _, rfl⟩

theorem OpenedRetries.frame (opened : OpenedRetries w w') :
    ∃ tier count, w' = { w with localRetryTier := tier, localRetryCount := count } := by
  rcases opened with rfl | ⟨tier, -, rfl⟩
  · exact ⟨w'.localRetryTier, w'.localRetryCount, rfl⟩
  · exact ⟨_, _, rfl⟩

theorem Attempting.awaits {request : ModelDelegationRequest} {decision : ModelRoutingDecision}
    {response : ModelInferenceResponseData} (attempting : Attempting w request decision) :
    Awaits w (.response response) :=
  ⟨attempting.routed, by rw [attempting.decided]; nofun⟩

theorem AtGate.awaits {subject : GateSubject} {result : ModelQualityGateResult}
    (atGate : AtGate w subject) : Awaits w (.gateResult result) :=
  atGate.completed

/-! ## Preservation -/

theorem Coherent.of_quiet (known : w.request.isSome)
    (quiet : w.state = .executing ∨ w.state = .gateEvaluated ∨ w.state.isTerminal = true) :
    Coherent w where
  known := known
  received := fun state => by simp [state, EnumDelegationState.isTerminal] at quiet
  routed := fun state => by simp [state, EnumDelegationState.isTerminal] at quiet
  completed := fun state => by simp [state, EnumDelegationState.isTerminal] at quiet
  settled := fun state => by simp [state, EnumDelegationState.isTerminal] at quiet

theorem Coherent.of_routed (known : w.request.isSome) (routed : w.state = .routed)
    (empty : w.inferenceContent = none)
    (flight : w.inferenceIntentInFlight = w.routingDecision.isSome) : Coherent w where
  known := known
  received := fun state => by cases routed.symm.trans state
  routed := fun _ => ⟨empty, flight⟩
  completed := fun state => by cases routed.symm.trans state
  settled := fun state => by cases routed.symm.trans state

theorem Coherent.rerouted {costUsd : ℚ} {promptTokens completionTokens : ℕ}
    (known : w.request.isSome) : Coherent (rerouted w costUsd promptTokens completionTokens) :=
  .of_routed known rfl rfl rfl

theorem Coherent.escalated {costUsd : ℚ} {promptTokens completionTokens : ℕ}
    (known : w.request.isSome) : Coherent (escalated w costUsd promptTokens completionTokens) :=
  .of_routed known rfl rfl rfl

theorem Coherent.newWorkflow (request : ModelDelegationRequest) :
    Coherent (newWorkflow env nowNs request) where
  known := rfl
  received := fun _ => ⟨rfl, rfl, rfl⟩
  routed := nofun
  completed := nofun
  settled := nofun

theorem Leg.coherent {event : Event} {outputs : Outputs} (coherent : Coherent w)
    (leg : Leg env nowNs w event w' outputs) : Coherent w' := by
  have known := coherent.known
  cases leg with
  | ignored idle => exact coherent
  | replayed fresh =>
    exact ⟨known, coherent.received, coherent.routed, coherent.completed, coherent.settled⟩
  | commanded fresh =>
    obtain ⟨empty, undecided, idle⟩ := coherent.received fresh
    exact .of_routed known rfl empty (idle.trans (undecided ▸ rfl))
  | decided awaited issued =>
    refine .of_routed known rfl ?_ rfl
    -- the decision answers the first routing or a later one
    rcases awaited with received | ⟨routed, -⟩
    · exact (coherent.received received).1
    · exact (coherent.routed routed).1
  | inferenceRaised attempting lookup noted =>
    obtain ⟨tier, refs, rfl⟩ := noted.frame
    have kept := coherent.routed attempting.routed
    exact .of_routed known attempting.routed kept.1 kept.2
  | siblingRetried attempting failed onTier identified available => exact .rerouted known
  | inferenceEscalated attempting failed noted next =>
    obtain ⟨tier, refs, rfl⟩ := noted.frame
    exact .escalated known
  | inferenceEnded attempting failed noted =>
    obtain ⟨tier, refs, rfl⟩ := noted.frame
    exact .of_quiet known (Or.inr (Or.inr rfl))
  | @forwarded response request decision tokens attempting settled =>
    have drafted : (gateSubject? { recordInferenceResponse w response with
        state := .inferenceCompleted
        accumulatedTokens := tokens }).isSome :=
      Option.isSome_iff_exists.mpr ⟨⟨request, decision, response.content, response.modelUsed⟩,
        gateSubject?_eq_some.mpr ⟨attempting.known, attempting.decided, rfl, rfl⟩⟩
    exact ⟨known, nofun, nofun, fun _ => drafted, nofun⟩
  | repairAsked attempting due issued =>
    have kept := coherent.routed attempting.routed
    exact .of_routed known attempting.routed kept.1 (attempting.decided ▸ rfl)
  | complianceRaised attempting settled => exact coherent
  | barOverflowed atGate => exact .of_quiet known (Or.inr (Or.inl rfl))
  | gateEnded atGate terminal outcome recorded =>
    rcases recorded with rfl | ⟨authority, opened⟩
    · exact .of_quiet known (Or.inr (Or.inr terminal))
    · obtain ⟨tier, count, rfl⟩ := opened.frame
      exact .of_quiet known (Or.inr (Or.inr terminal))
  | gateRaised atGate opened =>
    obtain ⟨tier, count, rfl⟩ := opened.frame
    exact .of_quiet known (Or.inr (Or.inl rfl))
  | localRetried atGate onTier opened budget left =>
    subst opened
    exact .rerouted known
  | gateEscalated atGate opened next =>
    obtain ⟨tier, count, rfl⟩ := opened.frame
    exact .escalated known
  | progressed routed => exact .of_quiet known (Or.inl rfl)
  | lifecycleEnded active terminal outcome => exact .of_quiet known (Or.inr (Or.inr terminal))

/-! ## Runs -/

/-- The slot of a correlation id holds no workflow or a coherent one of that id. -/
def SlotCoherent (slot : Option DelegationWorkflowState) : Prop :=
  ∀ w, slot = some w → Coherent w

/-- What a transition of one correlation id is. -/
inductive SlotStep (env : WorkflowEnv) : Option DelegationWorkflowState → Delivery →
    Option DelegationWorkflowState → Outputs → Prop where
  | absent {delivery : Delivery} : SlotStep env none delivery none (.ok [])
  | created {delivery : Delivery} {request : ModelDelegationRequest}
      (requested : delivery.event = .request request) :
      SlotStep env none delivery (some (newWorkflow env delivery.nowNs request))
        (.ok [.routingIntent { payload := request }])
  | moved {delivery : Delivery} {w w' : DelegationWorkflowState} {outputs : Outputs}
      (coherent : Coherent w) (leg : Leg env delivery.nowNs w delivery.event w' outputs) :
      SlotStep env (some w) delivery (some w') outputs

theorem step_slotStep (env : WorkflowEnv) {slot : Option DelegationWorkflowState}
    (coherent : SlotCoherent slot) (delivery : Delivery) :
    SlotStep env slot delivery (step env slot delivery).1 (step env slot delivery).2 := by
  cases slot with
  | none =>
    obtain ⟨event, nowNs⟩ := delivery
    cases event with
    | request payload => exact .created rfl
    | command payload => exact .absent
    | decision payload => exact .absent
    | response payload => exact .absent
    | gateResult payload => exact .absent
    | lifecycle payload => exact .absent
  | some w => exact .moved (coherent w rfl) (handleExisting_leg (coherent w rfl) delivery.event)

theorem SlotStep.coherent {slot slot' : Option DelegationWorkflowState} {delivery : Delivery}
    {outputs : Outputs} (taken : SlotStep env slot delivery slot' outputs) :
    SlotCoherent slot' := by
  cases taken with
  | absent => exact fun w found => by cases found
  | created requested =>
    intro w found
    cases found
    exact .newWorkflow _
  | moved coherent leg =>
    intro w found
    cases found
    exact leg.coherent coherent

theorem slotCoherent_none : SlotCoherent none := fun _ found => by cases found

theorem slotRun_coherent (env : WorkflowEnv) (deliveries : List Delivery) :
    SlotCoherent (slotFinal env deliveries) ∧
      ∀ t ∈ slotRun env deliveries, SlotCoherent t.before := by
  refine Trace.run_invariant slotCoherent_none ?_
  intro t taken coherent
  have stepped := Trace.run_steps taken
  have kept := (step_slotStep env coherent t.event).coherent
  rwa [stepped] at kept

theorem slotRun_steps {t : SlotTransition} (taken : t ∈ slotRun env deliveries) :
    SlotStep env t.before t.event t.after t.output := by
  have stepped := Trace.run_steps taken
  have coherent := (slotRun_coherent env deliveries).2 t taken
  have slotStep := step_slotStep env coherent t.event
  rwa [stepped] at slotStep

end

/-!
# Terminal uniqueness
-/

section

variable {env : WorkflowEnv} {nowNs : ℤ} {w w' : DelegationWorkflowState}
  {event : Event} {outputs : Outputs}

/-! ## One call -/

/-- The terminal message of a workflow that ended in `state`. -/
def terminalEmission (state : EnumDelegationState) (result : ModelDelegationResult) : Emission :=
  if state = .completed then .delegationCompleted result else .delegationFailed result

def EndsDelegation (event : Event) (w w' : DelegationWorkflowState) (outputs : Outputs) : Prop :=
  w.state.isTerminal = false ∧ w'.state.isTerminal = true ∧
    ∃ result, result.correlationId = event.correlationId ∧
      outputs = .ok [terminalEmission w'.state result]

/-- The call neither ends the delegation nor emits a terminal message. -/
def GoesOn (w w' : DelegationWorkflowState) (outputs : Outputs) : Prop :=
  w'.state.isTerminal = w.state.isTerminal ∧ outputs.messages.filterMap Emission.terminal? = []

theorem IssuesInference.no_terminal (issued : IssuesInference outputs) :
    outputs.messages.filterMap Emission.terminal? = [] := by
  rcases issued with ⟨intent, rfl⟩ | ⟨message, rfl⟩ <;> rfl

variable {inputs : TerminalEmissionInputs} {state : EnumDelegationState}

theorem emitTerminal_eq (outcome : inputs.completed = true ↔ state = .completed) :
    emitTerminal env inputs = terminalEmission state (terminalResult env inputs) := by
  simp only [emitTerminal, terminalEmission, outcome]

theorem EndsDelegation.of_inputs (before : w.state.isTerminal = false)
    (after : w'.state.isTerminal = true) (same : inputs.correlationId = event.correlationId)
    (outcome : inputs.completed = true ↔ w'.state = .completed) :
    EndsDelegation event w w' (.ok [emitTerminal env inputs]) :=
  ⟨before, after, terminalResult env inputs, same, by rw [emitTerminal_eq outcome]⟩

theorem Leg.terminal_cases (leg : Leg env nowNs w event w' outputs) :
    EndsDelegation event w w' outputs ∨ GoesOn w w' outputs := by
  cases leg with
  | ignored idle => exact Or.inr ⟨rfl, rfl⟩
  | replayed fresh => exact Or.inr ⟨rfl, rfl⟩
  | commanded fresh => exact Or.inr ⟨by rw [fresh]; rfl, rfl⟩
  | decided awaited issued =>
    refine Or.inr ⟨?_, issued.no_terminal⟩
    rcases awaited with received | ⟨routed, -⟩
    · rw [received]; rfl
    · rw [routed]; rfl
  | inferenceRaised attempting lookup noted =>
    exact Or.inr ⟨congrArg _ noted.state, rfl⟩
  | siblingRetried attempting failed onTier identified available =>
    exact Or.inr ⟨by rw [attempting.routed]; rfl, rfl⟩
  | inferenceEscalated attempting failed noted next =>
    exact Or.inr ⟨by rw [attempting.routed]; rfl, rfl⟩
  | inferenceEnded attempting failed noted =>
    have before : w.state.isTerminal = false := by rw [attempting.routed]; rfl
    exact Or.inl (.of_inputs before rfl rfl (iff_of_false nofun nofun))
  | forwarded attempting settled => exact Or.inr ⟨by rw [attempting.routed]; rfl, rfl⟩
  | repairAsked attempting due issued =>
    exact Or.inr ⟨rfl, issued.no_terminal⟩
  | complianceRaised attempting settled => exact Or.inr ⟨rfl, rfl⟩
  | barOverflowed atGate => exact Or.inr ⟨by rw [atGate.completed]; rfl, rfl⟩
  | gateEnded atGate terminal outcome recorded =>
    have before : w.state.isTerminal = false := by rw [atGate.completed]; rfl
    exact Or.inl (.of_inputs before terminal rfl outcome)
  | gateRaised atGate opened =>
    refine Or.inr ⟨?_, rfl⟩
    rw [opened.state, atGate.completed]
    rfl
  | localRetried atGate onTier opened budget left =>
    exact Or.inr ⟨by rw [atGate.completed]; rfl, rfl⟩
  | gateEscalated atGate opened next => exact Or.inr ⟨by rw [atGate.completed]; rfl, rfl⟩
  | progressed routed => exact Or.inr ⟨by rw [routed]; rfl, rfl⟩
  | lifecycleEnded active terminal outcome =>
    have before : w.state.isTerminal = false := by
      rcases active with routed | executing
      · rw [routed]; rfl
      · rw [executing]; rfl
    exact Or.inl (.of_inputs before terminal rfl outcome)

theorem Leg.ended (leg : Leg env nowNs w event w' outputs) (ended : w.state.isTerminal = true) :
    w' = w ∧ outputs = .ok [] := by
  have stuck {state : EnumDelegationState} (here : w.state = state) :
      state.isTerminal = true := here ▸ ended
  cases leg with
  | ignored idle => exact ⟨rfl, rfl⟩
  | replayed fresh => cases stuck fresh
  | commanded fresh => cases stuck fresh
  | decided awaited issued =>
    rcases awaited with received | ⟨routed, -⟩
    · cases stuck received
    · cases stuck routed
  | inferenceRaised attempting lookup noted => cases stuck attempting.routed
  | siblingRetried attempting failed onTier identified available => cases stuck attempting.routed
  | inferenceEscalated attempting failed noted next => cases stuck attempting.routed
  | inferenceEnded attempting failed noted => cases stuck attempting.routed
  | forwarded attempting settled => cases stuck attempting.routed
  | repairAsked attempting due issued =>
    cases stuck attempting.routed
  | complianceRaised attempting settled => cases stuck attempting.routed
  | barOverflowed atGate => cases stuck atGate.completed
  | gateEnded atGate terminal outcome recorded => cases stuck atGate.completed
  | gateRaised atGate opened => cases stuck atGate.completed
  | localRetried atGate onTier opened budget left => cases stuck atGate.completed
  | gateEscalated atGate opened next => cases stuck atGate.completed
  | progressed routed => cases stuck routed
  | lifecycleEnded active terminal outcome =>
    rcases active with routed | executing
    · cases stuck routed
    · cases stuck executing

theorem IssuesInference.declared (issued : IssuesInference outputs)
    (source target : EnumDelegationState) (cid : UUID) :
    outputs ≠ .error (.invalidStateTransition source target cid) := by
  rcases issued with ⟨intent, rfl⟩ | ⟨message, rfl⟩ <;> nofun

theorem Leg.declared (leg : Leg env nowNs w event w' outputs) (source target : EnumDelegationState)
    (cid : UUID) : outputs ≠ .error (.invalidStateTransition source target cid) := by
  cases leg with
  | decided awaited issued => exact issued.declared source target cid
  | repairAsked attempting due issued =>
    exact issued.declared source target cid
  | _ => nofun

/-! ## One correlation id -/

def Ended (slot : Option DelegationWorkflowState) : Prop :=
  ∃ w, slot = some w ∧ w.state.isTerminal = true

instance (slot : Option DelegationWorkflowState) : Decidable (Ended slot) :=
  decidable_of_iff (slot.any (·.state.isTerminal) = true) (by cases slot <;> simp [Ended])

/-- The terminal messages for `cid` among what a call published. -/
def terminalsFor (cid : UUID) (outputs : Outputs) : List Emission :=
  outputs.messages.filter fun message => message.terminal?.any (·.correlationId == cid)

theorem terminalEmission_terminal (state : EnumDelegationState) (result : ModelDelegationResult) :
    (terminalEmission state result).terminal? = some result := by
  unfold terminalEmission
  split <;> rfl

variable {cid : UUID}

theorem terminalsFor_none (silent : outputs.messages.filterMap Emission.terminal? = []) :
    terminalsFor cid outputs = [] := by
  unfold terminalsFor
  rw [List.filter_eq_nil_iff]
  intro message member
  have absent := List.filterMap_eq_nil_iff.mp silent message member
  simp [absent]

theorem terminalsFor_terminal {result : ModelDelegationResult} :
    terminalsFor cid (.ok [terminalEmission state result]) =
      if result.correlationId = cid then [terminalEmission state result] else [] := by
  simp [terminalsFor, List.filter_cons, terminalEmission_terminal]

variable {slot slot' : Option DelegationWorkflowState} {delivery : Delivery}

section

variable (taken : SlotStep env slot delivery slot' outputs)

include taken

theorem SlotStep.terminal_cases :
    (¬ Ended slot ∧ ∃ w' result, slot' = some w' ∧ w'.state.isTerminal = true ∧
      result.correlationId = delivery.correlationId ∧
      outputs = .ok [terminalEmission w'.state result]) ∨
    ((Ended slot' ↔ Ended slot) ∧ outputs.messages.filterMap Emission.terminal? = []) := by
  cases taken with
  | absent => exact Or.inr ⟨Iff.rfl, rfl⟩
  | created requested =>
    refine Or.inr ⟨?_, rfl⟩
    constructor
    · rintro ⟨w, found, ended⟩
      cases found
      cases ended
    · rintro ⟨w, found, -⟩
      cases found
  | @moved _ w w' _ coherent leg =>
    rcases leg.terminal_cases with ⟨open_, ended, result, same, emitted⟩ | ⟨kept, silent⟩
    · refine Or.inl ⟨?_, w', result, rfl, ended, same, emitted⟩
      rintro ⟨other, found, closed⟩
      cases found
      rw [open_] at closed
      cases closed
    · refine Or.inr ⟨?_, silent⟩
      simp [Ended, kept]

theorem SlotStep.ended (ended : Ended slot) : slot' = slot ∧ outputs = .ok [] := by
  obtain ⟨w, found, closed⟩ := ended
  cases taken with
  | absent => cases found
  | created requested => cases found
  | moved coherent leg =>
    cases found
    obtain ⟨same, silent⟩ := leg.ended closed
    exact ⟨congrArg some same, silent⟩

theorem SlotStep.declared (source target : EnumDelegationState) (cid : UUID) :
    outputs ≠ .error (.invalidStateTransition source target cid) := by
  cases taken with
  | absent => nofun
  | created requested => nofun
  | moved coherent leg => exact leg.declared source target cid

end

/-! ## The whole map -/

abbrev MapTransition := Trace.Transition Workflows Delivery Outputs

abbrev mapRun (env : WorkflowEnv) (deliveries : List Delivery) : List MapTransition :=
  Trace.run (handle env) emptyWorkflows deliveries

def MapCoherent (workflows : Workflows) : Prop := ∀ cid, SlotCoherent (workflows cid)

variable {t : MapTransition}

section

variable (taken : t ∈ mapRun env deliveries)

include taken

theorem mapRun_coherent : MapCoherent t.before := by
  have preserved : ∀ t ∈ mapRun env deliveries, MapCoherent t.before → MapCoherent t.after := by
    intro t taken coherent cid
    have after := congrArg Prod.fst (Trace.run_steps taken)
    dsimp only at after
    by_cases here : t.event.correlationId = cid
    · subst here
      rw [← after, handle, Trace.keyed_same]
      exact (step_slotStep env (coherent _) t.event).coherent
    · rw [← after, handle, Trace.keyed_other t.event here]
      exact coherent cid
  have initial : MapCoherent emptyWorkflows := fun _ => slotCoherent_none
  exact (Trace.run_invariant initial preserved).2 t taken

theorem mapRun_slotStep :
    SlotStep env (t.before t.event.correlationId) t.event (t.after t.event.correlationId)
      t.output := by
  have stepped := Trace.run_steps taken
  have slotStep := step_slotStep env (mapRun_coherent taken t.event.correlationId) t.event
  have after := congrFun (congrArg Prod.fst stepped) t.event.correlationId
  have output := congrArg Prod.snd stepped
  dsimp only at after output
  rw [← after, ← output, handle]
  unfold Delivery.correlationId at *
  rwa [Trace.keyed_same]

theorem mapRun_frame (other : t.event.correlationId ≠ cid) : t.after cid = t.before cid := by
  have after := congrArg Prod.fst (Trace.run_steps taken)
  dsimp only at after
  rw [← after]
  exact Trace.keyed_other t.event other

theorem mapRun_terminalsFor_other
    (other : t.event.correlationId ≠ cid) : terminalsFor cid t.output = [] := by
  rcases (mapRun_slotStep taken).terminal_cases with ⟨-, w', result, -, -, same, emitted⟩ | kept
  · rw [emitted, terminalsFor_terminal, if_neg]
    exact fun isCid => other (same.symm.trans isCid)
  · exact terminalsFor_none kept.2

/-- A transition has a terminal message for `cid` exactly when it ends the delegation. -/
theorem mapRun_terminalsFor (cid : UUID) :
    (¬ Ended (t.before cid) ∧ ∃ w result, t.after cid = some w ∧ w.state.isTerminal = true ∧
      terminalsFor cid t.output = [terminalEmission w.state result]) ∨
    ((Ended (t.after cid) ↔ Ended (t.before cid)) ∧ terminalsFor cid t.output = []) := by
  by_cases here : t.event.correlationId = cid
  · subst here
    rcases (mapRun_slotStep taken).terminal_cases with
      ⟨open_, w', result, after, ended, same, emitted⟩ | ⟨kept, silent⟩
    · refine Or.inl ⟨open_, w', result, after, ended, ?_⟩
      rw [emitted, terminalsFor_terminal, if_pos same]
    · exact Or.inr ⟨kept, terminalsFor_none silent⟩
  · refine Or.inr ⟨?_, mapRun_terminalsFor_other taken here⟩
    rw [mapRun_frame taken here]

end

def terminalsLeft (cid : UUID) (workflows : Workflows) : ℕ :=
  if Ended (workflows cid) then 0 else 1

theorem mapRun_terminals_le_one (env : WorkflowEnv) (deliveries : List Delivery) (cid : UUID) :
    ((mapRun env deliveries).map fun t => (terminalsFor cid t.output).length).sum ≤ 1 := by
  have pays : ∀ t ∈ mapRun env deliveries,
      (terminalsFor cid t.output).length + terminalsLeft cid t.after ≤
        terminalsLeft cid t.before := by
    intro t taken
    rcases mapRun_terminalsFor taken cid with
      ⟨open_, w, result, after, ended, emitted⟩ | ⟨kept, silent⟩
    · have closed : Ended (t.after cid) := ⟨w, after, ended⟩
      simp [terminalsLeft, emitted, open_, closed]
    · rw [silent]
      exact le_of_eq ((Nat.zero_add _).trans (if_congr kept rfl rfl))
  have bounded : ((mapRun env deliveries).map fun t => (terminalsFor cid t.output).length).sum +
      _ ≤ _ := Trace.run_potential pays
  have atMost : terminalsLeft cid emptyWorkflows ≤ 1 := by
    unfold terminalsLeft
    split <;> omega
  omega

/-- Every run from the empty map, over any events in any order: at most one terminal
message for a correlation id, emitted exactly by the step that ends its delegation and
in the class of the state it enters; an ended delegation never changes; and no call
raises on an undeclared transition. -/
theorem terminal_unique (env : WorkflowEnv) (deliveries : List Delivery) (cid : UUID) :
    ((mapRun env deliveries).map fun t => (terminalsFor cid t.output).length).sum ≤ 1 ∧
    ∀ t ∈ mapRun env deliveries,
      (terminalsFor cid t.output ≠ [] ↔ ¬ Ended (t.before cid) ∧ Ended (t.after cid)) ∧
      (∀ message ∈ terminalsFor cid t.output, ∃ w result, t.after cid = some w ∧
        message = terminalEmission w.state result) ∧
      (Ended (t.before cid) → t.after cid = t.before cid) ∧
      ∀ source target id, t.output ≠ .error (.invalidStateTransition source target id) := by
  refine ⟨mapRun_terminals_le_one env deliveries cid, ?_⟩
  intro t taken
  refine ⟨?_, ?_, ?_, (mapRun_slotStep taken).declared⟩
  · rcases mapRun_terminalsFor taken cid with
      ⟨open_, w, result, after, ended, emitted⟩ | ⟨kept, silent⟩
    · exact iff_of_true (by simp [emitted]) ⟨open_, w, after, ended⟩
    · exact iff_of_false (by simp [silent]) fun enters => enters.1 (kept.mp enters.2)
  · intro message member
    rcases mapRun_terminalsFor taken cid with
      ⟨open_, w, result, after, ended, emitted⟩ | ⟨kept, silent⟩
    · rw [emitted, List.mem_singleton] at member
      exact ⟨w, result, after, member⟩
    · simp [silent] at member
  · intro ended
    by_cases here : t.event.correlationId = cid
    · subst here
      exact ((mapRun_slotStep taken).ended ended).1
    · exact mapRun_frame taken here

/-! ## Interleavings -/

theorem flatMap_filter {α β : Type} {spoken : α → List β} {keep : α → Bool} {items : List α}
    (silent : ∀ item ∈ items, keep item = false → spoken item = []) :
    items.flatMap spoken = (items.filter keep).flatMap spoken := by
  induction items with
  | nil => rfl
  | cons item rest ih =>
    have later := ih fun other listed => silent other (List.mem_cons_of_mem _ listed)
    rw [List.flatMap_cons, later]
    cases kept : keep item with
    | true => rw [List.filter_cons_of_pos kept, List.flatMap_cons]
    | false =>
      rw [List.filter_cons_of_neg (by simp [kept]), silent item List.mem_cons_self kept,
        List.nil_append]

/-- However the deliveries of several delegations are interleaved, each delegation answers, ends
and publishes its terminals as it does when its deliveries come alone. -/
theorem interleaving_independent (env : WorkflowEnv) (deliveries : List Delivery) (cid : UUID) :
    let own := deliveries.filter fun delivery => delivery.correlationId = cid
    ((mapRun env deliveries).filter fun t => t.event.correlationId = cid).map (·.output) =
        (slotRun env own).map (·.output) ∧
      Trace.final (handle env) emptyWorkflows deliveries cid = slotFinal env own ∧
      (mapRun env deliveries).flatMap (terminalsFor cid ·.output) =
        (slotRun env own).flatMap (terminalsFor cid ·.output) := by
  intro own
  have answers : ((mapRun env deliveries).filter fun t => t.event.correlationId = cid).map
      (·.output) = (slotRun env own).map (·.output) := Trace.outputs_keyed cid deliveries
  refine ⟨answers, Trace.final_keyed cid deliveries, ?_⟩
  have silent : ∀ t ∈ mapRun env deliveries,
      decide (t.event.correlationId = cid) = false → terminalsFor cid t.output = [] :=
    fun t taken other => mapRun_terminalsFor_other taken (of_decide_eq_false other)
  rw [flatMap_filter silent, List.flatMap_def, List.flatMap_def,
    ← Function.comp_def (terminalsFor cid), ← Function.comp_def (terminalsFor cid),
    ← List.map_map, ← List.map_map, answers]

end

/-!
# Replayed events

Nothing tells a fresh routing decision, inference response or gate result from one
that was consumed before: only the kind that the workflow waits for counts.
-/

section

variable {env : WorkflowEnv} {nowNs : ℤ} {w w' : DelegationWorkflowState}
  {event : Event} {outputs : Outputs}

/-- The events that carry an answer to something the workflow has emitted. -/
def Event.isAnswer : Event → Bool
  | .decision _ => true
  | .response _ => true
  | .gateResult _ => true
  | _ => false

def SlotAwaits (slot : Option DelegationWorkflowState) (event : Event) : Prop :=
  ∃ w, slot = some w ∧ Awaits w event

/-- The call leaves the workflow as it was and emits nothing. -/
def Ignores (env : WorkflowEnv) (slot : Option DelegationWorkflowState) (delivery : Delivery) :
    Prop :=
  step env slot delivery = (slot, .ok [])

/-! ## One call -/

theorem Leg.idle (leg : Leg env nowNs w event w' outputs) (answer : event.isAnswer = true)
    (idle : ¬ Awaits w event) : w' = w ∧ outputs = .ok [] := by
  cases leg with
  | ignored _ => exact ⟨rfl, rfl⟩
  | replayed fresh => cases answer
  | commanded fresh => cases answer
  | decided awaited issued => exact absurd awaited idle
  | inferenceRaised attempting lookup noted => exact absurd attempting.awaits idle
  | siblingRetried attempting failed onTier identified available =>
    exact absurd attempting.awaits idle
  | inferenceEscalated attempting failed noted next => exact absurd attempting.awaits idle
  | inferenceEnded attempting failed noted => exact absurd attempting.awaits idle
  | forwarded attempting settled => exact absurd attempting.awaits idle
  | repairAsked attempting due issued => exact absurd attempting.awaits idle
  | complianceRaised attempting settled => exact absurd attempting.awaits idle
  | barOverflowed atGate => exact absurd atGate.awaits idle
  | gateEnded atGate terminal outcome recorded => exact absurd atGate.awaits idle
  | gateRaised atGate opened => exact absurd atGate.awaits idle
  | localRetried atGate onTier opened budget left => exact absurd atGate.awaits idle
  | gateEscalated atGate opened next => exact absurd atGate.awaits idle
  | progressed routed => cases answer
  | lifecycleEnded active terminal outcome => cases answer

theorem IssuesInference.speaks (issued : IssuesInference outputs) : outputs ≠ .ok [] := by
  rcases issued with ⟨intent, rfl⟩ | ⟨message, rfl⟩ <;> nofun

theorem Leg.speaks (leg : Leg env nowNs w event w' outputs) (awaited : Awaits w event) :
    outputs ≠ .ok [] := by
  cases leg with
  | ignored idle => exact absurd awaited idle
  | decided awaited issued => exact issued.speaks
  | repairAsked attempting due issued => exact issued.speaks
  | progressed routed => exact absurd awaited id
  | _ => nofun

/-! ## Reachable workflows -/

/-- In every reachable state, delivering an answer (for the first time or again) changes
nothing and emits nothing if and only if the workflow does not wait for its kind. -/
theorem replay_ignored_iff {deliveries : List Delivery} {event : Event} {nowNs : ℤ}
    (answer : event.isAnswer = true) :
    Ignores env (slotFinal env deliveries) { event, nowNs } ↔
      ¬ SlotAwaits (slotFinal env deliveries) event := by
  have coherent := (slotRun_coherent env deliveries).1
  have slotStep := step_slotStep env coherent { event, nowNs }
  unfold Ignores
  generalize slotFinal env deliveries = slot at *
  generalize step env slot { event, nowNs } = moved at *
  obtain ⟨after, outputs⟩ := moved
  dsimp only at slotStep
  cases slotStep with
  | absent => exact iff_of_true rfl (by simp [SlotAwaits])
  | created requested =>
    dsimp only at requested
    rw [requested] at answer
    cases answer
  | @moved _ w w' _ coherent leg =>
    constructor
    · rintro silent ⟨other, found, awaited⟩
      cases found
      exact leg.speaks awaited (congrArg Prod.snd silent)
    · intro idle
      obtain ⟨same, silent⟩ := leg.idle answer fun awaited => idle ⟨w, rfl, awaited⟩
      rw [same, silent]

/-- While the inference of a decision is in flight, a second copy is ignored. -/
theorem inFlight_ignores_replay :
    Ignores (sampleWorkflowEnv narrowMiddleConfig)
        (slotFinal (sampleWorkflowEnv narrowMiddleConfig) (sampleDeliver
          [.request (sampleRequest none 100 sampleTokens_pos),
           .decision (sampleDecision "local" "local-reasoner")]))
        { event := .decision (sampleDecision "local" "local-reasoner"), nowNs := 0 } ↔
      ¬ SlotAwaits
        (slotFinal (sampleWorkflowEnv narrowMiddleConfig) (sampleDeliver
          [.request (sampleRequest none 100 sampleTokens_pos),
           .decision (sampleDecision "local" "local-reasoner")]))
        (.decision (sampleDecision "local" "local-reasoner")) :=
  replay_ignored_iff rfl

/-- The local backend is unreachable, so the workflow escalates and waits for a decision. -/
def escalatedOnce : List Delivery :=
  sampleDeliver
    [.request (sampleRequest none 100 sampleTokens_pos),
     .decision (sampleDecision "local" "local-reasoner"),
     .response (sampleResponse "" "connection refused" 1 0)]

/-- The decision that the escalation left behind is accepted once more: the consumed
event emits a second inference intent to the tier that failed. -/
theorem escalation_accepts_replay :
    (∃ t ∈ slotRun (sampleWorkflowEnv narrowMiddleConfig) escalatedOnce,
      t.event.event = .decision (sampleDecision "local" "local-reasoner") ∧ t.after ≠ t.before) ∧
    ¬ Ignores (sampleWorkflowEnv narrowMiddleConfig)
      (slotFinal (sampleWorkflowEnv narrowMiddleConfig) escalatedOnce)
      { event := .decision (sampleDecision "local" "local-reasoner"), nowNs := 0 } := by
  constructor
  · refine ⟨_, List.mem_cons_of_mem _ (List.mem_cons_self ..), rfl, ?_⟩
    decide +kernel
  · intro silent
    have emitted : ((step (sampleWorkflowEnv narrowMiddleConfig)
        (slotFinal (sampleWorkflowEnv narrowMiddleConfig) escalatedOnce)
        { event := .decision (sampleDecision "local" "local-reasoner"),
          nowNs := 0 }).2.messages.filter Emission.isInferenceIntent).length = 1 := by
      decide +kernel
    rw [silent] at emitted
    cases emitted

end

end OmniMarket.Delegation
