import OmniMarket.SwarmDispatch.Handler
import OmniMarket.Lib.Raising

/-!
# Terminal events of a swarm run

A response event moves a run only forward: no transition leaves a terminal state, the state is
persisted before the event is published, and the completed event is published once. The
initial command does not look at the stored state. It puts the run back to `RECEIVED`, and
when its publish is refused it publishes the failed event without storing the failed state.
-/

namespace OmniMarket.SwarmDispatch
variable {expected : EnumSwarmOrchestratorState} {runId : String} {published : List Message}
  {system : System} {store : RunStore} {run : ModelOrchestratorState} {text : SwarmText}

/-! ## The property -/

section

variable (runId : String)

def terminals (messages : List Message) : ℕ :=
  messages.countP (Message.terminalOf runId)

def StoredTerminal (store : RunStore) : Prop :=
  ∃ run, store.get? runId = some run ∧ run.fsmState.isTerminal = true

/-- At most one terminal event, and a terminal state beside it. -/
structure TerminalSafe (system : System) : Prop where
  unique : terminals runId system.published ≤ 1
  stored : 0 < terminals runId system.published → StoredTerminal runId system.store

def TerminalUnique (text : SwarmText) (runId : String) (deliveries : List Delivery) : Prop :=
  ∀ t ∈ Trace.run (step text) start deliveries, TerminalSafe runId t.after

/-! ## The condition -/

section

variable (request : ModelSwarmDispatchRequest)

/-- The command that the initial delivery publishes. -/
def healthCheckOf : Message :=
  .checkEndpointHealth ⟨request.endpointIds, request.correlationId, request.runId⟩

/-- The event that a refused initial delivery publishes. -/
def failureOf (error : String) : Message :=
  .dispatchFailed
    ⟨request.runId, request.correlationId, .failed, .failed, error, request.task.value⟩

/-- The bus refuses the command and then accepts the failed event. -/
def FailsPublicly (bus : Bus) : Prop :=
  ∃ error, bus (healthCheckOf request) = some error ∧ bus (failureOf request error) = none

end

def InitialInOrder (before : System) : Delivery → Prop
  | .dispatch request bus =>
    request.runId = runId → terminals runId before.published = 0 ∧ ¬ FailsPublicly request bus
  | .response .. => True

/-! ## Messages and the store -/

@[simp] theorem terminals_append (before after : List Message) :
    terminals runId (before ++ after) = terminals runId before + terminals runId after :=
  List.countP_append

theorem flush_initial (bus : Bus) (messages : List Message) : (flush bus messages).1 <+: messages := by
  induction messages with
  | nil => exact List.prefix_rfl
  | cons message rest ih =>
    rw [flush]
    split
    · exact List.nil_prefix
    · exact List.cons_prefix_cons.2 ⟨rfl, ih⟩

theorem terminals_flush_le (bus : Bus) (messages : List Message) :
    terminals runId (flush bus messages).1 ≤ terminals runId messages :=
  (flush_initial bus messages).sublist.countP_le

end

def Keyed (store : RunStore) : Prop := ∀ key run, store.get? key = some run → run.runId = key

theorem Keyed.persist (keyed : Keyed store) (run : ModelOrchestratorState) :
    Keyed (persistState store run) := by
  intro key held found
  by_cases same : key = run.runId
  · subst same
    rw [persistState, OrderedDict.get?_set_self] at found
    cases found
    rfl
  · rw [persistState, OrderedDict.get?_set_other same] at found
    exact keyed key held found

/-! ## Transitions -/

structure Advances (run next : ModelOrchestratorState) (publishes : List Message) : Prop where
  sameRun : next.runId = run.runId
  notTerminal : run.fsmState.isTerminal = false
  own : ∀ runId, 0 < terminals runId publishes → runId = run.runId
  once : ∀ runId, terminals runId publishes ≤ 1
  completes : ∀ runId, 0 < terminals runId publishes → next.fsmState.isTerminal = true

theorem assertState_ok {done : Unit}
    (returned : assertState run expected = .ok done) : run.fsmState = expected := by
  unfold assertState at returned
  split at returned
  · cases returned
  · next same => exact Decidable.not_not.1 same

theorem terminals_singleton (runId : String) (message : Message) :
    terminals runId [message] = if message.terminalOf runId then 1 else 0 :=
  List.countP_singleton

theorem Advances.command {run next : ModelOrchestratorState} {message : Message}
    (sameRun : next.runId = run.runId) (notTerminal : run.fsmState.isTerminal = false)
    (command : ∀ runId, message.terminalOf runId = false) : Advances run next [message] := by
  have none_ : ∀ runId, terminals runId [message] = 0 := by
    intro runId
    rw [terminals_singleton, command runId]
    rfl
  refine ⟨sameRun, notTerminal, ?_, ?_, ?_⟩
  · intro runId positive
    rw [none_ runId] at positive
    exact absurd positive (Nat.lt_irrefl 0)
  · intro runId
    rw [none_ runId]
    exact Nat.zero_le 1
  · intro runId positive
    rw [none_ runId] at positive
    exact absurd positive (Nat.lt_irrefl 0)

theorem Advances.asserted {run next : ModelOrchestratorState} {message : Message} {done : Unit}
    (asserted : assertState run expected = .ok done) (live : expected.isTerminal = false)
    (sameRun : next.runId = run.runId) (command : ∀ runId, message.terminalOf runId = false) :
    Advances run next [message] := by
  refine .command sameRun ?_ command
  rw [assertState_ok asserted]
  exact live

section

variable {text : SwarmText} {run next : ModelOrchestratorState} {event : PyDict}
  {publishes : List Message}

theorem transitionHealthChecked_spec
    (moved : transitionHealthChecked text run event = .ok (next, publishes)) :
    Advances run next publishes := by
  obtain ⟨_, asserted, parsed⟩ := Raising.bind_eq_ok.1 moved
  obtain ⟨_, -, returned⟩ := Raising.bind_eq_ok.1 parsed
  cases returned
  exact .asserted asserted rfl rfl fun _ => rfl

theorem transitionDecomposed_spec
    (moved : transitionDecomposed text run event = .ok (next, publishes)) :
    Advances run next publishes := by
  obtain ⟨_, asserted, parsed⟩ := Raising.bind_eq_ok.1 moved
  obtain ⟨_, -, returned⟩ := Raising.bind_eq_ok.1 parsed
  cases returned
  exact .asserted asserted rfl rfl fun _ => rfl

theorem transitionEndpointsSelected_spec
    (moved : transitionEndpointsSelected text run event = .ok (next, publishes)) :
    Advances run next publishes := by
  obtain ⟨_, asserted, parsed⟩ := Raising.bind_eq_ok.1 moved
  obtain ⟨_, -, returned⟩ := Raising.bind_eq_ok.1 parsed
  cases returned
  exact .asserted asserted rfl rfl fun _ => rfl

theorem transitionDispatching_spec
    (moved : transitionDispatching text run event = .ok (next, publishes)) :
    Advances run next publishes := by
  obtain ⟨_, asserted, parsed⟩ := Raising.bind_eq_ok.1 moved
  obtain ⟨_, -, timed⟩ := Raising.bind_eq_ok.1 parsed
  obtain ⟨_, -, returned⟩ := Raising.bind_eq_ok.1 timed
  cases returned
  exact .asserted asserted rfl rfl fun _ => rfl

/-- The aggregation event moves a run from `DISPATCHING` to `COMPLETED`. -/
theorem routeAggregating_spec
    (moved : routeTransition text run event .aggregating = .ok (next, publishes)) :
    Advances run next publishes := by
  obtain ⟨⟨aggregated, none_⟩, aggregates, completes⟩ := Raising.bind_eq_ok.1 moved
  obtain ⟨_, dispatching, measured⟩ := Raising.bind_eq_ok.1 aggregates
  obtain ⟨_, -, returned⟩ := Raising.bind_eq_ok.1 measured
  cases returned
  obtain ⟨_, -, completed⟩ := Raising.bind_eq_ok.1 completes
  cases completed
  refine ⟨rfl, by rw [assertState_ok dispatching]; rfl, ?_, ?_, ?_⟩
  · intro runId positive
    rw [terminals_singleton] at positive
    by_cases own : run.runId = runId
    · exact own.symm
    · have other : (run.runId == runId) = false := beq_false_of_ne own
      change 0 < if (run.runId == runId) = true then 1 else 0 at positive
      rw [other, if_neg Bool.false_ne_true] at positive
      exact absurd positive (Nat.lt_irrefl 0)
  · intro runId
    exact List.countP_le_length
  · intro runId _
    rfl

theorem routeTransition_spec {key : RoutingKey}
    (moved : routeTransition text run event key = .ok (next, publishes)) :
    Advances run next publishes := by
  cases key with
  | healthChecked => exact transitionHealthChecked_spec moved
  | decomposed => exact transitionDecomposed_spec moved
  | endpointsSelected => exact transitionEndpointsSelected_spec moved
  | dispatching => exact transitionDispatching_spec moved
  | aggregating => exact routeAggregating_spec moved

end

/-! ## Response events -/

theorem loadRun_stored {topic : String} {payload : PyDict} {key : RoutingKey} (keyed : Keyed store)
    (loaded : loadRun store topic payload = .ok (run, key)) : store.get? run.runId = some run := by
  unfold loadRun at loaded
  dsimp only at loaded
  split at loaded
  · cases loaded
  · split at loaded
    · cases loaded
    · split at loaded
      · cases loaded
      · next found =>
        cases loaded
        obtain ⟨runId, -, held⟩ := Option.bind_eq_some_iff.1 found
        rw [keyed runId run held]
        exact held

theorem routeEvent_cases (text : SwarmText) (keyed : Keyed store)
    (topic : String) (payload : PyDict) (bus : Bus) :
    ((routeEvent text store topic payload bus).store = store ∧
        (routeEvent text store topic payload bus).published = []) ∨
      ∃ run next publishes, store.get? run.runId = some run ∧ Advances run next publishes ∧
        (routeEvent text store topic payload bus).store = persistState store next ∧
        (routeEvent text store topic payload bus).published = (flush bus publishes).1 := by
  unfold routeEvent
  split
  · exact .inl ⟨rfl, rfl⟩
  · next run key loaded =>
    split
    · exact .inl ⟨rfl, rfl⟩
    · next next publishes moved =>
      exact .inr ⟨run, next, publishes, loadRun_stored keyed loaded, routeTransition_spec moved,
        rfl, rfl⟩

theorem StoredTerminal.persist_other
    (other : runId ≠ run.runId) (held : StoredTerminal runId store) :
    StoredTerminal runId (persistState store run) := by
  obtain ⟨found, stored, terminal⟩ := held
  exact ⟨found, by rw [persistState, OrderedDict.get?_set_other other]; exact stored, terminal⟩

theorem TerminalSafe.response (keyed : Keyed store)
    (safe : TerminalSafe runId ⟨store, published⟩) (text : SwarmText) (topic : String)
    (payload : PyDict) (bus : Bus) : TerminalSafe runId
      ⟨(routeEvent text store topic payload bus).store,
        published ++ (routeEvent text store topic payload bus).published⟩ := by
  rcases routeEvent_cases text keyed topic payload bus with
    ⟨unchanged, silent⟩ | ⟨run, next, publishes, stored, advances, persisted, flushed⟩
  · rw [unchanged, silent, List.append_nil]
    exact safe
  · rw [persisted, flushed]
    have few := terminals_flush_le runId bus publishes
    by_cases own : runId = run.runId
    · -- the run is not terminal, so its terminal event has not been published
      have open_ : terminals runId published = 0 := by
        refine Nat.eq_zero_of_not_pos ?_
        intro positive
        obtain ⟨found, held, terminal⟩ := safe.stored positive
        dsimp only at held
        rw [own, stored] at held
        cases held
        rw [advances.notTerminal] at terminal
        exact Bool.false_ne_true terminal
      refine ⟨?_, ?_⟩
      · rw [terminals_append, open_, Nat.zero_add]
        exact few.trans (advances.once runId)
      · intro positive
        rw [terminals_append, open_, Nat.zero_add] at positive
        refine ⟨next, ?_, advances.completes runId (positive.trans_le few)⟩
        show (persistState store next).get? runId = some next
        rw [own, ← advances.sameRun, persistState, OrderedDict.get?_set_self]
    · -- the event belongs to another run
      have silent : terminals runId (flush bus publishes).1 = 0 := by
        refine Nat.eq_zero_of_not_pos ?_
        intro positive
        exact own (advances.own runId (positive.trans_le few))
      refine ⟨?_, ?_⟩
      · rw [terminals_append, silent]
        exact safe.unique
      · intro positive
        rw [terminals_append, silent] at positive
        exact (safe.stored positive).persist_other (advances.sameRun ▸ own)

/-! ## Initial commands -/

section

variable (text : SwarmText) (store : RunStore) (request : ModelSwarmDispatchRequest) (bus : Bus)

/-- An initial command puts the run to `RECEIVED` in every case, and publishes its health check,
its failure or nothing. -/
theorem handleAsyncInitial_cases :
    (handleAsyncInitial text store request bus).store =
        persistState store (initialState request) ∧
      (((handleAsyncInitial text store request bus).published = [healthCheckOf request] ∧
          ¬ FailsPublicly request bus) ∨
        ((handleAsyncInitial text store request bus).published = [] ∧ ¬ FailsPublicly request bus) ∨
        (∃ error, (handleAsyncInitial text store request bus).published =
          [failureOf request error]) ∧ FailsPublicly request bus) := by
  have received : transitionReceived (initialState request) request =
      .ok (initialState request, [healthCheckOf request]) := rfl
  unfold handleAsyncInitial
  rw [received]
  dsimp only
  cases checked : bus (healthCheckOf request) with
  | none =>
    have flushed : flush bus [healthCheckOf request] = ([healthCheckOf request], .ok ()) := by
      simp only [flush, checked]
    rw [flushed]
    refine ⟨rfl, .inl ⟨rfl, ?_⟩⟩
    rintro ⟨error, refused, -⟩
    rw [checked] at refused
    cases refused
  | some error =>
    have flushed : flush bus [healthCheckOf request] =
        ([], .error (.publishRefused error)) := by
      simp only [flush, checked]
    -- the health check was refused, so the failed event is next
    have failed : (transitionFailed (initialState request) error request).2 =
        [failureOf request error] := rfl
    rw [flushed]
    dsimp only [failInitial, RouteError.message]
    rw [failed]
    cases failing : bus (failureOf request error) with
    | none =>
      refine ⟨rfl, .inr (.inr ⟨⟨error, ?_⟩, error, checked, failing⟩)⟩
      simp only [flush, failing, List.nil_append]
    | some other =>
      refine ⟨rfl, .inr (.inl ⟨?_, ?_⟩)⟩
      · simp only [flush, failing, List.nil_append]
      · rintro ⟨shown, refused, accepted⟩
        rw [checked] at refused
        cases refused
        rw [failing] at accepted
        cases accepted

theorem terminals_healthCheck (runId : String) : terminals runId [healthCheckOf request] = 0 := rfl

theorem terminals_failure_self (error : String) :
    terminals request.runId [failureOf request error] = 1 := by
  rw [terminals_singleton]
  exact if_pos (beq_self_eq_true request.runId)

theorem terminals_failure_other (other : request.runId ≠ runId) (error : String) :
    terminals runId [failureOf request error] = 0 := by
  rw [terminals_singleton]
  exact if_neg (by rw [show (failureOf request error).terminalOf runId =
    (request.runId == runId) from rfl, beq_false_of_ne other]; exact Bool.false_ne_true)

theorem initial_terminals (quiet : request.runId = runId → ¬ FailsPublicly request bus) :
    terminals runId (handleAsyncInitial text store request bus).published = 0 := by
  obtain ⟨-, ⟨published, -⟩ | ⟨published, -⟩ | ⟨⟨error, published⟩, fails⟩⟩ :=
    handleAsyncInitial_cases text store request bus
  · rw [published]
    exact terminals_healthCheck request runId
  · rw [published]
    rfl
  · rw [published]
    exact terminals_failure_other request (fun own => quiet own fails) error

theorem initial_stored :
    (handleAsyncInitial text store request bus).store.get? request.runId =
      some (initialState request) := by
  rw [(handleAsyncInitial_cases text store request bus).1]
  exact OrderedDict.get?_set_self ..

variable {text store request bus}

theorem TerminalSafe.dispatch (safe : TerminalSafe runId ⟨store, published⟩)
    (inOrder : InitialInOrder runId ⟨store, published⟩ (.dispatch request bus)) : TerminalSafe runId
      ⟨(handleAsyncInitial text store request bus).store,
        published ++ (handleAsyncInitial text store request bus).published⟩ := by
  have quiet := initial_terminals text store request bus fun own => (inOrder own).2
  refine ⟨?_, ?_⟩
  · rw [terminals_append, quiet]
    exact safe.unique
  · intro positive
    rw [terminals_append, quiet] at positive
    have other : runId ≠ request.runId := by
      intro own
      rw [Nat.add_zero, (inOrder own.symm).1] at positive
      exact Nat.lt_irrefl 0 positive
    dsimp only
    rw [(handleAsyncInitial_cases text store request bus).1]
    exact (safe.stored positive).persist_other other

/-- A safe state after an initial command says that the command was in order: the run is at
`RECEIVED` again, so no terminal event has been published. -/
theorem InitialInOrder.of_safe
    (safe : TerminalSafe runId
      ⟨(handleAsyncInitial text store request bus).store,
        published ++ (handleAsyncInitial text store request bus).published⟩) :
    InitialInOrder runId ⟨store, published⟩ (.dispatch request bus) := by
  intro own
  subst own
  have none_ : terminals request.runId
      (published ++ (handleAsyncInitial text store request bus).published) = 0 := by
    refine Nat.eq_zero_of_not_pos ?_
    intro positive
    obtain ⟨run, held, terminal⟩ := safe.stored positive
    dsimp only at held
    rw [initial_stored] at held
    cases held
    exact Bool.false_ne_true terminal
  rw [terminals_append, Nat.add_eq_zero_iff] at none_
  refine ⟨none_.1, ?_⟩
  intro fails
  obtain ⟨-, ⟨-, quiet⟩ | ⟨-, quiet⟩ | ⟨⟨error, failed⟩, -⟩⟩ :=
    handleAsyncInitial_cases text store request bus
  · exact quiet fails
  · exact quiet fails
  · rw [failed, terminals_failure_self] at none_
    exact Nat.one_ne_zero none_.2

end

/-! ## Runs -/

theorem Keyed.step (keyed : Keyed system.store) (delivery : Delivery) :
    Keyed (step text system delivery).1.store := by
  cases delivery with
  | dispatch request bus =>
    show Keyed (handleAsyncInitial text system.store request bus).store
    rw [(handleAsyncInitial_cases text system.store request bus).1]
    exact keyed.persist _
  | response topic payload bus =>
    show Keyed (routeEvent text system.store topic payload bus).store
    rcases routeEvent_cases text keyed topic payload bus with
      ⟨unchanged, -⟩ | ⟨run, next, publishes, -, -, persisted, -⟩
    · rw [unchanged]
      exact keyed
    · rw [persisted]
      exact keyed.persist next

theorem TerminalSafe.step {delivery : Delivery} (keyed : Keyed system.store)
    (safe : TerminalSafe runId system) (inOrder : InitialInOrder runId system delivery) :
    TerminalSafe runId (step text system delivery).1 := by
  cases delivery with
  | dispatch request bus => exact safe.dispatch inOrder
  | response topic payload bus => exact safe.response keyed text topic payload bus

theorem InitialInOrder.of_step {delivery : Delivery}
    (safe : TerminalSafe runId (step text system delivery).1) :
    InitialInOrder runId system delivery := by
  cases delivery with
  | dispatch request bus => exact InitialInOrder.of_safe safe
  | response topic payload bus => exact True.intro

theorem start_keyed : Keyed start.store := fun _ _ => nofun

theorem start_safe (runId : String) : TerminalSafe runId start := by
  refine ⟨Nat.zero_le 1, ?_⟩
  intro positive
  exact absurd positive (Nat.lt_irrefl 0)

structure RunInvariant (runId : String) (system : System) : Prop where
  keyed : Keyed system.store
  safe : TerminalSafe runId system

theorem start_invariant (runId : String) : RunInvariant runId start :=
  ⟨start_keyed, start_safe runId⟩

/-- Terminal events are unique, with a terminal state stored from then on, exactly when every
initial command of the run comes before its terminal event and publishes no failure. -/
theorem terminal_unique_iff (text : SwarmText) (runId : String) (deliveries : List Delivery) :
    TerminalUnique text runId deliveries ↔
      ∀ t ∈ Trace.run (step text) start deliveries, InitialInOrder runId t.before t.event := by
  have stepped : ∀ t ∈ Trace.run (step text) start deliveries,
      t.after = (step text t.before t.event).1 := by
    intro t taken
    rw [Trace.run_steps taken]
  constructor
  · intro unique t taken
    have safe := unique t taken
    rw [stepped t taken] at safe
    exact InitialInOrder.of_step safe
  · intro inOrder
    have preserved : ∀ t ∈ Trace.run (step text) start deliveries,
        RunInvariant runId t.before → RunInvariant runId t.after := by
      rintro t taken ⟨keyed, safe⟩
      rw [stepped t taken]
      exact ⟨keyed.step t.event, safe.step keyed (inOrder t taken)⟩
    have throughout := (Trace.run_invariant (start_invariant runId) preserved).2
    intro t taken
    exact (preserved t taken (throughout t taken)).safe

/-! ## Runs with two terminal events -/

theorem TerminalUnique.final {deliveries : List Delivery}
    (unique : TerminalUnique text runId deliveries) :
    TerminalSafe runId (Trace.final (SwarmDispatch.step text) start deliveries) := by
  induction deliveries using List.reverseRecOn with
  | nil => exact start_safe runId
  | append_singleton before last _ =>
    rw [Trace.final_append]
    let reached := Trace.final (SwarmDispatch.step text) start before
    refine unique ⟨reached, last, (SwarmDispatch.step text reached last).2, _⟩ ?_
    rw [Trace.run_append]
    exact List.mem_append_right _ (List.mem_singleton.2 rfl)

def plainSwarmText : SwarmText where
  unicode := PyText.asciiTable
  hashText text := text
  strValue _ := ""
  asInt
    | .int value => some value
    | _ => none
  intOf
    | .int value => some value
    | _ => none
  payloadError _ := ""

def sampleRequest : ModelSwarmDispatchRequest where
  task := ⟨"summarise", by decide⟩
  correlationId := "corr-1"
  runId := "run-1"

/-- A bus that accepts every publish. -/
def openBus : Bus := fun _ => none

def noHealthBus : Bus
  | .checkEndpointHealth _ => some "broker unavailable"
  | _ => none

/-- The five responses of the run, each with an empty payload. -/
def sampleResponses : List Delivery :=
  topicRouting.map fun route => .response route.1 [("run_id", .str "run-1")] openBus

/-- The initial command is delivered again after the run has completed. -/
def redelivered : List Delivery :=
  .dispatch sampleRequest openBus :: sampleResponses ++ [.dispatch sampleRequest openBus]

/-- The initial command is delivered twice while health checks are refused. -/
def refusedTwice : List Delivery :=
  [.dispatch sampleRequest noHealthBus, .dispatch sampleRequest noHealthBus]

/-- A redelivered command reopens a completed run, and two refused commands publish two
failures. -/
theorem terminal_not_unique :
    (¬ TerminalUnique plainSwarmText "run-1" redelivered ∧
        ∃ run, (Trace.final (step plainSwarmText) start redelivered).store.get? "run-1" = some run ∧
          run.fsmState = .received) ∧
      ¬ TerminalUnique plainSwarmText "run-1" refusedTwice ∧
        terminals "run-1" (Trace.final (step plainSwarmText) start refusedTwice).published = 2 := by
  have reopened : (Trace.final (step plainSwarmText) start redelivered).store.get? "run-1" =
      some (initialState sampleRequest) := rfl
  have published :
      terminals "run-1" (Trace.final (step plainSwarmText) start redelivered).published = 1 := rfl
  have twice :
      terminals "run-1" (Trace.final (step plainSwarmText) start refusedTwice).published = 2 := rfl
  refine ⟨⟨?_, _, reopened, rfl⟩, ?_, twice⟩
  · intro unique
    obtain ⟨run, held, terminal⟩ := unique.final.stored (published ▸ Nat.one_pos)
    rw [reopened] at held
    cases held
    exact Bool.false_ne_true terminal
  · intro unique
    have few := unique.final.unique
    rw [twice] at few
    exact absurd few (by decide)

end OmniMarket.SwarmDispatch
