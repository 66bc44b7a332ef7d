import Mathlib.Data.Int.Order.Basic
import Mathlib.Data.List.Induction
import OmniMarket.Lib.OrderedDict

/-!
# The swarm subtask reducer

`HandlerSwarmSubtaskState.delta` folds the delegation events of a run into one record for
each subtask. Logging is left out.
-/

namespace OmniMarket.Swarm

/-! ## Records -/

inductive EnumSubtaskState where
  | assigned
  | executing
  | escalating
  | completed
  | failed
  | timedOut
  | blocked
deriving DecidableEq

def terminalStates : List EnumSubtaskState := [.completed, .failed, .timedOut, .blocked]

/-- Membership in `TERMINAL_STATES`. -/
def EnumSubtaskState.isTerminal (state : EnumSubtaskState) : Bool := terminalStates.contains state

structure ModelSubtaskState where
  runId : String
  subtaskId : String
  state : EnumSubtaskState
  endpointId : String := ""
  modelId : String := ""
  assignedAt : String := ""
  completedAt : String := ""
  latencyMs : ℤ := 0
  attemptCount : ℤ := 0
  failureClass : String := ""
  terminalEventId : String := ""

structure ModelSwarmRunState where
  runId : String
  subtasks : OrderedDict String ModelSubtaskState
  totalCount : ℤ := 0

namespace ModelSwarmRunState

section

variable (run : ModelSwarmRunState)

def completedCount : ℕ :=
  run.subtasks.values.countP fun record => record.state = .completed

def failedCount : ℕ :=
  run.subtasks.values.countP fun record => record.state = .failed || record.state = .timedOut

def pendingCount : ℕ :=
  run.subtasks.values.countP fun record => !record.state.isTerminal

def blockedCount : ℕ :=
  run.subtasks.values.countP fun record => record.state = .blocked

end

end ModelSwarmRunState

/-! ## Events -/

inductive EnumDelegationEventType where
  | delegationExecute
  | delegationCallCompleted
  | delegationEscalationTriggered
  | delegationAllTiersFailed
  | swarmFanoutCompleted
deriving DecidableEq

structure ModelDelegationEvent where
  eventId : String
  eventType : EnumDelegationEventType
  runId : String
  subtaskId : String
  correlationId : String
  endpointId : String := ""
  modelId : String := ""
  emittedAt : String := ""
  failureClass : String := ""
  latencyMs : ℤ := 0
  sourceTopic : String := ""
  sourcePartition : ℤ := 0
  sourceOffset : ℤ := 0

def eventToState : EnumDelegationEventType → Option EnumSubtaskState
  | .delegationExecute => some .assigned
  | .delegationCallCompleted => some .completed
  | .delegationEscalationTriggered => some .escalating
  | .delegationAllTiersFailed => some .failed
  | .swarmFanoutCompleted => none

structure ModelProjectionFreshness where
  projectionCursor : String
  sourceEventId : String
  sourceTopic : String
  sourcePartition : ℤ
  sourceOffset : ℤ
  freshnessState : String
  reducerVersion : String
  observedAt : String

structure ModelSwarmSubtaskReducerOutput where
  newState : ModelSwarmRunState
  changedSubtask : Option ModelSubtaskState := none
  stateChanged : Bool := false
  projectionFreshness : Option ModelProjectionFreshness := none

/-! ## The reducer -/

def reducerVersion : String := "1.0.0"

def emptyRunState (runId : String) : ModelSwarmRunState where
  runId := runId
  subtasks := .empty
  totalCount := 0

/-- `new or held` between strings, where the empty string counts as absent. -/
def keepText (new : String) (held : Option String) : String :=
  if new = "" then held.getD "" else new

def buildSubtaskState (event : ModelDelegationEvent) (existing : Option ModelSubtaskState)
    (targetState : EnumSubtaskState) : ModelSubtaskState where
  runId := event.runId
  subtaskId := event.subtaskId
  state := targetState
  endpointId := keepText event.endpointId (existing.map fun record => record.endpointId)
  modelId := keepText event.modelId (existing.map fun record => record.modelId)
  assignedAt :=
    if event.eventType = .delegationExecute then event.emittedAt
    else (existing.map fun record => record.assignedAt).getD ""
  completedAt :=
    if targetState.isTerminal then event.emittedAt
    else (existing.map fun record => record.completedAt).getD ""
  latencyMs :=
    if event.latencyMs = 0 then (existing.map fun record => record.latencyMs).getD 0
    else event.latencyMs
  attemptCount :=
    match existing with
    | none => if event.eventType = .delegationExecute then 1 else 0
    | some record =>
      record.attemptCount + if event.eventType = .delegationEscalationTriggered then 1 else 0
  failureClass := keepText event.failureClass (existing.map fun record => record.failureClass)
  terminalEventId :=
    if targetState.isTerminal then event.eventId
    else (existing.map fun record => record.terminalEventId).getD ""

def unchanged (current : ModelSwarmRunState) : ModelSwarmSubtaskReducerOutput where
  newState := current

def transition (current : ModelSwarmRunState) (event : ModelDelegationEvent)
    (targetState : EnumSubtaskState) : ModelSwarmSubtaskReducerOutput :=
  let newSubtask := buildSubtaskState event (current.subtasks.get? event.subtaskId) targetState
  let newSubtasks := current.subtasks.set event.subtaskId newSubtask
  { newState :=
      { runId := current.runId
        subtasks := newSubtasks
        totalCount := max current.totalCount newSubtasks.size }
    changedSubtask := some newSubtask
    stateChanged := true
    projectionFreshness := some
      { projectionCursor := event.sourceTopic ++ "/" ++ toString event.sourcePartition ++ "/" ++
          toString event.sourceOffset
        sourceEventId := event.eventId
        sourceTopic := event.sourceTopic
        sourcePartition := event.sourcePartition
        sourceOffset := event.sourceOffset
        freshnessState := "fresh"
        reducerVersion := reducerVersion
        observedAt := event.emittedAt } }

def ignoresFinished (record : ModelSubtaskState) (event : ModelDelegationEvent)
    (targetState : EnumSubtaskState) : Bool :=
  record.state.isTerminal && (record.terminalEventId == event.eventId || targetState.isTerminal)

/-- `HandlerSwarmSubtaskState.delta`; without a state it starts from the empty run. -/
def delta (currentState : Option ModelSwarmRunState) (event : ModelDelegationEvent) :
    ModelSwarmSubtaskReducerOutput :=
  let current := currentState.getD (emptyRunState event.runId)
  match eventToState event.eventType with
  | none => unchanged current
  | some targetState =>
    match current.subtasks.get? event.subtaskId with
    | none => transition current event targetState
    | some record =>
      if ignoresFinished record event targetState then unchanged current
      else transition current event targetState

/-!
# Finished subtasks

A record is finished by the first event that completes or fails its subtask. Later events of
that kind are ignored, and so is a replay under the same event id. A late event that starts
or escalates the subtask is ignored only under the event id that finished the record; under
another id it opens the record again.
-/

/-! ## One event -/

section

variable {run : ModelSwarmRunState} {event : ModelDelegationEvent} {subtaskId : String}
  {record : ModelSubtaskState} {target : EnumSubtaskState}

theorem delta_wholeRun (wholeRun : eventToState event.eventType = none) :
    (delta (some run) event).newState = run := by
  unfold delta
  rw [wholeRun]
  rfl

theorem delta_ignored (moves : eventToState event.eventType = some target)
    (held : run.subtasks.get? event.subtaskId = some record)
    (ignored : ignoresFinished record event target = true) :
    (delta (some run) event).newState = run := by
  unfold delta
  rw [moves]
  dsimp only [Option.getD_some]
  rw [held]
  dsimp only
  rw [if_pos ignored]
  rfl

theorem delta_transition (moves : eventToState event.eventType = some target)
    (open_ : ∀ record, run.subtasks.get? event.subtaskId = some record →
      ignoresFinished record event target = false) :
    (delta (some run) event).newState = (transition run event target).newState := by
  unfold delta
  rw [moves]
  dsimp only [Option.getD_some]
  cases held : run.subtasks.get? event.subtaskId with
  | none => rfl
  | some record =>
    dsimp only
    rw [open_ record held, if_neg Bool.false_ne_true]

theorem transition_self :
    (transition run event target).newState.subtasks.get? event.subtaskId =
      some (buildSubtaskState event (run.subtasks.get? event.subtaskId) target) :=
  OrderedDict.get?_set_self ..

theorem transition_other (other : subtaskId ≠ event.subtaskId) :
    (transition run event target).newState.subtasks.get? subtaskId = run.subtasks.get? subtaskId :=
  OrderedDict.get?_set_other other

theorem delta_cases (run : ModelSwarmRunState) (event : ModelDelegationEvent) :
    (delta (some run) event).newState = run ∨
      ∃ target, eventToState event.eventType = some target ∧
        (∀ record, run.subtasks.get? event.subtaskId = some record →
          ignoresFinished record event target = false) ∧
        (delta (some run) event).newState = (transition run event target).newState := by
  cases moves : eventToState event.eventType with
  | none => exact Or.inl (delta_wholeRun moves)
  | some target =>
    by_cases ignored : ∃ record, run.subtasks.get? event.subtaskId = some record ∧
        ignoresFinished record event target = true
    · obtain ⟨record, held, ignores⟩ := ignored
      exact Or.inl (delta_ignored moves held ignores)
    · have opened : ∀ record, run.subtasks.get? event.subtaskId = some record →
          ignoresFinished record event target = false := by
        intro record held
        rw [← Bool.not_eq_true]
        exact fun ignores => ignored ⟨record, held, ignores⟩
      exact Or.inr ⟨target, rfl, opened, delta_transition moves opened⟩

theorem delta_other (other : subtaskId ≠ event.subtaskId) :
    (delta (some run) event).newState.subtasks.get? subtaskId = run.subtasks.get? subtaskId := by
  rcases delta_cases run event with same | ⟨target, _, _, moved⟩
  · rw [same]
  · rw [moved, transition_other other]

end

/-! ## Runs -/

def runAfter (runId : String) (events : List ModelDelegationEvent) : ModelSwarmRunState :=
  events.foldl (fun run event => (delta (some run) event).newState) (emptyRunState runId)

theorem runAfter_snoc (runId : String) (events : List ModelDelegationEvent)
    (event : ModelDelegationEvent) :
    runAfter runId (events ++ [event]) = (delta (some (runAfter runId events)) event).newState :=
  List.foldl_append ..

def ModelDelegationEvent.finishes (event : ModelDelegationEvent) : Bool :=
  event.eventType = .delegationCallCompleted || event.eventType = .delegationAllTiersFailed

/-- The event starts or escalates its subtask. -/
def ModelDelegationEvent.progresses (event : ModelDelegationEvent) : Bool :=
  event.eventType = .delegationExecute || event.eventType = .delegationEscalationTriggered

def firstFinisher (subtaskId : String) (events : List ModelDelegationEvent) :
    Option ModelDelegationEvent :=
  events.find? fun event => event.finishes && event.subtaskId = subtaskId

def Finished (run : ModelSwarmRunState) (subtaskId : String) (record : ModelSubtaskState) : Prop :=
  run.subtasks.get? subtaskId = some record ∧ record.state.isTerminal = true

structure FinishedAbsorbing (runId : String) (events : List ModelDelegationEvent) : Prop where
  final : ∀ before later after subtaskId record, events = before ++ later ++ after →
    Finished (runAfter runId before) subtaskId record →
    Finished (runAfter runId (before ++ later)) subtaskId record
  pending : ∀ before event after record, events = before ++ event :: after →
    Finished (runAfter runId before) event.subtaskId record →
    (runAfter runId (before ++ [event])).pendingCount ≤ (runAfter runId before).pendingCount

def LateEventsReplay (events : List ModelDelegationEvent) : Prop :=
  ∀ before late after first, events = before ++ late :: after →
    firstFinisher late.subtaskId before = some first → late.progresses = true →
    late.eventId = first.eventId

def TrackedAt (run : ModelSwarmRunState) (subtaskId : String) :
    Option ModelDelegationEvent → Prop
  | none => ∀ record, ¬ Finished run subtaskId record
  | some first => ∃ record, Finished run subtaskId record ∧ record.terminalEventId = first.eventId

def Tracked (runId : String) (events : List ModelDelegationEvent) : Prop :=
  ∀ subtaskId, TrackedAt (runAfter runId events) subtaskId (firstFinisher subtaskId events)

theorem firstFinisher_snoc (subtaskId : String) (events : List ModelDelegationEvent)
    (event : ModelDelegationEvent) :
    firstFinisher subtaskId (events ++ [event]) =
      (firstFinisher subtaskId events).or
        (if event.finishes && event.subtaskId = subtaskId then some event else none) := by
  unfold firstFinisher
  rw [List.find?_append, List.find?_singleton]

theorem finishes_target {event : ModelDelegationEvent} (finishes : event.finishes = true) :
    ∃ target, eventToState event.eventType = some target ∧ target.isTerminal = true := by
  unfold ModelDelegationEvent.finishes at finishes
  cases kind : event.eventType with
  | delegationCallCompleted => exact ⟨.completed, rfl, rfl⟩
  | delegationAllTiersFailed => exact ⟨.failed, rfl, rfl⟩
  | delegationExecute => simp [kind] at finishes
  | delegationEscalationTriggered => simp [kind] at finishes
  | swarmFanoutCompleted => simp [kind] at finishes

theorem target_kind {event : ModelDelegationEvent} {target : EnumSubtaskState}
    (moves : eventToState event.eventType = some target) :
    (event.finishes = true ∧ target.isTerminal = true) ∨
      (event.progresses = true ∧ event.finishes = false ∧ target.isTerminal = false) := by
  unfold ModelDelegationEvent.finishes ModelDelegationEvent.progresses
  cases kind : event.eventType with
  | delegationCallCompleted =>
    rw [kind] at moves
    cases moves
    exact Or.inl ⟨by decide, rfl⟩
  | delegationAllTiersFailed =>
    rw [kind] at moves
    cases moves
    exact Or.inl ⟨by decide, rfl⟩
  | delegationExecute =>
    rw [kind] at moves
    cases moves
    exact Or.inr ⟨by decide, by decide, rfl⟩
  | delegationEscalationTriggered =>
    rw [kind] at moves
    cases moves
    exact Or.inr ⟨by decide, by decide, rfl⟩
  | swarmFanoutCompleted =>
    rw [kind] at moves
    cases moves

/-! ## What one event does to the finished records -/

section

variable {runId : String} {events : List ModelDelegationEvent} {event : ModelDelegationEvent}
  {run : ModelSwarmRunState} {record : ModelSubtaskState}

theorem delta_finished (finished : Finished run event.subtaskId record)
    (replays : event.progresses = true → record.terminalEventId = event.eventId) :
    (delta (some run) event).newState = run := by
  obtain ⟨held, terminal⟩ := finished
  cases moves : eventToState event.eventType with
  | none => exact delta_wholeRun moves
  | some target =>
    refine delta_ignored moves held ?_
    unfold ignoresFinished
    rw [terminal, Bool.true_and, Bool.or_eq_true]
    rcases target_kind moves with ⟨_, targetTerminal⟩ | ⟨progresses, _, _⟩
    · exact Or.inr targetTerminal
    · exact Or.inl (beq_iff_eq.2 (replays progresses))

theorem delta_finishes (finishes : event.finishes = true)
    (unfinished : ∀ record, ¬ Finished run event.subtaskId record) :
    ∃ record, Finished (delta (some run) event).newState event.subtaskId record ∧
      record.terminalEventId = event.eventId := by
  obtain ⟨target, moves, targetTerminal⟩ := finishes_target finishes
  have opened : ∀ record, run.subtasks.get? event.subtaskId = some record →
      ignoresFinished record event target = false := by
    intro record held
    unfold ignoresFinished
    rw [Bool.and_eq_false_iff]
    left
    rw [← Bool.not_eq_true]
    exact fun terminal => unfinished record ⟨held, terminal⟩
  rw [delta_transition moves opened]
  refine ⟨_, ⟨transition_self, targetTerminal⟩, ?_⟩
  unfold buildSubtaskState
  dsimp only
  rw [if_pos targetTerminal]

theorem delta_unfinished (open_ : event.finishes = false)
    (unfinished : ∀ record, ¬ Finished run event.subtaskId record) :
    ∀ record, ¬ Finished (delta (some run) event).newState event.subtaskId record := by
  intro record finished
  rcases delta_cases run event with same | ⟨target, moves, _, moved⟩
  · rw [same] at finished
    exact unfinished record finished
  · rw [moved] at finished
    obtain ⟨held, terminal⟩ := finished
    rw [transition_self] at held
    cases held
    rcases target_kind moves with ⟨finishes, _⟩ | ⟨_, _, targetOpen⟩
    · rw [open_] at finishes
      cases finishes
    · change target.isTerminal = true at terminal
      rw [targetOpen] at terminal
      cases terminal

theorem Tracked.step (tracked : Tracked runId events)
    (replays : ∀ first, firstFinisher event.subtaskId events = some first →
      event.progresses = true → event.eventId = first.eventId) :
    Tracked runId (events ++ [event]) ∧
      ∀ subtaskId record, Finished (runAfter runId events) subtaskId record →
        Finished (runAfter runId (events ++ [event])) subtaskId record := by
  rw [runAfter_snoc]
  have atEvent := tracked event.subtaskId
  -- Everything at the event's own subtask follows from the first finisher so far.
  have own : TrackedAt (delta (some (runAfter runId events)) event).newState event.subtaskId
        (firstFinisher event.subtaskId (events ++ [event])) ∧
      ∀ record, Finished (runAfter runId events) event.subtaskId record →
        Finished (delta (some (runAfter runId events)) event).newState event.subtaskId record := by
    rw [firstFinisher_snoc]
    cases found : firstFinisher event.subtaskId events with
    | some first =>
      rw [found] at atEvent
      obtain ⟨record, finished, byFirst⟩ := atEvent
      -- the subtask has finished, so the event is a replay and changes nothing
      have kept : (delta (some (runAfter runId events)) event).newState =
          runAfter runId events := by
        refine delta_finished finished ?_
        intro progresses
        rw [byFirst, replays first found progresses]
      rw [kept]
      exact ⟨⟨record, finished, byFirst⟩, fun _ held => held⟩
    | none =>
      rw [found] at atEvent
      refine ⟨?_, fun record held => absurd held (atEvent record)⟩
      rw [decide_eq_true rfl, Bool.and_true, Option.none_or]
      cases finishes : event.finishes with
      | true => exact delta_finishes finishes atEvent
      | false => exact delta_unfinished finishes atEvent
  have others {subtaskId : String} (other : subtaskId ≠ event.subtaskId)
      (record : ModelSubtaskState) :
      Finished (delta (some (runAfter runId events)) event).newState subtaskId record ↔
        Finished (runAfter runId events) subtaskId record := by
    unfold Finished
    rw [delta_other other]
  refine ⟨?_, ?_⟩
  · intro subtaskId
    rw [runAfter_snoc]
    by_cases same : subtaskId = event.subtaskId
    · rw [same]
      exact own.1
    · rw [firstFinisher_snoc, decide_eq_false (Ne.symm same), Bool.and_false,
        if_neg Bool.false_ne_true, Option.or_none]
      have before := tracked subtaskId
      cases found : firstFinisher subtaskId events with
      | none =>
        rw [found] at before
        exact fun record finished => before record ((others same record).1 finished)
      | some first =>
        rw [found] at before
        obtain ⟨record, finished, byFirst⟩ := before
        exact ⟨record, (others same record).2 finished, byFirst⟩
  · intro subtaskId record finished
    by_cases same : subtaskId = event.subtaskId
    · rw [same] at finished ⊢
      exact own.2 record finished
    · exact (others same record).2 finished

theorem Tracked.reopens (tracked : Tracked runId events) {first : ModelDelegationEvent}
    (found : firstFinisher event.subtaskId events = some first)
    (progresses : event.progresses = true) (fresh : event.eventId ≠ first.eventId) :
    ∃ record, Finished (runAfter runId events) event.subtaskId record ∧
      ¬ Finished (runAfter runId (events ++ [event])) event.subtaskId record := by
  have atEvent := tracked event.subtaskId
  rw [found] at atEvent
  obtain ⟨record, finished, byFirst⟩ := atEvent
  refine ⟨record, finished, ?_⟩
  have moves : ∃ target, eventToState event.eventType = some target ∧
      target.isTerminal = false := by
    unfold ModelDelegationEvent.progresses at progresses
    cases kind : event.eventType with
    | delegationExecute => exact ⟨.assigned, rfl, rfl⟩
    | delegationEscalationTriggered => exact ⟨.escalating, rfl, rfl⟩
    | delegationCallCompleted => simp [kind] at progresses
    | delegationAllTiersFailed => simp [kind] at progresses
    | swarmFanoutCompleted => simp [kind] at progresses
  obtain ⟨target, moves, targetOpen⟩ := moves
  have opened : ∀ held, (runAfter runId events).subtasks.get? event.subtaskId = some held →
      ignoresFinished held event target = false := by
    intro held found
    rw [finished.1] at found
    cases found
    unfold ignoresFinished
    rw [targetOpen, Bool.or_false, byFirst, beq_false_of_ne (Ne.symm fresh), Bool.and_false]
  rw [runAfter_snoc, delta_transition moves opened]
  rintro ⟨held, terminal⟩
  rw [transition_self] at held
  cases held
  change target.isTerminal = true at terminal
  rw [targetOpen] at terminal
  cases terminal

end

/-! ## Whole runs -/

theorem tracked_nil (runId : String) : Tracked runId [] := by
  intro subtaskId record finished
  cases finished.1

theorem LateEventsReplay.tracked {runId : String} {events : List ModelDelegationEvent}
    (replays : LateEventsReplay events) (before after : List ModelDelegationEvent)
    (split : events = before ++ after) : Tracked runId before := by
  induction before using List.reverseRecOn generalizing after with
  | nil => exact tracked_nil runId
  | append_singleton before event ih =>
    rw [List.append_assoc] at split
    refine ((ih _ split).step ?_).1
    intro first found progresses
    exact replays before event after first split found progresses

theorem FinishedAbsorbing.tracked {runId : String} {events : List ModelDelegationEvent}
    (absorbs : FinishedAbsorbing runId events) (before after : List ModelDelegationEvent)
    (split : events = before ++ after) : Tracked runId before := by
  induction before using List.reverseRecOn generalizing after with
  | nil => exact tracked_nil runId
  | append_singleton before event ih =>
    have earlier := ih _ (by rw [split, List.append_assoc])
    refine (earlier.step ?_).1
    intro first found progresses
    by_contra fresh
    obtain ⟨record, finished, reopened⟩ := earlier.reopens found progresses fresh
    exact reopened (absorbs.final before [event] after _ record split finished)

/-- Finished records stay as they are, and finished subtasks do not become pending again,
exactly when every late start or escalation repeats the event id that finished its
subtask. -/
theorem finished_absorbing_iff (runId : String) (events : List ModelDelegationEvent) :
    FinishedAbsorbing runId events ↔ LateEventsReplay events := by
  constructor
  · intro absorbs before late after first split found progresses
    -- a fresh late event reopens the subtask, against what was assumed
    by_contra fresh
    have tracked := absorbs.tracked before (late :: after) split
    obtain ⟨record, finished, reopened⟩ := tracked.reopens found progresses fresh
    refine reopened (absorbs.final before [late] after _ record ?_ finished)
    rw [split, List.append_assoc]
    rfl
  · intro replays
    have kept (before : List ModelDelegationEvent) (event : ModelDelegationEvent)
        (after : List ModelDelegationEvent) (split : events = before ++ event :: after) :
        ∀ subtaskId record, Finished (runAfter runId before) subtaskId record →
          Finished (runAfter runId (before ++ [event])) subtaskId record :=
      ((replays.tracked before _ split).step
        fun first found => replays before event after first split found).2
    constructor
    · intro before later
      -- induction on the later events, the last one first
      induction later using List.reverseRecOn with
      | nil =>
        intro after subtaskId record _ finished
        rwa [List.append_nil]
      | append_singleton later event ih =>
        intro after subtaskId record split finished
        rw [← List.append_assoc] at split ⊢
        rw [List.append_assoc] at split
        have earlier := ih (event :: after) subtaskId record split finished
        exact kept (before ++ later) event after split subtaskId record earlier
    · intro before event after record split finished
      have everywhere : Tracked runId before := replays.tracked before _ split
      have tracked := everywhere event.subtaskId
      cases found : firstFinisher event.subtaskId before with
      | none =>
        rw [found] at tracked
        exact absurd finished (tracked record)
      | some first =>
        rw [found] at tracked
        obtain ⟨held, heldFinished, byFirst⟩ := tracked
        have same : (delta (some (runAfter runId before)) event).newState =
            runAfter runId before := by
          refine delta_finished heldFinished ?_
          intro progresses
          rw [byFirst, replays before event after first split found progresses]
        exact Nat.le_of_eq (by rw [runAfter_snoc, same])

def lateStart : List ModelDelegationEvent :=
  [{ eventId := "e-complete", eventType := .delegationCallCompleted, runId := "run",
     subtaskId := "s1", correlationId := "c" },
    { eventId := "e-execute", eventType := .delegationExecute, runId := "run",
      subtaskId := "s1", correlationId := "c" }]

/-- The late start makes the completed subtask pending again. -/
theorem late_start_reopens :
    (runAfter "run" (lateStart.take 1)).pendingCount = 0 ∧
      (runAfter "run" lateStart).pendingCount = 1 ∧ ¬ FinishedAbsorbing "run" lateStart := by
  refine ⟨by decide, by decide, ?_⟩
  intro absorbs
  have kept := absorbs.pending (lateStart.take 1) _ [] _ rfl ⟨rfl, rfl⟩
  revert kept
  decide

/-! ## Interleaved subtasks -/

section

variable {run : ModelSwarmRunState} {event : ModelDelegationEvent}

theorem delta_own {other : ModelSwarmRunState}
    (same : run.subtasks.get? event.subtaskId = other.subtasks.get? event.subtaskId) :
    (delta (some run) event).newState.subtasks.get? event.subtaskId =
      (delta (some other) event).newState.subtasks.get? event.subtaskId := by
  unfold delta
  cases eventToState event.eventType with
  | none => exact same
  | some target =>
    dsimp only [Option.getD_some]
    rw [← same]
    cases run.subtasks.get? event.subtaskId with
    | none => rw [transition_self, transition_self, ← same]
    | some record =>
      dsimp only
      split
      · exact same
      · rw [transition_self, transition_self, ← same]

theorem delta_total (counted : run.totalCount = run.subtasks.size) :
    (delta (some run) event).newState.totalCount =
      (delta (some run) event).newState.subtasks.size := by
  rcases delta_cases run event with same | ⟨target, -, -, moved⟩
  · rwa [same]
  · rw [moved]
    have keys := congrArg List.length (OrderedDict.setEntry_keys event.subtaskId
      (buildSubtaskState event (run.subtasks.get? event.subtaskId) target) run.subtasks.entries)
    have grows : run.subtasks.size ≤ (transition run event target).newState.subtasks.size := by
      rw [List.length_map] at keys
      refine le_of_le_of_eq ?_ keys.symm
      split_ifs <;> simp [OrderedDict.size]
    exact (congrArg (max · _) counted).trans (max_eq_right (Int.ofNat_le.2 grows))

theorem counts_share (run : ModelSwarmRunState) : run.completedCount + run.failedCount +
    run.pendingCount + run.blockedCount = run.subtasks.size := by
  rw [show run.subtasks.size = run.subtasks.values.length from (List.length_map _).symm]
  unfold ModelSwarmRunState.completedCount ModelSwarmRunState.failedCount
    ModelSwarmRunState.pendingCount ModelSwarmRunState.blockedCount
  induction run.subtasks.values with
  | nil => rfl
  | cons record rest ih =>
    cases state : record.state <;>
      simp [state, EnumSubtaskState.isTerminal, terminalStates] at ih ⊢ <;> omega

end

/-- However the events of a run's subtasks interleave, the record of each depends on its own
events only, and the four counters share out the total. -/
theorem runAfter_isolates (runId : String) (events : List ModelDelegationEvent) :
    (∀ subtaskId, (runAfter runId events).subtasks.get? subtaskId =
      (runAfter runId (events.filter (·.subtaskId = subtaskId))).subtasks.get? subtaskId) ∧
    (runAfter runId events).totalCount =
      (runAfter runId events).completedCount + (runAfter runId events).failedCount +
        (runAfter runId events).pendingCount + (runAfter runId events).blockedCount := by
  constructor
  · intro subtaskId
    induction events using List.reverseRecOn with
    | nil => rfl
    | append_singleton events event ih =>
      rw [List.filter_append, List.filter_singleton, runAfter_snoc]
      by_cases own : event.subtaskId = subtaskId
      · subst own
        rw [decide_eq_true rfl, cond_true, runAfter_snoc]
        exact delta_own ih
      · rw [decide_eq_false own, cond_false, List.append_nil, delta_other (Ne.symm own), ih]
  · have total : (runAfter runId events).totalCount = (runAfter runId events).subtasks.size := by
      induction events using List.reverseRecOn with
      | nil => rfl
      | append_singleton events event ih => exact runAfter_snoc .. ▸ delta_total ih
    exact total.trans (congrArg _ (counts_share _).symm)

end OmniMarket.Swarm
