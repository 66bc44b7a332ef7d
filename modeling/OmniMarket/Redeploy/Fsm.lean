import Mathlib.Data.List.Destutter
import OmniMarket.Lib.Raising
import OmniMarket.Redeploy.Wire

/-!
# The redeploy state machine

The reducer that folds the outcomes of the phases into the state of a redeploy: a success
moves to the next phase, a failure stays, and a number of failures in a row ends in `FAILED`.
`skip_sync` and `verify_only` are carried in the state; the next phase is chosen without them.
-/

namespace OmniMarket.Redeploy

namespace EnumRedeployPhase

def value : EnumRedeployPhase → String
  | .idle => "idle"
  | .syncClones => "sync_clones"
  | .updatePins => "update_pins"
  | .rebuild => "rebuild"
  | .seedInfisical => "seed_infisical"
  | .verifyHealth => "verify_health"
  | .done => "done"
  | .failed => "failed"
  | .probing => "probing"
  | .sweeping => "sweeping"
  | .evidenceReducing => "evidence_reducing"
  | .occDrafting => "occ_drafting"
  | .occValidating => "occ_validating"
  | .readinessScoring => "readiness_scoring"
  | .ready => "ready"
  | .blocked => "blocked"
  | .rollingBack => "rolling_back"
  | .rolledBack => "rolled_back"

end EnumRedeployPhase

def phaseSequence : List EnumRedeployPhase :=
  [.syncClones, .updatePins, .rebuild, .seedInfisical, .verifyHealth, .done]

def terminalPhases : List EnumRedeployPhase := [.done, .failed, .ready, .blocked, .rolledBack]

def terminalError (phase : EnumRedeployPhase) : RedeployError :=
  .valueError ("Cannot advance from terminal phase: " ++ phase.value)

def nextPhase (current : EnumRedeployPhase) : Except RedeployError EnumRedeployPhase :=
  if terminalPhases.contains current then .error (terminalError current)
  else if current = .idle then .ok (phaseSequence.headD .done)
  else
    match phaseSequence.dropWhile (· ≠ current) with
    | _ :: next :: _ => .ok next
    -- `DONE`, the last phase of the sequence, is terminal; what is left is not in it
    | _ => .error (.valueError "tuple.index(x): x not in tuple")

structure ModelRedeployState where
  correlationId : Uuid
  currentPhase : EnumRedeployPhase := .idle
  versions : List (String × String) := []
  skipSync : Bool := false
  verifyOnly : Bool := false
  dryRun : Bool := false
  consecutiveFailures : ℕ := 0
  maxConsecutiveFailures : ℕ := 3
  phasesCompleted : ℕ := 0
  errorMessage : Option String := none
  runtimeLane : EnumRuntimeLane := .dev
  imageDigest : Option String := none
  promotionBatchId : Option String := none
  previousImage : Option String := none
  rolledBack : Bool := false

structure ModelRedeployPhaseEvent where
  correlationId : Uuid
  fromPhase : EnumRedeployPhase
  toPhase : EnumRedeployPhase
  success : Bool
  errorMessage : Option String := none

def startState (command : ModelRedeployCommand) : ModelRedeployState where
  correlationId := command.correlationId
  currentPhase := .idle
  versions := command.versions
  skipSync := command.skipSync
  verifyOnly := command.verifyOnly
  dryRun := command.dryRun
  runtimeLane := command.runtimeLane
  imageDigest := command.imageDigest
  promotionBatchId := command.promotionBatchId

/-- What the orchestrator reports of a phase. -/
structure PhaseOutcome where
  success : Bool
  errorMessage : Option String := none

section

variable (state : ModelRedeployState)

/-- `advance` on a failed phase. -/
def recordFailure (errorMessage : Option String) :
    ModelRedeployState × ModelRedeployPhaseEvent :=
  let newFailures := state.consecutiveFailures + 1
  let event (toPhase : EnumRedeployPhase) : ModelRedeployPhaseEvent :=
    { correlationId := state.correlationId
      fromPhase := state.currentPhase
      toPhase
      success := false
      errorMessage }
  if state.maxConsecutiveFailures ≤ newFailures then
    ({ state with
        currentPhase := .failed
        consecutiveFailures := newFailures
        errorMessage := PyText.textOr errorMessage
          (some ("Circuit breaker: " ++ toString newFailures ++ " consecutive failures")) },
      event .failed)
  else
    ({ state with consecutiveFailures := newFailures, errorMessage },
      event state.currentPhase)

/-- `advance` on a phase that succeeded. -/
def recordSuccess (toPhase : EnumRedeployPhase) :
    ModelRedeployState × ModelRedeployPhaseEvent :=
  ({ state with
      currentPhase := toPhase
      consecutiveFailures := 0
      errorMessage := none
      phasesCompleted := state.phasesCompleted + 1 },
    { correlationId := state.correlationId
      fromPhase := state.currentPhase
      toPhase
      success := true })

def advance (outcome : PhaseOutcome) :
    Except RedeployError (ModelRedeployState × ModelRedeployPhaseEvent) :=
  if terminalPhases.contains state.currentPhase then
    .error (terminalError state.currentPhase)
  else if !outcome.success then .ok (recordFailure state outcome.errorMessage)
  else (nextPhase state.currentPhase).map (recordSuccess state)

def advanceAll (state : ModelRedeployState) :
    List PhaseOutcome → Except RedeployError (ModelRedeployState × List ModelRedeployPhaseEvent)
  | [] => .ok (state, [])
  | outcome :: rest => do
      let (next, event) ← advance state outcome
      let (last, events) ← advanceAll next rest
      return (last, event :: events)

/-! ## What one outcome does -/

structure Advanced (outcome : PhaseOutcome) (next : ModelRedeployState)
    (event : ModelRedeployPhaseEvent) : Prop where
  running : state.currentPhase ∉ terminalPhases
  fromPhase : event.fromPhase = state.currentPhase
  toPhase : event.toPhase = next.currentPhase
  success : event.success = outcome.success
  limit : next.maxConsecutiveFailures = state.maxConsecutiveFailures

/-- A success: the next phase of the sequence, the counter of failures back to zero. -/
structure MovedOn (next : ModelRedeployState) : Prop where
  phase : nextPhase state.currentPhase = .ok next.currentPhase
  failures : next.consecutiveFailures = 0
  completed : next.phasesCompleted = state.phasesCompleted + 1

/-- A failure: one more in the row, and `FAILED` where the row is long enough. -/
structure Counted (next : ModelRedeployState) : Prop where
  failures : next.consecutiveFailures = state.consecutiveFailures + 1
  completed : next.phasesCompleted = state.phasesCompleted
  phase : next.currentPhase =
    if state.maxConsecutiveFailures ≤ state.consecutiveFailures + 1 then .failed
    else state.currentPhase

end

section Steps

variable {state next last : ModelRedeployState} {outcome : PhaseOutcome}
  {event : ModelRedeployPhaseEvent} {events : List ModelRedeployPhaseEvent}
  {outcomes front back : List PhaseOutcome}

theorem recordFailure_counted {errorMessage : Option String} :
    Counted state (recordFailure state errorMessage).1 := by
  unfold recordFailure
  dsimp only
  split
  · next trips => exact ⟨rfl, rfl, (if_pos trips).symm⟩
  · next stays => exact ⟨rfl, rfl, (if_neg stays).symm⟩

theorem recordFailure_event {errorMessage : Option String} :
    (recordFailure state errorMessage).2.fromPhase = state.currentPhase ∧
      (recordFailure state errorMessage).2.toPhase =
        (recordFailure state errorMessage).1.currentPhase ∧
      (recordFailure state errorMessage).2.success = false ∧
      (recordFailure state errorMessage).1.maxConsecutiveFailures =
        state.maxConsecutiveFailures := by
  unfold recordFailure
  dsimp only
  split
  · exact ⟨rfl, rfl, rfl, rfl⟩
  · exact ⟨rfl, rfl, rfl, rfl⟩

theorem advance_terminal (terminal : state.currentPhase ∈ terminalPhases) :
    advance state outcome = .error (terminalError state.currentPhase) := by
  unfold advance
  rw [if_pos (List.contains_iff_mem.2 terminal)]

theorem advance_cases (accepted : advance state outcome = .ok (next, event)) :
    Advanced state outcome next event ∧
      ((outcome.success = true ∧ MovedOn state next) ∨
        (outcome.success = false ∧ Counted state next)) := by
  unfold advance at accepted
  split at accepted
  · cases accepted
  next running =>
    rw [List.contains_iff_mem] at running
    cases succeeded : outcome.success with
    | false =>
      rw [succeeded, Bool.not_false, if_pos rfl, Except.ok.injEq] at accepted
      obtain ⟨fromPhase, toPhase, success, limit⟩ :=
        @recordFailure_event state outcome.errorMessage
      have counted := @recordFailure_counted state outcome.errorMessage
      rw [accepted] at fromPhase toPhase success limit counted
      exact ⟨⟨running, fromPhase, toPhase, success.trans succeeded.symm, limit⟩,
        Or.inr ⟨rfl, counted⟩⟩
    | true =>
      rw [succeeded, Bool.not_true, if_neg Bool.false_ne_true] at accepted
      obtain ⟨toPhase, moved, recorded⟩ := Raising.map_eq_ok.1 accepted
      cases recorded
      exact ⟨⟨running, rfl, rfl, succeeded.symm, rfl⟩, Or.inl ⟨rfl, moved, rfl, rfl⟩⟩

theorem advanceAll_cons :
    advanceAll state (outcome :: outcomes) = .ok (last, events) ↔
      ∃ next event rest, advance state outcome = .ok (next, event) ∧
        advanceAll next outcomes = .ok (last, rest) ∧ events = event :: rest := by
  rw [advanceAll, Raising.bind_eq_ok]
  constructor
  · rintro ⟨⟨next, event⟩, accepted, walked⟩
    obtain ⟨⟨_, rest⟩, others, returned⟩ := Raising.bind_eq_ok.1 walked
    cases returned
    exact ⟨next, event, rest, accepted, others, rfl⟩
  · rintro ⟨next, event, rest, accepted, others, rfl⟩
    exact ⟨(next, event), accepted, Raising.bind_eq_ok.2 ⟨(last, rest), others, rfl⟩⟩

theorem advanceAll_append :
    advanceAll state (front ++ back) = .ok (last, events) ↔
      ∃ middle first second, advanceAll state front = .ok (middle, first) ∧
        advanceAll middle back = .ok (last, second) ∧ events = first ++ second := by
  induction front generalizing state events with
  | nil =>
    constructor
    · intro walked
      exact ⟨state, [], events, rfl, walked, rfl⟩
    · rintro ⟨_, _, _, ⟨⟩, walked, rfl⟩
      exact walked
  | cons outcome front ih =>
    rw [List.cons_append, advanceAll_cons]
    constructor
    · rintro ⟨next, event, rest, accepted, walked, rfl⟩
      obtain ⟨middle, first, second, before, behind, rfl⟩ := ih.1 walked
      exact ⟨middle, event :: first, second,
        advanceAll_cons.2 ⟨next, event, first, accepted, before, rfl⟩, behind, rfl⟩
    · rintro ⟨middle, first, second, before, behind, rfl⟩
      obtain ⟨next, event, rest, accepted, others, rfl⟩ := advanceAll_cons.1 before
      exact ⟨next, event, rest ++ second, accepted, ih.2 ⟨_, _, _, others, behind, rfl⟩, rfl⟩

theorem advanceAll_singleton :
    advanceAll state [outcome] = .ok (last, events) ↔
      ∃ event, advance state outcome = .ok (last, event) ∧ events = [event] := by
  rw [advanceAll_cons]
  constructor
  · rintro ⟨_, event, _, accepted, ⟨⟩, rfl⟩
    exact ⟨event, accepted, rfl⟩
  · rintro ⟨event, accepted, rfl⟩
    exact ⟨last, event, [], accepted, rfl, rfl⟩

theorem advanceAll_rejects (walked : advanceAll state front = .ok (last, events))
    (terminal : last.currentPhase ∈ terminalPhases) :
    ∃ raised, advanceAll state (front ++ outcome :: back) = .error raised := by
  cases total : advanceAll state (front ++ outcome :: back) with
  | error raised => exact ⟨raised, rfl⟩
  | ok result =>
    obtain ⟨middle, _, _, before, behind, _⟩ := advanceAll_append.1 total
    rw [walked] at before
    cases before
    obtain ⟨_, _, _, accepted, _⟩ := advanceAll_cons.1 behind
    rw [advance_terminal terminal] at accepted
    cases accepted

theorem advanceAll_completed (walked : advanceAll state outcomes = .ok (last, events)) :
    last.phasesCompleted = state.phasesCompleted + outcomes.countP PhaseOutcome.success := by
  induction outcomes generalizing state events with
  | nil =>
    cases walked
    rfl
  | cons outcome outcomes ih =>
    obtain ⟨next, event, rest, accepted, others, rfl⟩ := advanceAll_cons.1 walked
    have later := ih others
    rcases (advance_cases accepted).2 with ⟨succeeded, moved⟩ | ⟨failed, counted⟩
    · rw [List.countP_cons_of_pos succeeded, later, moved.completed]
      omega
    · rw [List.countP_cons_of_neg (by simp [failed]), later, counted.completed]

end Steps

/-! ## The phases of a run -/

/-- The phases of the sequence from this one on, `IDLE` in front. -/
def remainingPhases (phase : EnumRedeployPhase) : List EnumRedeployPhase :=
  (.idle :: phaseSequence).dropWhile (· ≠ phase)

/-- The phases that a run has visited, the one it starts in first. -/
def visitedPhases (state : ModelRedeployState) (events : List ModelRedeployPhaseEvent) :
    List EnumRedeployPhase :=
  state.currentPhase :: events.map (·.toPhase)

/-- The visited phases without `FAILED` and without the repeats in place. -/
def walkedPhases (state : ModelRedeployState) (events : List ModelRedeployPhaseEvent) :
    List EnumRedeployPhase :=
  ((visitedPhases state events).filter (· ≠ .failed)).destutter (· ≠ ·)

/-- A phase on the way, the terminal `FAILED` aside. -/
def OnTheWay (phase : EnumRedeployPhase) : Prop := phase ∈ EnumRedeployPhase.idle :: phaseSequence

instance (phase : EnumRedeployPhase) : Decidable (OnTheWay phase) :=
  inferInstanceAs (Decidable (_ ∈ _))

section Phases

variable {state next last : ModelRedeployState} {events : List ModelRedeployPhaseEvent}
  {outcomes : List PhaseOutcome} {phase following : EnumRedeployPhase}

theorem nextPhase_remaining (moved : nextPhase phase = .ok following) :
    OnTheWay following ∧ phase ≠ following ∧ following ≠ .failed ∧
      remainingPhases phase = phase :: remainingPhases following := by
  cases phase <;> cases moved <;> exact ⟨by decide, by decide, by decide, by decide⟩

theorem onTheWay_ne_failed (onTheWay : OnTheWay phase) : phase ≠ .failed := by
  rintro rfl
  exact absurd onTheWay (by decide)

theorem singleton_prefix_remaining (onTheWay : OnTheWay phase) :
    [phase] <+: remainingPhases phase := by
  cases phase <;>
    first | exact (by decide) | exact absurd onTheWay (by decide)

theorem walkedPhases_nil (onTheWay : OnTheWay state.currentPhase) :
    walkedPhases state [] = [state.currentPhase] := by
  unfold walkedPhases visitedPhases
  rw [List.map_nil, List.filter_cons_of_pos (by simpa using onTheWay_ne_failed onTheWay)]
  rfl

variable {event : ModelRedeployPhaseEvent} {rest : List ModelRedeployPhaseEvent}

theorem visitedPhases_cons (reached : event.toPhase = next.currentPhase) :
    visitedPhases state (event :: rest) = state.currentPhase :: visitedPhases next rest := by
  unfold visitedPhases
  rw [List.map_cons, reached]

section

variable (kept : state.currentPhase ≠ .failed) (reached : event.toPhase = next.currentPhase)

include kept reached

theorem walkedPhases_moves (running : next.currentPhase ≠ .failed)
    (differs : state.currentPhase ≠ next.currentPhase) :
    walkedPhases state (event :: rest) = state.currentPhase :: walkedPhases next rest := by
  unfold walkedPhases
  rw [visitedPhases_cons reached, List.filter_cons_of_pos (by simpa using kept)]
  unfold visitedPhases
  rw [List.filter_cons_of_pos (by simpa using running), List.destutter_cons_cons,
    if_pos differs]
  rfl

theorem walkedPhases_stays (same : next.currentPhase = state.currentPhase) :
    walkedPhases state (event :: rest) = walkedPhases next rest := by
  unfold walkedPhases
  rw [visitedPhases_cons reached, List.filter_cons_of_pos (by simpa using kept)]
  unfold visitedPhases
  rw [same, List.filter_cons_of_pos (by simpa using kept), List.destutter_cons_cons,
    if_neg (by simp)]
  rfl

end

theorem walkedPhases_fails (kept : state.currentPhase ≠ .failed)
    (reached : event.toPhase = .failed) : walkedPhases state [event] = [state.currentPhase] := by
  unfold walkedPhases visitedPhases
  rw [List.filter_cons_of_pos (by simpa using kept), List.map_cons, reached]
  rfl

theorem walkedPhases_prefix (onTheWay : OnTheWay state.currentPhase)
    (walked : advanceAll state outcomes = .ok (last, events)) :
    walkedPhases state events <+: remainingPhases state.currentPhase := by
  induction outcomes generalizing state events with
  | nil =>
    cases walked
    rw [walkedPhases_nil onTheWay]
    exact singleton_prefix_remaining onTheWay
  | cons outcome outcomes ih =>
    obtain ⟨next, event, rest, accepted, others, rfl⟩ := advanceAll_cons.1 walked
    obtain ⟨advanced, step⟩ := advance_cases accepted
    have kept := onTheWay_ne_failed onTheWay
    rcases step with ⟨_, moved⟩ | ⟨_, counted⟩
    · obtain ⟨within, differs, running, remaining⟩ := nextPhase_remaining moved.phase
      rw [walkedPhases_moves kept advanced.toPhase running differs, remaining]
      exact (List.prefix_cons_inj _).2 (ih within others)
    · have phase := counted.phase
      split at phase
      · -- the breaker trips: nothing is accepted any more
        have stopped : rest = [] := by
          cases outcomes with
          | nil =>
            cases others
            rfl
          | cons other outcomes =>
            obtain ⟨_, _, _, again, _⟩ := advanceAll_cons.1 others
            rw [advance_terminal (by rw [phase]; decide)] at again
            cases again
        rw [stopped, walkedPhases_fails kept (advanced.toPhase.trans phase)]
        exact singleton_prefix_remaining onTheWay
      · rw [walkedPhases_stays kept advanced.toPhase phase, ← phase]
        exact ih (phase ▸ onTheWay) others

end Phases

/-! ## The breaker -/

def LastFailures (limit : ℕ) (events : List ModelRedeployPhaseEvent) : Prop :=
  ∃ phase, limit ≤ events.length ∧
    ∀ event ∈ events.reverse.take limit, event.success = false ∧ event.fromPhase = phase

/-- The failures since the last success, the latest first. -/
def failureRow (events : List ModelRedeployPhaseEvent) : List ModelRedeployPhaseEvent :=
  events.reverse.takeWhile (!·.success)

structure BreakerHolds (state : ModelRedeployState) (events : List ModelRedeployPhaseEvent) :
    Prop where
  open_row : state.currentPhase ≠ .failed →
    (failureRow events).length = state.consecutiveFailures ∧
      state.consecutiveFailures < state.maxConsecutiveFailures ∧
      ∀ event ∈ failureRow events, event.fromPhase = state.currentPhase
  tripped : state.currentPhase = .failed → LastFailures state.maxConsecutiveFailures events

section Breaker

variable {state next last : ModelRedeployState} {outcome : PhaseOutcome}
  {event : ModelRedeployPhaseEvent} {events : List ModelRedeployPhaseEvent}
  {outcomes : List PhaseOutcome} {limit : ℕ}

theorem le_length_takeWhile {α : Type} {passes : α → Bool} {items : List α}
    (long : limit ≤ items.length) (pass : ∀ item ∈ items.take limit, passes item = true) :
    limit ≤ (items.takeWhile passes).length := by
  have whole := List.take_append_drop limit items
  rw [← whole, List.takeWhile_append_of_pos pass, List.length_append, List.length_take]
  omega

theorem LastFailures.le_failureRow (last : LastFailures limit events) :
    limit ≤ (failureRow events).length := by
  obtain ⟨phase, long, failures⟩ := last
  refine le_length_takeWhile (by rwa [List.length_reverse]) fun event listed => ?_
  rw [(failures event listed).1]
  rfl

theorem failureRow_success (succeeded : event.success = true) :
    failureRow (events ++ [event]) = [] := by
  unfold failureRow
  rw [List.reverse_concat, List.takeWhile_cons_of_neg (by simp [succeeded])]

theorem failureRow_failure (failed : event.success = false) :
    failureRow (events ++ [event]) = event :: failureRow events := by
  unfold failureRow
  rw [List.reverse_concat, List.takeWhile_cons_of_pos (by simp [failed])]

theorem failureRow_prefix_events : failureRow events <+: events.reverse := List.takeWhile_prefix _

theorem success_of_mem_failureRow (listed : event ∈ failureRow events) : event.success = false := by
  have kept := List.mem_takeWhile_imp listed
  simpa using kept

theorem breakerHolds_step (holds : BreakerHolds state events)
    (accepted : advance state outcome = .ok (next, event)) :
    BreakerHolds next (events ++ [event]) := by
  obtain ⟨advanced, step⟩ := advance_cases accepted
  have running : state.currentPhase ≠ .failed := by
    intro failed
    exact advanced.running (by rw [failed]; decide)
  obtain ⟨row, short, same⟩ := holds.open_row running
  rcases step with ⟨succeeded, moved⟩ | ⟨failed, counted⟩
  · have empty := @failureRow_success event events (advanced.success.trans succeeded)
    refine ⟨fun _ => ?_, fun trips => ?_⟩
    · rw [empty, moved.failures, advanced.limit]
      exact ⟨rfl, by omega, fun _ impossible => absurd impossible List.not_mem_nil⟩
    · exact absurd trips (nextPhase_remaining moved.phase).2.2.1
  · have eventFailed := advanced.success.trans failed
    have grown := @failureRow_failure event events eventFailed
    -- the row with the new failure: all of the phase that the run was in
    have ofPhase : ∀ listed ∈ event :: failureRow events, listed.fromPhase = state.currentPhase := by
      intro listed within
      rcases List.mem_cons.1 within with rfl | earlier
      · exact advanced.fromPhase
      · exact same listed earlier
    have phase := counted.phase
    split at phase
    · next trips =>
      refine ⟨fun runs => absurd phase runs, fun _ => ⟨state.currentPhase, ?_, ?_⟩⟩
      · have within := (@failureRow_prefix_events events).length_le
        rw [List.length_reverse] at within
        rw [advanced.limit, List.length_append, List.length_singleton]
        omega
      · have whole : (events ++ [event]).reverse.take next.maxConsecutiveFailures =
            event :: failureRow events := by
          have taken := List.prefix_iff_eq_take.1 (@failureRow_prefix_events (events ++ [event]))
          rw [grown, List.length_cons, row] at taken
          rw [taken, advanced.limit]
          congr 1
          omega
        rw [whole]
        intro listed within
        refine ⟨?_, ofPhase listed within⟩
        rcases List.mem_cons.1 within with rfl | earlier
        · exact eventFailed
        · exact success_of_mem_failureRow earlier
    · next stays =>
      refine ⟨fun _ => ?_, fun trips => absurd (phase.symm.trans trips) running⟩
      rw [grown, counted.failures, advanced.limit, List.length_cons, row, phase]
      exact ⟨rfl, by omega, ofPhase⟩

theorem breakerHolds_run {seen : List ModelRedeployPhaseEvent} (holds : BreakerHolds state seen)
    (walked : advanceAll state outcomes = .ok (last, events)) :
    BreakerHolds last (seen ++ events) := by
  induction outcomes generalizing state seen events with
  | nil =>
    cases walked
    rw [List.append_nil]
    exact holds
  | cons outcome outcomes ih =>
    obtain ⟨next, event, rest, accepted, others, rfl⟩ := advanceAll_cons.1 walked
    rw [List.append_cons]
    exact ih (breakerHolds_step holds accepted) others

theorem BreakerHolds.failed_iff (holds : BreakerHolds state events) :
    state.currentPhase = .failed ↔ LastFailures state.maxConsecutiveFailures events := by
  constructor
  · exact holds.tripped
  · intro failures
    by_contra running
    obtain ⟨row, short, _⟩ := holds.open_row running
    have long := failures.le_failureRow
    omega

/-- The phases in which a run from this one on may still report. -/
def room (phase : EnumRedeployPhase) : ℕ := (remainingPhases phase).length - 1

/-- The outcomes left to a run: in each phase as many as trip the breaker. -/
def slack (state : ModelRedeployState) : ℕ :=
  room state.currentPhase * state.maxConsecutiveFailures - state.consecutiveFailures

def Underway (state : ModelRedeployState) : Prop :=
  0 < room state.currentPhase ∧ state.consecutiveFailures < state.maxConsecutiveFailures

theorem nextPhase_room {phase following : EnumRedeployPhase}
    (moved : nextPhase phase = .ok following) :
    room phase = room following + 1 ∧ (following ∉ terminalPhases → 0 < room following) := by
  cases phase <;> cases moved <;> decide

theorem advance_slack (underway : Underway state)
    (accepted : advance state outcome = .ok (next, event)) :
    slack next < slack state ∧ (next.currentPhase ∉ terminalPhases → Underway next) := by
  obtain ⟨roomy, short⟩ := underway
  obtain ⟨advanced, step⟩ := advance_cases accepted
  unfold slack Underway
  rw [advanced.limit]
  rcases step with ⟨_, moved⟩ | ⟨_, counted⟩
  · obtain ⟨one_less, roomy'⟩ := nextPhase_room moved.phase
    rw [moved.failures, one_less, Nat.succ_mul]
    exact ⟨by omega, fun running => ⟨roomy' running, by omega⟩⟩
  · have enough := Nat.le_mul_of_pos_left state.maxConsecutiveFailures roomy
    rw [counted.failures, counted.phase]
    split
    · rw [show room .failed = 0 from rfl]
      exact ⟨by omega, fun running => absurd (by decide) running⟩
    · exact ⟨by omega, fun _ => ⟨roomy, by omega⟩⟩

theorem length_le_slack (underway : state.currentPhase ∉ terminalPhases → Underway state)
    (walked : advanceAll state outcomes = .ok (last, events)) : outcomes.length ≤ slack state := by
  induction outcomes generalizing state events with
  | nil => exact Nat.zero_le _
  | cons outcome outcomes ih =>
    obtain ⟨next, event, rest, accepted, others, rfl⟩ := advanceAll_cons.1 walked
    have step := advance_slack (underway (advance_cases accepted).1.running) accepted
    exact (Nat.succ_le_succ (ih step.2 others)).trans step.1

/-- A redeploy ends: it takes at most three outcomes for each phase, then refuses. -/
theorem advanceAll_ends (command : ModelRedeployCommand) (outcomes : List PhaseOutcome) :
    outcomes.length ≤ phaseSequence.length * 3 ∨
      ∃ raised, advanceAll (startState command) outcomes = .error raised := by
  cases walked : advanceAll (startState command) outcomes with
  | error raised => exact Or.inr ⟨raised, rfl⟩
  | ok reached =>
    have underway : Underway (startState command) :=
      And.intro (by decide : 0 < room .idle) (by decide : 0 < 3)
    exact Or.inl (length_le_slack (fun _ => underway) walked)

end Breaker

/-! ## The flags -/

section

variable (command : ModelRedeployCommand)

def selectedPhases : List EnumRedeployPhase :=
  if command.verifyOnly then [.verifyHealth, .done]
  else if command.skipSync then phaseSequence.filter (· ≠ .syncClones)
  else phaseSequence

structure RunHonours (outcomes : List PhaseOutcome) (state : ModelRedeployState)
    (events : List ModelRedeployPhaseEvent) : Prop where
  phases : walkedPhases (startState command) events <+: .idle :: selectedPhases command
  completed : state.phasesCompleted = outcomes.countP PhaseOutcome.success
  breaker : state.currentPhase = .failed ↔ LastFailures state.maxConsecutiveFailures events

structure HonoursFlags (outcomes : List PhaseOutcome) : Prop where
  runs : ∀ front, front <+: outcomes → ∀ state events,
    advanceAll (startState command) front = .ok (state, events) →
      RunHonours command front state events
  closed : ∀ front outcome back state events, outcomes = front ++ outcome :: back →
    advanceAll (startState command) front = .ok (state, events) →
    state.currentPhase ∈ terminalPhases →
    ∃ raised, advanceAll (startState command) outcomes = .error raised

/-- A run without flags, or one whose breaker trips before any success. -/
def FlagsIdle (outcomes : List PhaseOutcome) : Prop :=
  (command.skipSync = false ∧ command.verifyOnly = false) ∨
    ∀ outcome ∈ outcomes.take (startState command).maxConsecutiveFailures, outcome.success = false

end

section Flags

variable {command : ModelRedeployCommand} {state last : ModelRedeployState}
  {events : List ModelRedeployPhaseEvent} {outcomes front : List PhaseOutcome} {outcome : PhaseOutcome}

theorem breakerHolds_start : BreakerHolds (startState command) [] := by
  refine ⟨fun _ => ⟨rfl, Nat.succ_pos 2, fun _ impossible => ?_⟩, fun failed => ?_⟩
  · exact absurd impossible List.not_mem_nil
  · cases failed

theorem startState_walks (walked : advanceAll (startState command) outcomes = .ok (last, events)) :
    walkedPhases (startState command) events <+: .idle :: phaseSequence :=
  walkedPhases_prefix List.mem_cons_self walked

theorem toPhase_of_failures (walked : advanceAll state outcomes = .ok (last, events))
    (failures : ∀ outcome ∈ outcomes, outcome.success = false) :
    ∀ event ∈ events, event.toPhase = state.currentPhase ∨ event.toPhase = .failed := by
  induction outcomes generalizing state events with
  | nil =>
    cases walked
    intro event impossible
    exact absurd impossible List.not_mem_nil
  | cons outcome outcomes ih =>
    obtain ⟨next, event, rest, accepted, others, rfl⟩ := advanceAll_cons.1 walked
    obtain ⟨advanced, ⟨succeeded, _⟩ | ⟨_, counted⟩⟩ := advance_cases accepted
    · rw [failures outcome List.mem_cons_self] at succeeded
      cases succeeded
    · have stays : next.currentPhase = state.currentPhase ∨ next.currentPhase = .failed := by
        rw [counted.phase]
        split
        · exact Or.inr rfl
        · exact Or.inl rfl
      have later := ih others fun outcome listed =>
        failures outcome (List.mem_cons_of_mem _ listed)
      intro listed within
      rcases List.mem_cons.1 within with rfl | behind
      · rw [advanced.toPhase]
        exact stays
      · rcases later listed behind with same | failed
        · rw [same]
          exact stays
        · exact Or.inr failed

theorem front_fails (walked : advanceAll (startState command) front = .ok (last, events))
    (failures : ∀ outcome ∈ front.take 3, outcome.success = false) :
    ∀ outcome ∈ front, outcome.success = false := by
  match front, walked, failures with
  | [], _, _ => exact fun _ impossible => absurd impossible List.not_mem_nil
  | [first], _, failures => exact failures
  | [first, second], _, failures => exact failures
  | [first, second, third], _, failures => exact failures
  | first :: second :: third :: fourth :: rest, walked, failures =>
    exfalso
    have firstFails := failures first (by simp)
    have secondFails := failures second (by simp)
    have thirdFails := failures third (by simp)
    simp [advanceAll, advance, firstFails, secondFails, thirdFails, startState, recordFailure,
      terminalPhases, Raising.bind_ok, Raising.bind_error] at walked

theorem walkedPhases_of_failures
    (walked : advanceAll (startState command) front = .ok (last, events))
    (failures : ∀ outcome ∈ front, outcome.success = false) :
    walkedPhases (startState command) events <+: [.idle] := by
  have visited := toPhase_of_failures walked failures
  have still : EnumRedeployPhase.syncClones ∉ walkedPhases (startState command) events := by
    intro listed
    have kept := (List.destutter_sublist _ _).subset listed
    rcases List.mem_cons.1 (List.mem_of_mem_filter kept) with impossible | moved
    · cases impossible
    · obtain ⟨event, within, reached⟩ := List.mem_map.1 moved
      rcases visited event within with stays | failed
      · rw [reached] at stays
        cases stays
      · rw [reached] at failed
        cases failed
  -- of the whole sequence only the first phase is left
  have steps := List.prefix_iff_eq_take.1 (startState_walks walked)
  match count : (walkedPhases (startState command) events).length with
  | 0 =>
    rw [List.length_eq_zero_iff.1 count]
    exact List.nil_prefix
  | 1 =>
    rw [count] at steps
    rw [steps]
    exact List.prefix_rfl
  | more + 2 =>
    rw [count] at steps
    rw [steps] at still
    exact absurd (List.mem_cons_of_mem _ List.mem_cons_self) still

theorem syncs_against_flags (flagged : ¬ (command.skipSync = false ∧ command.verifyOnly = false)) :
    ¬ [EnumRedeployPhase.idle, .syncClones] <+: .idle :: selectedPhases command := by
  unfold selectedPhases
  cases verify : command.verifyOnly with
  | true =>
    rw [if_pos rfl]
    decide
  | false =>
    cases skip : command.skipSync with
    | true =>
      rw [if_neg Bool.false_ne_true, if_pos rfl]
      decide
    | false => exact absurd ⟨skip, verify⟩ flagged

theorem advance_fails (running : state.currentPhase ∉ terminalPhases)
    (failed : outcome.success = false) :
    advance state outcome = .ok (recordFailure state outcome.errorMessage) := by
  unfold advance
  rw [if_neg (by rwa [List.contains_iff_mem]), failed]
  rfl

theorem advance_syncs (idle : state.currentPhase = .idle)
    (succeeded : outcome.success = true) :
    advance state outcome = .ok (recordSuccess state .syncClones) := by
  unfold advance
  rw [idle, succeeded]
  rfl

theorem advanceAll_syncs {failures : List PhaseOutcome} (idle : state.currentPhase = .idle)
    (few : state.consecutiveFailures + failures.length < state.maxConsecutiveFailures)
    (fail : ∀ failure ∈ failures, failure.success = false) (succeeded : outcome.success = true) :
    ∃ last events, advanceAll state (failures ++ [outcome]) = .ok (last, events) ∧
      walkedPhases state events = [.idle, .syncClones] := by
  have kept : state.currentPhase ≠ .failed := by
    rw [idle]
    decide
  induction failures generalizing state with
  | nil =>
    refine ⟨_, _, advanceAll_singleton.2 ⟨_, advance_syncs idle succeeded, rfl⟩, ?_⟩
    have synced : (recordSuccess state .syncClones).1.currentPhase = .syncClones := rfl
    rw [walkedPhases_moves kept synced.symm (by rw [synced]; decide)
      (by rw [idle, synced]; decide), idle]
    rfl
  | cons failure failures ih =>
    have accepted := @advance_fails state failure (by rw [idle]; decide)
      (fail failure List.mem_cons_self)
    obtain ⟨advanced, ⟨impossible, _⟩ | ⟨_, counted⟩⟩ := advance_cases accepted
    · rw [fail failure List.mem_cons_self] at impossible
      cases impossible
    · rw [List.length_cons] at few
      have stays := counted.phase
      rw [if_neg (by omega)] at stays
      obtain ⟨last, events, walked, walks⟩ := ih (stays.trans idle)
        (by rw [counted.failures, advanced.limit]; omega)
        (fun other listed => fail other (List.mem_cons_of_mem _ listed)) (by rw [stays]; exact kept)
      refine ⟨last, _, advanceAll_cons.2 ⟨_, _, _, accepted, walked, rfl⟩, ?_⟩
      rw [walkedPhases_stays kept advanced.toPhase stays]
      exact walks

theorem exists_first_success {limit : ℕ}
    (listed : outcome ∈ outcomes.take limit) (succeeded : outcome.success = true) :
    ∃ failures first rest, outcomes = (failures ++ [first]) ++ rest ∧ failures.length < limit ∧
      (∀ failure ∈ failures, failure.success = false) ∧ first.success = true := by
  induction outcomes generalizing limit with
  | nil =>
    rw [List.take_nil] at listed
    cases listed
  | cons head outcomes ih =>
    cases limit with
    | zero => cases listed
    | succ limit =>
      cases first : head.success with
      | true => exact ⟨[], head, outcomes, rfl, Nat.succ_pos _, by simp, first⟩
      | false =>
        rcases List.mem_cons.1 listed with rfl | later
        · rw [first] at succeeded
          cases succeeded
        · obtain ⟨failures, success, rest, rfl, few, fail, succeeds⟩ := ih later
          refine ⟨head :: failures, success, rest, rfl, Nat.succ_lt_succ few, ?_, succeeds⟩
          intro failure within
          rcases List.mem_cons.1 within with rfl | earlier
          · exact first
          · exact fail failure earlier

theorem runHonours_of_walks (walked : advanceAll (startState command) front = .ok (last, events))
    (walks : walkedPhases (startState command) events <+: .idle :: selectedPhases command) :
    RunHonours command front last events := by
  refine ⟨walks, ?_, (breakerHolds_run breakerHolds_start walked).failed_iff⟩
  rw [advanceAll_completed walked]
  exact Nat.zero_add _

/-- A redeploy honours its flags exactly when it has none or when it never gets to a
success. -/
theorem honours_flags_iff : HonoursFlags command outcomes ↔ FlagsIdle command outcomes := by
  constructor
  · intro honours
    by_contra idle
    unfold FlagsIdle at idle
    push Not at idle
    obtain ⟨flagged, outcome, listed, succeeded⟩ := idle
    rw [ne_eq, Bool.not_eq_false] at succeeded
    obtain ⟨failures, first, rest, whole, few, fail, succeeds⟩ :=
      exists_first_success listed succeeded
    obtain ⟨last, events, walked, walks⟩ := @advanceAll_syncs (startState command) first failures rfl
      (by rw [show (startState command).consecutiveFailures = 0 from rfl]; omega) fail succeeds
    have front : failures ++ [first] <+: outcomes := ⟨rest, whole.symm⟩
    have phases := (honours.runs _ front last events walked).phases
    rw [walks] at phases
    refine absurd phases (syncs_against_flags fun none => ?_)
    exact absurd none.2 (flagged none.1)
  · intro idle
    refine ⟨fun front within last events walked => runHonours_of_walks walked ?_, ?_⟩
    · rcases idle with ⟨skip, verify⟩ | failures
      · have selected : selectedPhases command = phaseSequence := by
          rw [selectedPhases, skip, verify]
          rfl
        rw [selected]
        exact startState_walks walked
      · have fail : ∀ outcome ∈ front.take 3, outcome.success = false := by
          obtain ⟨rest, rfl⟩ := within
          rw [List.take_append] at failures
          exact fun outcome listed => failures outcome (List.mem_append_left _ listed)
        have walks := walkedPhases_of_failures walked (front_fails walked fail)
        exact walks.trans (List.prefix_append [EnumRedeployPhase.idle] _)
    · rintro front outcome back state events rfl walked terminal
      exact advanceAll_rejects walked terminal

end Flags

/-- A start that asks to skip the clones. -/
def skippingCommand : ModelRedeployCommand where
  correlationId := 1
  skipSync := true
  requestedAt := ⟨0, some 0⟩
  prodPins := by decide

/-- The first success of a redeploy that skips the clones syncs them. -/
theorem skipped_sync_runs : ¬ HonoursFlags skippingCommand [⟨true, none⟩] := by
  intro honours
  have phases := (honours.runs _ List.prefix_rfl _ _ rfl).phases
  exact absurd phases (by decide)

end OmniMarket.Redeploy
