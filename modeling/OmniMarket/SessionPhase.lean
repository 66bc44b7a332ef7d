import Mathlib.Data.List.Induction
import OmniMarket.Lib.PyText

/-!
# The session phase reducer

`HandlerSessionPhaseReducer.delta` folds the events of sessions into one state, that of the
session that was started last. The reading and writing of the state file is left out; times are
of any type.
-/

namespace OmniMarket.SessionPhase

section

def sessionStarted : String := "session.started"

def sessionEnded : String := "session.ended"

variable {Time : Type}

structure ModelSessionPhaseState (Time : Type) where
  sessionId : String
  currentPhase : String
  phaseIndex : ℤ := 0
  phaseStartedAt : Option Time := none
  budgetElapsedPct : ℤ := 0
  activeWorkerCount : ℤ := 0
  exitConditionsMet : List String := []
  exitConditionsPending : List String := []
  lastEvaluation : String := "no_action"
  lastTickAt : Option Time := none

structure ModelSessionPhaseEvent (Time : Type) where
  eventType : String
  sessionId : String
  timestamp : Time
  phase : Option String := none
  phaseIndex : Option ℤ := none
  budgetElapsedPct : Option ℤ := none
  activeWorkerCount : Option ℤ := none
  exitConditionsMet : Option (List String) := none
  exitConditionsPending : Option (List String) := none
  lastEvaluation : Option String := none

def startSession (event : ModelSessionPhaseEvent Time) : ModelSessionPhaseState Time where
  sessionId := event.sessionId
  currentPhase := PyText.textOrElse event.phase "start"
  phaseIndex := event.phaseIndex.getD 0
  phaseStartedAt := some event.timestamp
  budgetElapsedPct := event.budgetElapsedPct.getD 0
  activeWorkerCount := event.activeWorkerCount.getD 0
  exitConditionsMet := event.exitConditionsMet.getD []
  exitConditionsPending := event.exitConditionsPending.getD []
  lastEvaluation := PyText.textOrElse event.lastEvaluation "no_action"
  lastTickAt := some event.timestamp

def phaseAfter (state : ModelSessionPhaseState Time) (event : ModelSessionPhaseEvent Time) :
    String × Option Time × ℤ :=
  match event.phase with
  | none => (state.currentPhase, state.phaseStartedAt, state.phaseIndex)
  | some phase =>
    if phase ≠ state.currentPhase then
      (phase, some event.timestamp, event.phaseIndex.getD 0)
    else (state.currentPhase, state.phaseStartedAt, event.phaseIndex.getD state.phaseIndex)

def applyUpdate (state : ModelSessionPhaseState Time) (event : ModelSessionPhaseEvent Time) :
    ModelSessionPhaseState Time :=
  { state with
    currentPhase := (phaseAfter state event).1
    phaseStartedAt := (phaseAfter state event).2.1
    phaseIndex := (phaseAfter state event).2.2
    budgetElapsedPct := event.budgetElapsedPct.getD state.budgetElapsedPct
    activeWorkerCount := event.activeWorkerCount.getD state.activeWorkerCount
    exitConditionsMet := event.exitConditionsMet.getD state.exitConditionsMet
    exitConditionsPending := event.exitConditionsPending.getD state.exitConditionsPending
    lastEvaluation := event.lastEvaluation.getD state.lastEvaluation
    lastTickAt := some event.timestamp }

def delta (state : Option (ModelSessionPhaseState Time)) (event : ModelSessionPhaseEvent Time) :
    ModelSessionPhaseState Time :=
  if event.eventType = sessionStarted then startSession event
  else
    match state with
    -- an event before any start still leaves a state of its session
    | none =>
      { sessionId := event.sessionId
        currentPhase := "unknown"
        lastTickAt := some event.timestamp }
    | some state =>
      if event.sessionId ≠ state.sessionId then state
      else if event.eventType = sessionEnded then
        { state with
          currentPhase := "ended"
          lastTickAt := some event.timestamp }
      else applyUpdate state event

def fold (events : List (ModelSessionPhaseEvent Time)) : Option (ModelSessionPhaseState Time) :=
  events.foldl (fun state event => some (delta state event)) none

theorem fold_concat (events : List (ModelSessionPhaseEvent Time))
    (event : ModelSessionPhaseEvent Time) :
    fold (events ++ [event]) = some (delta (fold events) event) := by
  rw [fold, List.foldl_append]
  rfl

/-! ## One event -/

section Step

variable {state : ModelSessionPhaseState Time} {event : ModelSessionPhaseEvent Time}

theorem delta_started (starts : event.eventType = sessionStarted)
    (state : Option (ModelSessionPhaseState Time)) : delta state event = startSession event :=
  if_pos starts

theorem delta_foreign (starts : event.eventType ≠ sessionStarted)
    (foreign : event.sessionId ≠ state.sessionId) : delta (some state) event = state := by
  rw [delta, if_neg starts]
  exact if_pos foreign

theorem delta_ended (ends : event.eventType = sessionEnded)
    (own : event.sessionId = state.sessionId) :
    delta (some state) event =
      { state with currentPhase := "ended", lastTickAt := some event.timestamp } := by
  have starts : event.eventType ≠ sessionStarted := by
    rw [ends]
    decide
  rw [delta, if_neg starts]
  exact (if_neg (not_not.2 own)).trans (if_pos ends)

theorem delta_update (starts : event.eventType ≠ sessionStarted)
    (ends : event.eventType ≠ sessionEnded) (own : event.sessionId = state.sessionId) :
    delta (some state) event = applyUpdate state event := by
  rw [delta, if_neg starts]
  exact (if_neg (not_not.2 own)).trans (if_neg ends)

theorem delta_sessionId (starts : event.eventType ≠ sessionStarted) :
    (delta (some state) event).sessionId = state.sessionId := by
  rcases ne_or_eq event.sessionId state.sessionId with foreign | own
  · rw [delta_foreign starts foreign]
  rcases eq_or_ne event.eventType sessionEnded with ends | goesOn
  · rw [delta_ended ends own]
  · rw [delta_update starts goesOn own]
    rfl

theorem phaseAfter_none (given : event.phase = none) :
    phaseAfter state event = (state.currentPhase, state.phaseStartedAt, state.phaseIndex) := by
  rw [phaseAfter, given]

theorem phaseAfter_new {phase : String} (given : event.phase = some phase)
    (new : phase ≠ state.currentPhase) :
    phaseAfter state event = (phase, some event.timestamp, event.phaseIndex.getD 0) := by
  rw [phaseAfter, given]
  exact if_pos new

theorem phaseAfter_same (given : event.phase = some state.currentPhase) :
    phaseAfter state event =
      (state.currentPhase, state.phaseStartedAt, event.phaseIndex.getD state.phaseIndex) := by
  rw [phaseAfter, given]
  exact if_neg (not_not.2 rfl)

theorem applyUpdate_currentPhase :
    (applyUpdate state event).currentPhase = event.phase.getD state.currentPhase := by
  show (phaseAfter state event).1 = _
  cases given : event.phase with
  | none => rw [phaseAfter_none given, Option.getD_none]
  | some phase =>
    rcases eq_or_ne phase state.currentPhase with rfl | new
    · rw [phaseAfter_same given, Option.getD_some]
    · rw [phaseAfter_new given new, Option.getD_some]

end Step

/-! ## The session of a run -/

def currentSession (events : List (ModelSessionPhaseEvent Time)) : Option String :=
  ((events.reverse.find? fun event => event.eventType = sessionStarted).or events.head?).map
    (·.sessionId)

theorem fold_session (events : List (ModelSessionPhaseEvent Time)) :
    (fold events).map (·.sessionId) = currentSession events := by
  induction events using List.reverseRecOn with
  | nil => rfl
  | append_singleton before event ih =>
    rw [fold_concat, currentSession, List.reverse_concat, List.find?_cons]
    show some (delta (fold before) event).sessionId = _
    rcases eq_or_ne event.eventType sessionStarted with starts | goesOn
    · rw [decide_eq_true starts, delta_started starts]
      rfl
    rw [decide_eq_false goesOn]
    cases folded : fold before with
    | none =>
      have nothing : before = [] := by
        cases before using List.reverseRecOn with
        | nil => rfl
        | append_singleton rest last =>
          rw [fold_concat] at folded
          cases folded
      subst nothing
      rw [delta, if_neg goesOn]
      rfl
    | some state =>
      rw [folded, currentSession] at ih
      rw [delta_sessionId goesOn]
      refine ih.trans ?_
      cases before with
      | nil => cases folded
      | cons first rest => rfl

end

/-!
# Ended sessions

The contract declares `ended` terminal. The reducer has no guard for it: an event of the session
that provides a phase writes the phase, also when it comes after the end.
-/

section

variable {Time : Type}

def Reviving (session : String) (event : ModelSessionPhaseEvent Time) : Prop :=
  event.sessionId = session ∧ event.eventType ≠ sessionStarted ∧
    event.eventType ≠ sessionEnded ∧ ∃ phase, event.phase = some phase ∧ phase ≠ "ended"

def Revives (events : List (ModelSessionPhaseEvent Time)) : Prop :=
  ∃ before ended between reviving after,
    events = before ++ ended :: (between ++ reviving :: after) ∧
    ended.eventType = sessionEnded ∧ currentSession before = some ended.sessionId ∧
    (∀ event ∈ between, event.eventType ≠ sessionStarted) ∧ Reviving ended.sessionId reviving

/-- What is to hold of every run. -/
structure KeepsEnded (events : List (ModelSessionPhaseEvent Time)) : Prop where
  /-- After the end of the state's session the phase stays `ended` until the next start. -/
  ended : ∀ before ended between after state, events = before ++ ended :: (between ++ after) →
    fold before = some state → ended.eventType = sessionEnded →
    ended.sessionId = state.sessionId →
    (∀ event ∈ between, event.eventType ≠ sessionStarted) →
    ∃ state', fold (before ++ ended :: between) = some state' ∧ state'.currentPhase = "ended"
  /-- An event of another session changes the state only as a start. -/
  foreign : ∀ before event after state, events = before ++ event :: after →
    fold before = some state → event.eventType ≠ sessionStarted →
    event.sessionId ≠ state.sessionId → fold (before ++ [event]) = some state

/-! ## After an end -/

def foldFrom (state : ModelSessionPhaseState Time) (events : List (ModelSessionPhaseEvent Time)) :
    ModelSessionPhaseState Time :=
  events.foldl (fun state event => delta (some state) event) state

theorem fold_append {before : List (ModelSessionPhaseEvent Time)}
    {state : ModelSessionPhaseState Time} (folded : fold before = some state)
    (events : List (ModelSessionPhaseEvent Time)) :
    fold (before ++ events) = some (foldFrom state events) := by
  rw [fold, List.foldl_append]
  rw [fold] at folded
  rw [folded]
  clear folded
  induction events generalizing state with
  | nil => rfl
  | cons event rest ih => exact ih

section Step

variable {state : ModelSessionPhaseState Time} {event : ModelSessionPhaseEvent Time}

theorem delta_keeps_ended (phase : state.currentPhase = "ended")
    (goesOn : event.eventType ≠ sessionStarted) (quiet : ¬ Reviving state.sessionId event) :
    (delta (some state) event).currentPhase = "ended" := by
  rcases ne_or_eq event.sessionId state.sessionId with foreign | own
  · rw [delta_foreign goesOn foreign, phase]
  rcases eq_or_ne event.eventType sessionEnded with ends | updates
  · rw [delta_ended ends own]
  rw [delta_update goesOn updates own, applyUpdate_currentPhase, phase]
  cases given : event.phase with
  | none => rfl
  | some other =>
    by_contra differs
    exact quiet ⟨own, goesOn, updates, other, given, differs⟩

theorem delta_revives (reviving : Reviving state.sessionId event) :
    (delta (some state) event).currentPhase ≠ "ended" := by
  obtain ⟨own, goesOn, updates, phase, given, differs⟩ := reviving
  rw [delta_update goesOn updates own, applyUpdate_currentPhase, given]
  exact differs

end Step

variable {events : List (ModelSessionPhaseEvent Time)}

theorem foldFrom_session {state : ModelSessionPhaseState Time}
    (goOn : ∀ event ∈ events, event.eventType ≠ sessionStarted) :
    (foldFrom state events).sessionId = state.sessionId := by
  induction events generalizing state with
  | nil => rfl
  | cons event rest ih =>
    rw [List.forall_mem_cons] at goOn
    exact (ih goOn.2).trans (delta_sessionId goOn.1)

theorem foldFrom_ended {state : ModelSessionPhaseState Time} (phase : state.currentPhase = "ended")
    (goOn : ∀ event ∈ events, event.eventType ≠ sessionStarted)
    (quiet : ∀ event ∈ events, ¬ Reviving state.sessionId event) :
    (foldFrom state events).currentPhase = "ended" := by
  induction events generalizing state with
  | nil => exact phase
  | cons event rest ih =>
    rw [List.forall_mem_cons] at goOn quiet
    have session : (delta (some state) event).sessionId = state.sessionId :=
      delta_sessionId goOn.1
    refine ih (delta_keeps_ended phase goOn.1 quiet.1) goOn.2 ?_
    rw [session]
    exact quiet.2

/-! ## Runs -/

/-- A run keeps its ended sessions ended, and its state from the events of other sessions, exactly
when no event revives an ended session. -/
theorem keepsEnded_iff (events : List (ModelSessionPhaseEvent Time)) :
    KeepsEnded events ↔ ¬ Revives events := by
  constructor
  · rintro keeps ⟨before, ended, between, reviving, after, rfl, ends, session, goOn, revives⟩
    obtain ⟨state, folded, own⟩ : ∃ state, fold before = some state ∧
        state.sessionId = ended.sessionId := by
      rw [← fold_session, Option.map_eq_some_iff] at session
      exact session
    have goOn' : ∀ event ∈ ended :: between, event.eventType ≠ sessionStarted := by
      rw [List.forall_mem_cons]
      exact ⟨by rw [ends]; decide, goOn⟩
    have longer : ∀ event ∈ between ++ [reviving], event.eventType ≠ sessionStarted := by
      rw [List.forall_mem_append, List.forall_mem_singleton]
      exact ⟨goOn, revives.2.1⟩
    -- the state before the reviving event is of the ended session
    have session' : (foldFrom state (ended :: between)).sessionId = ended.sessionId :=
      (foldFrom_session goOn').trans own
    obtain ⟨state', reached, phase⟩ := keeps.ended before ended (between ++ [reviving]) after state
      (by rw [List.append_assoc]; rfl) folded ends own.symm longer
    have last : fold (before ++ ended :: (between ++ [reviving])) =
        some (delta (some (foldFrom state (ended :: between))) reviving) := by
      rw [← fold_append folded, ← fold_concat, List.append_assoc]
      rfl
    rw [last] at reached
    obtain rfl := Option.some.inj reached
    exact delta_revives (session'.symm ▸ revives) phase
  · intro none'
    constructor
    · intro before ended between after state split folded ends own goOn
      refine ⟨_, fold_append folded _, ?_⟩
      show (foldFrom (delta (some state) ended) between).currentPhase = "ended"
      rw [delta_ended ends own]
      refine foldFrom_ended rfl goOn ?_
      intro event listed revives
      obtain ⟨earlier, later, rfl⟩ := List.append_of_mem listed
      refine none' ⟨before, ended, earlier, event, later ++ after, ?_, ends, ?_, ?_, ?_⟩
      · rw [split, List.append_assoc]
        rfl
      · rw [← fold_session, folded, own]
        rfl
      · exact fun event' listed' => goOn event' (List.mem_append_left _ listed')
      · exact own ▸ revives
    · intro before event after state _ folded goesOn foreign
      rw [fold_concat, folded, delta_foreign goesOn foreign]

def sessionEvent (eventType : String) (timestamp : ℕ) : ModelSessionPhaseEvent ℕ where
  eventType := eventType
  sessionId := "sess-1"
  timestamp := timestamp

/-- A phase event that is delivered after the end of its session. -/
theorem late_event_revives :
    ¬ KeepsEnded [sessionEvent sessionStarted 0, sessionEvent sessionEnded 2,
      { sessionEvent "session.phase.state" 1 with phase := some "dispatch" }] := by
  intro keeps
  obtain ⟨state, reached, phase⟩ := keeps.ended [sessionEvent sessionStarted 0]
    (sessionEvent sessionEnded 2)
    [{ sessionEvent "session.phase.state" 1 with phase := some "dispatch" }] []
    (startSession (sessionEvent sessionStarted 0)) rfl rfl rfl rfl (by decide)
  obtain rfl := Option.some.inj reached
  exact absurd phase (by decide)

end

end OmniMarket.SessionPhase
