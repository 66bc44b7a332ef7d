import OmniMarket.SwarmFanout.WaveStep

/-!
# Two runs whose polls answer in different orders

The events for one subtask agree when they all decide it in the same way. Two runs whose answers
are permutations of each other then go through the same waves with the same statuses.
-/

namespace OmniMarket.SwarmFanout
variable {answer : List PyDict} {state state' : FanoutState}

/-- What an event says: a success, a failure, or `none` for an error. -/
def verdictBy (env : FanoutEnv) (event : PyDict) : Option Bool :=
  (env.intOfText (latencyText env event)).map fun _ => isSuccess env event

def Agree (env : FanoutEnv) (request : ModelSwarmFanoutRequest) (answer : List PyDict)
    (subtask : ModelSubtask) : Prop :=
  ∀ event ∈ eventsFor env request answer subtask.subtaskId,
    ∀ event' ∈ eventsFor env request answer subtask.subtaskId,
      verdictBy env event = verdictBy env event'

def FanoutEnv.answering (env : FanoutEnv) (poll : ℕ → List PyDict) : FanoutEnv :=
  { env with poll }

def publishedIn (env : FanoutEnv) (request : ModelSwarmFanoutRequest) (before : FanoutState)
    (wave : NumberedWave) : List ModelSubtask :=
  (reachedOf env request before wave).filter fun subtask =>
    (assignedEndpoint env request subtask).isSome

variable {env : FanoutEnv} {request : ModelSwarmFanoutRequest} {poll : ℕ → List PyDict}

theorem verdictOf_some {subtask : ModelSubtask}
    (assigned : (assignedEndpoint env request subtask).isSome) :
    verdictOf env request answer subtask =
      match (eventsFor env request answer subtask.subtaskId).getLast? with
      | none => some .timeout
      | some event => (verdictBy env event).map fun success =>
        if success = true then .succeeded else .failed := by
  obtain ⟨endpoint, held⟩ := Option.isSome_iff_exists.1 assigned
  simp only [verdictOf, held]
  cases (eventsFor env request answer subtask.subtaskId).getLast? with
  | none => rfl
  | some event =>
    simp only [verdictBy, Option.map_map]
    rfl

theorem verdictOf_perm {answer' : List PyDict} {subtask : ModelSubtask}
    (permuted : answer'.Perm answer)
    (agree : (assignedEndpoint env request subtask).isSome → Agree env request answer subtask) :
    verdictOf env request answer' subtask = verdictOf env request answer subtask := by
  by_cases assigned : (assignedEndpoint env request subtask).isSome
  · rw [verdictOf_some assigned, verdictOf_some assigned]
    have events : (eventsFor env request answer' subtask.subtaskId).Perm
        (eventsFor env request answer subtask.subtaskId) := permuted.filter _
    cases last' : (eventsFor env request answer' subtask.subtaskId).getLast? with
    | none =>
      rw [List.getLast?_eq_none_iff] at last'
      rw [last'] at events
      rw [List.nil_perm.1 events]
      rfl
    | some event' =>
      have listed' := events.mem_iff.1 (List.mem_of_getLast? last')
      cases last : (eventsFor env request answer subtask.subtaskId).getLast? with
      | none =>
        rw [List.getLast?_eq_none_iff.1 last] at listed'
        exact absurd listed' List.not_mem_nil
      | some event =>
        simp only [agree assigned event' listed' event (List.mem_of_getLast? last)]
  · rw [Option.not_isSome_iff_eq_none] at assigned
    simp only [verdictOf, assigned]

/-! ## What does not depend on the answers -/

theorem inTime_answering (reading : ℕ) (subtasks : List ModelSubtask) :
    inTime (env.answering poll) request reading subtasks = inTime env request reading subtasks := by
  induction subtasks generalizing reading with
  | nil => rfl
  | cons subtask rest ih =>
    rw [inTime, inTime, ih]
    rfl

theorem awaitedOf_answering (reached : List ModelSubtask) :
    awaitedOf (env.answering poll) request reached = awaitedOf env request reached := rfl

theorem verdictOf_answering (answer : List PyDict) (subtask : ModelSubtask) :
    verdictOf (env.answering poll) request answer subtask = verdictOf env request answer subtask :=
  rfl

/-! ## Runs in step -/

def statuses (dispatches : List ModelSwarmDispatch) : List (String × EnumExecutionStatus) :=
  dispatches.map fun dispatch => (dispatch.subtaskId, dispatch.executionStatus)

/-- The two states differ in what the dispatches say of latencies, models and reasons only. -/
structure InStep (state state' : FanoutState) : Prop where
  readings : state'.readings = state.readings
  polls : state'.polls = state.polls
  statuses : statuses state'.dispatches = statuses state.dispatches
  failedIds : state'.failedIds = state.failedIds
  raised : state'.raised.isSome = state.raised.isSome

section

variable (inStep : InStep state state')

include inStep

theorem sortOut_inStep (waveNum : ℕ) (runnable : List ModelSubtask) (subtask : ModelSubtask) :
    InStep (sortOut waveNum (state, runnable) subtask).1
        (sortOut waveNum (state', runnable) subtask).1 ∧
      (sortOut waveNum (state', runnable) subtask).2 =
        (sortOut waveNum (state, runnable) subtask).2 := by
  rw [sortOut, sortOut, inStep.failedIds]
  by_cases hindered : subtask.dependsOn.any (state.failedIds.contains ·) = true
  · rw [if_pos hindered, if_pos hindered]
    refine ⟨⟨inStep.readings, inStep.polls, ?_, rfl, inStep.raised⟩, rfl⟩
    have same := inStep.statuses
    simp only [statuses, List.map_append] at same ⊢
    rw [same]
  · rw [if_neg hindered, if_neg hindered]
    exact ⟨inStep, rfl⟩

theorem sortAll_inStep (waveNum : ℕ) (subtasks runnable : List ModelSubtask) :
    InStep (subtasks.foldl (sortOut waveNum) (state, runnable)).1
        (subtasks.foldl (sortOut waveNum) (state', runnable)).1 ∧
      (subtasks.foldl (sortOut waveNum) (state', runnable)).2 =
        (subtasks.foldl (sortOut waveNum) (state, runnable)).2 := by
  induction subtasks generalizing state state' runnable with
  | nil => exact ⟨inStep, rfl⟩
  | cons subtask rest ih =>
    obtain ⟨first, same⟩ := sortOut_inStep inStep waveNum runnable subtask
    rw [List.foldl_cons, List.foldl_cons]
    generalize sortOut waveNum (state, runnable) subtask = moved at first same ⊢
    generalize sortOut waveNum (state', runnable) subtask = moved' at first same ⊢
    obtain ⟨reached, kept⟩ := moved
    obtain ⟨reached', kept'⟩ := moved'
    obtain rfl : kept' = kept := same
    exact ih first kept'

theorem afterPublishing_inStep (runnable : List ModelSubtask) :
    InStep (afterPublishing env request state runnable)
      (afterPublishing (env.answering poll) request state' runnable) := by
  refine ⟨?_, inStep.polls, inStep.statuses, inStep.failedIds, inStep.raised⟩
  show state'.readings + _ = state.readings + _
  rw [inStep.readings]

theorem afterPolling_inStep :
    InStep (afterPolling env request state) (afterPolling (env.answering poll) request state') := by
  refine ⟨?_, ?_, inStep.statuses, inStep.failedIds, inStep.raised⟩
  · show state'.readings + 1 = state.readings + 1
    rw [inStep.readings]
  · simp only [afterPolling, inStep.polls, inStep.readings]
    rfl

theorem afterRecording_inStep {made made' : List ModelSwarmDispatch}
    (same : statuses made' = statuses made) :
    InStep (afterRecording state made) (afterRecording state' made') := by
  have failures (dispatches : List ModelSwarmDispatch) :
      (dispatches.filter (·.executionStatus ≠ .succeeded)).map (·.subtaskId) =
        ((statuses dispatches).filter (·.2 ≠ .succeeded)).map (·.1) := by
    rw [statuses, List.filter_map, List.map_map]
    rfl
  refine ⟨inStep.readings, inStep.polls, ?_, ?_, inStep.raised⟩
  · have before := inStep.statuses
    simp only [afterRecording, statuses, List.map_append] at before same ⊢
    rw [before, same]
  · simp only [afterRecording]
    rw [failures, failures, same, inStep.failedIds]

end

theorem dispatched_inStep (poll : ℕ → List PyDict) (waveNum : ℕ) {answer' : List PyDict}
    {awaited : List ModelSubtask} (permuted : answer'.Perm answer)
    (agree : ∀ subtask ∈ awaited, (assignedEndpoint env request subtask).isSome →
      Agree env request answer subtask) :
    ((∃ raised, awaited.mapM (dispatchFor env request waveNum answer) = .error raised) ∧
        ∃ raised, awaited.mapM (dispatchFor (env.answering poll) request waveNum answer') =
          .error raised) ∨
      ∃ made made', awaited.mapM (dispatchFor env request waveNum answer) = .ok made ∧
        awaited.mapM (dispatchFor (env.answering poll) request waveNum answer') = .ok made' ∧
        statuses made' = statuses made := by
  have same : ∀ subtask ∈ awaited, verdictOf (env.answering poll) request answer' subtask =
      verdictOf env request answer subtask := fun subtask listed =>
    (verdictOf_answering answer' subtask).trans (verdictOf_perm permuted (agree subtask listed))
  -- a subtask without a verdict raises in both runs
  have both : (∃ made, awaited.mapM (dispatchFor env request waveNum answer) = .ok made) ↔
      ∃ made', awaited.mapM (dispatchFor (env.answering poll) request waveNum answer') =
        .ok made' := by
    rw [exists_dispatched_ok, exists_dispatched_ok]
    exact forall₂_congr fun subtask listed => by rw [same subtask listed]
  cases ended : awaited.mapM (dispatchFor env request waveNum answer) with
  | error raised =>
    refine .inl ⟨⟨raised, rfl⟩, ?_⟩
    cases ended' : awaited.mapM (dispatchFor (env.answering poll) request waveNum answer') with
    | error raised' => exact ⟨raised', rfl⟩
    | ok made' =>
      obtain ⟨made, contrary⟩ := both.2 ⟨made', ended'⟩
      rw [ended] at contrary
      cases contrary
  | ok made =>
    obtain ⟨made', ended'⟩ := both.1 ⟨made, ended⟩
    refine .inr ⟨made, made', rfl, ended', ?_⟩
    have verdicts := dispatched_verdicts ended
    have verdicts' := dispatched_verdicts ended'
    have told : awaited.map (fun subtask =>
        (subtask.subtaskId, verdictOf (env.answering poll) request answer' subtask)) =
        awaited.map fun subtask => (subtask.subtaskId, verdictOf env request answer subtask) :=
      List.map_congr_left fun subtask listed => by rw [same subtask listed]
    have pairs := verdicts'.trans (told.trans verdicts.symm)
    have inject : Function.Injective
        (fun pair : String × EnumExecutionStatus => (pair.1, some pair.2)) := by
      rintro ⟨id, status⟩ ⟨id', status'⟩ equal
      cases equal
      rfl
    refine List.map_injective_iff.2 inject ?_
    rw [statuses, statuses, List.map_map, List.map_map]
    exact pairs

theorem waveStep_inStep {before before' : FanoutState} {wave : NumberedWave}
    (inStep : InStep before before')
    (permuted : (poll before.polls.length).Perm (env.poll before.polls.length))
    (agree : ∀ subtask ∈ publishedIn env request before wave,
      Agree env request (answerOf env before) subtask) :
    InStep (waveStep env request (deadlineOf env request) before wave).1
      (waveStep (env.answering poll) request (deadlineOf (env.answering poll) request)
        before' wave).1 := by
  cases going : before.raised with
  | some raised =>
    have stopped := inStep.raised
    rw [going] at stopped
    obtain ⟨raised', held⟩ := Option.isSome_iff_exists.1 stopped
    -- both runs have raised, and neither moves
    simp only [waveStep, going, held]
    exact inStep
  | none =>
    have goes := inStep.raised
    rw [going, Option.isSome_none, Option.isSome_eq_false_iff, Option.isNone_iff_eq_none] at goes
    obtain ⟨skipped, sorted, -, -⟩ := sortOut_sorts before wave.2 wave.1
    obtain ⟨sortedInStep, sameRunnable⟩ := sortAll_inStep inStep wave.2 wave.1 []
    have readings : (wave.1.foldl (sortOut wave.2) (before, [])).1.readings = before.readings := by
      rw [sorted]
      rfl
    have polls : (wave.1.foldl (sortOut wave.2) (before, [])).1.polls = before.polls := by
      rw [sorted]
      rfl
    have reached : inTime env request before.readings
        (wave.1.foldl (sortOut wave.2) (before, [])).2 = reachedOf env request before wave := rfl
    simp only [waveStep, going, goes]
    generalize wave.1.foldl (sortOut wave.2) (before, []) = moved at *
    generalize wave.1.foldl (sortOut wave.2) (before', []) = moved' at *
    obtain ⟨state, runnable⟩ := moved
    obtain ⟨state', runnable'⟩ := moved'
    obtain rfl : runnable' = runnable := sameRunnable
    simp only at sortedInStep readings polls reached ⊢
    by_cases idle : runnable' = []
    · rw [if_pos idle, if_pos idle]
      exact sortedInStep
    · rw [if_neg idle, if_neg idle, dispatchWave_eq, dispatchWave_eq, inTime_answering,
        sortedInStep.readings, sortedInStep.polls, readings, polls, reached]
      have published : InStep (afterPublishing env request state runnable')
          (afterPublishing (env.answering poll) request state' runnable') :=
        afterPublishing_inStep sortedInStep runnable'
      by_cases none' : reachedOf env request before wave = []
      · rw [if_pos none', if_pos none']
        exact published
      · -- the polls answer with the same events, in another order
        rw [if_neg none', if_neg none']
        have polled : InStep (afterPolling env request (afterPublishing env request state runnable'))
            (afterPolling (env.answering poll) request
              (afterPublishing (env.answering poll) request state' runnable')) :=
          afterPolling_inStep published
        have agree' : ∀ subtask ∈ awaitedOf env request (reachedOf env request before wave),
            (assignedEndpoint env request subtask).isSome →
              Agree env request (env.poll before.polls.length) subtask := by
          intro subtask listed assigned
          exact agree subtask (List.mem_filter.2
            ⟨(awaitedOf_awaits env request _).among listed, assigned⟩)
        have permuted' : ((env.answering poll).poll before.polls.length).Perm
            (env.poll before.polls.length) := permuted
        rw [awaitedOf_answering]
        rcases dispatched_inStep poll wave.2 permuted' agree' with
          ⟨⟨raised, ended⟩, raised', ended'⟩ | ⟨made, made', ended, ended', same⟩
        · rw [ended, ended']
          exact ⟨polled.readings, polled.polls, polled.statuses, polled.failedIds, rfl⟩
        · rw [ended, ended']
          simp only [record_records]
          exact afterRecording_inStep polled same

theorem final_inStep {start start' : FanoutState} {waves : List NumberedWave}
    (inStep : InStep start start') (permuted : ∀ answered, (poll answered).Perm (env.poll answered))
    (agree : ∀ t ∈ Trace.run (waveStep env request (deadlineOf env request)) start waves,
      ∀ subtask ∈ publishedIn env request t.before t.event,
        Agree env request (answerOf env t.before) subtask) :
    InStep (Trace.final (waveStep env request (deadlineOf env request)) start waves)
      (Trace.final (waveStep (env.answering poll) request (deadlineOf (env.answering poll) request))
        start' waves) := by
  induction waves generalizing start start' with
  | nil => exact inStep
  | cons wave rest ih =>
    have first := waveStep_inStep inStep (permuted _)
      (agree ⟨start, wave, _, _⟩ List.mem_cons_self)
    exact ih first fun t taken => agree t (List.mem_cons_of_mem _ taken)

end OmniMarket.SwarmFanout
