import OmniMarket.Lib.Search
import OmniMarket.SwarmFanout.Fanout

/-!
# What a wave does

A wave sorts its subtasks into skipped and runnable ones, publishes the runnable ones that the
clock lets through and awaits a dispatch for each of them. Everything later is derived from
`waveStep_cases`, not from the loops.
-/

namespace OmniMarket.SwarmFanout
variable {reached awaited : List ModelSubtask} {dispatches : List ModelSwarmDispatch}
  {before : FanoutState} {wave : NumberedWave}

/-! ## Sorting out -/

def runnableOf (before : FanoutState) (wave : NumberedWave) : List ModelSubtask :=
  (wave.1.foldl (sortOut wave.2) (before, [])).2

def afterSkipping (before : FanoutState) (waveNum : ℕ) (skipped : List ModelSubtask) :
    FanoutState :=
  { before with
    dispatches := before.dispatches ++ skipped.map (skippedDispatch waveNum)
    failedIds := (skipped.map (·.subtaskId)).reverse ++ before.failedIds }

def Unhindered (state : FanoutState) (subtask : ModelSubtask) : Prop :=
  ∀ dep ∈ subtask.dependsOn, dep ∉ state.failedIds

structure Sorts (before : FanoutState) (waveNum : ℕ) (subtasks skipped runnable : List ModelSubtask)
    (after : FanoutState) : Prop where
  state : after = afterSkipping before waveNum skipped
  each : (skipped ++ runnable).Perm subtasks
  unhindered : ∀ subtask ∈ runnable, Unhindered before subtask

theorem sortOut_sorts (before : FanoutState) (waveNum : ℕ) (subtasks : List ModelSubtask) :
    ∃ skipped, Sorts before waveNum subtasks skipped
      (subtasks.foldl (sortOut waveNum) (before, [])).2
      (subtasks.foldl (sortOut waveNum) (before, [])).1 := by
  induction subtasks using List.reverseRecOn with
  | nil => exact ⟨[], by simp [afterSkipping], .refl _, fun _ none' => absurd none' List.not_mem_nil⟩
  | append_singleton earlier subtask ih =>
    rw [List.foldl_append]
    generalize earlier.foldl (sortOut waveNum) (before, []) = sorted at ih ⊢
    obtain ⟨skipped, state, each, unhindered⟩ := ih
    obtain ⟨reached, runnable⟩ := sorted
    obtain rfl : reached = afterSkipping before waveNum skipped := state
    show ∃ skipped', Sorts before waveNum (earlier ++ [subtask]) skipped'
      (sortOut waveNum (afterSkipping before waveNum skipped, runnable) subtask).2
      (sortOut waveNum (afterSkipping before waveNum skipped, runnable) subtask).1
    by_cases hindered : subtask.dependsOn.any
        ((afterSkipping before waveNum skipped).failedIds.contains ·) = true
    · refine ⟨skipped ++ [subtask], ?_, ?_, ?_⟩
      · rw [sortOut, if_pos hindered]
        simp [afterSkipping]
      · rw [sortOut, if_pos hindered, List.append_assoc, List.singleton_append]
        exact List.perm_middle.trans ((each.cons subtask).trans
          (List.perm_append_singleton subtask earlier).symm)
      · rw [sortOut, if_pos hindered]
        exact unhindered
    · refine ⟨skipped, ?_, ?_, ?_⟩
      · rw [sortOut, if_neg hindered]
      · rw [sortOut, if_neg hindered, ← List.append_assoc]
        exact each.append_right _
      · rw [sortOut, if_neg hindered]
        intro other listed
        rcases List.mem_append.1 listed with among | single
        · exact unhindered other among
        · obtain rfl := List.mem_singleton.1 single
          intro dep depends failed
          refine hindered (List.any_eq_true.2 ⟨dep, depends, ?_⟩)
          exact List.contains_iff_mem.2 (List.mem_append_right _ failed)

/-! ## Publishing -/

section

variable (env : FanoutEnv) (request : ModelSwarmFanoutRequest)

def inTime : ℕ → List ModelSubtask → List ModelSubtask
  | _, [] => []
  | reading, subtask :: rest =>
    if env.clock reading < deadlineOf env request then subtask :: inTime (reading + 1) rest
    else inTime (reading + 1) rest

def publishedFor (subtask : ModelSubtask) : Option Published :=
  (assignedEndpoint env request subtask).map fun endpoint =>
    ⟨subtask, delegationExecuteTopic, commandFor env request subtask endpoint⟩

def pendingOf (reached : List ModelSubtask) : Pending :=
  .foldByKey (fun subtask => correlationId request.runId subtask.subtaskId)
    (fun _ subtask => (subtask, assignedEndpoint env request subtask)) .empty reached

def afterPublishing (state : FanoutState) (runnable : List ModelSubtask) : FanoutState :=
  { state with
    readings := state.readings + runnable.length
    published := state.published ++
      (inTime env request state.readings runnable).filterMap (publishedFor env request) }

end

variable {env : FanoutEnv} {request : ModelSwarmFanoutRequest}

theorem inTime_append (reading : ℕ) (first second : List ModelSubtask) :
    inTime env request reading (first ++ second) =
      inTime env request reading first ++ inTime env request (reading + first.length) second := by
  induction first generalizing reading with
  | nil => rfl
  | cons subtask rest ih =>
    rw [List.cons_append, inTime, inTime, ih, List.length_cons, Nat.add_right_comm, Nat.add_assoc]
    split <;> rfl

theorem inTime_sublist (reading : ℕ) (subtasks : List ModelSubtask) :
    (inTime env request reading subtasks).Sublist subtasks := by
  induction subtasks generalizing reading with
  | nil => exact .slnil
  | cons subtask rest ih =>
    rw [inTime]
    split
    · exact (ih _).cons_cons subtask
    · exact (ih _).cons subtask

theorem publishOne_publishes (state : FanoutState) (subtasks : List ModelSubtask) :
    subtasks.foldl (publishOne env request (deadlineOf env request)) (state, .empty) =
      (afterPublishing env request state subtasks,
        pendingOf env request (inTime env request state.readings subtasks)) := by
  induction subtasks using List.reverseRecOn with
  | nil => simp [afterPublishing, pendingOf, inTime, OrderedDict.foldByKey]
  | append_singleton earlier subtask ih =>
    rw [List.foldl_append, ih]
    show publishOne env request (deadlineOf env request) (afterPublishing env request state earlier,
      pendingOf env request (inTime env request state.readings earlier)) subtask = _
    rw [publishOne, afterPublishing, afterPublishing, inTime_append, pendingOf, pendingOf,
      OrderedDict.foldByKey_append]
    by_cases late : deadlineOf env request - env.clock (state.readings + earlier.length) ≤ 0
    · have passed : ¬ env.clock (state.readings + earlier.length) < deadlineOf env request := by
        linarith
      simp [late, inTime, passed, OrderedDict.foldByKey, Nat.add_assoc]
    · have open' : env.clock (state.readings + earlier.length) < deadlineOf env request := by
        linarith
      cases assigned : assignedEndpoint env request subtask with
      | none =>
        simp [late, inTime, open', assigned, publishedFor, OrderedDict.foldByKey, Nat.add_assoc]
      | some endpoint =>
        simp [late, inTime, open', assigned, publishedFor, OrderedDict.foldByKey, Nat.add_assoc]

/-! ## Awaiting -/

section

variable (env : FanoutEnv) (request : ModelSwarmFanoutRequest)

def awaitedOf (reached : List ModelSubtask) : List ModelSubtask :=
  (pendingOf env request reached).entries.map (·.2.1)

def eventsFor (answer : List PyDict) (subtaskId : String) : List PyDict :=
  answer.filter fun event => eventCorrelationId env event = correlationId request.runId subtaskId

def dispatchFor (waveNum : ℕ) (answer : List PyDict) (subtask : ModelSubtask) :
    Except FanoutError ModelSwarmDispatch :=
  dispatchOf env waveNum (resultsOf env request answer)
    (correlationId request.runId subtask.subtaskId) subtask (assignedEndpoint env request subtask)

end

theorem correlationId_injective (runId : String) : Function.Injective (correlationId runId) := by
  intro first second same
  have texts := congrArg String.toList same
  simp only [correlationId, String.toList_append] at texts
  exact String.toList_inj.1 (List.append_cancel_left texts)

theorem owns_correlationId (runId subtaskId : String) :
    ownsCorrelationId runId (correlationId runId subtaskId) = true := by
  have texts : (correlationId runId subtaskId).toList = (runId ++ "-").toList ++ subtaskId.toList :=
    String.toList_append
  rw [ownsCorrelationId, List.isPrefixOf_iff_prefix, texts]
  exact List.prefix_append _ _

theorem get?_resultsOf (answer : List PyDict) (subtaskId : String) :
    (resultsOf env request answer).get? (correlationId request.runId subtaskId) =
      (eventsFor env request answer subtaskId).getLast? := by
  have last (events : List PyDict) (held : Option PyDict) :
      events.foldl (fun _ event => some event) held = events.getLast?.or held := by
    induction events using List.reverseRecOn with
    | nil => rfl
    | append_singleton earlier event _ =>
      rw [List.foldl_append, List.getLast?_concat]
      rfl
  rw [resultsOf, OrderedDict.get?_foldByKey, last, List.filter_filter, OrderedDict.get?_empty,
    Option.or_none]
  refine congrArg List.getLast? (List.filter_congr fun event _ => ?_)
  by_cases own : eventCorrelationId env event = correlationId request.runId subtaskId
  · simp [own, owns_correlationId]
  · simp [own]

theorem pendingOf_get? {corrId : String} {entry : ModelSubtask × Option ModelSwarmEndpoint}
    (found : (pendingOf env request reached).get? corrId = some entry) :
    entry.1 ∈ reached ∧ correlationId request.runId entry.1.subtaskId = corrId ∧
      entry.2 = assignedEndpoint env request entry.1 := by
  rw [pendingOf, OrderedDict.get?_foldByKey, OrderedDict.get?_empty] at found
  generalize owned : (reached.filter fun subtask =>
    decide (correlationId request.runId subtask.subtaskId = corrId)) = own at found
  cases own using List.reverseRecOn with
  | nil => cases found
  | append_singleton earlier subtask =>
    rw [List.foldl_append] at found
    obtain rfl := Option.some.inj found
    have listed : subtask ∈ reached.filter fun subtask =>
        decide (correlationId request.runId subtask.subtaskId = corrId) := by
      rw [owned]
      exact List.mem_append_right _ (List.mem_singleton.2 rfl)
    rw [List.mem_filter] at listed
    exact ⟨listed.1, of_decide_eq_true listed.2, rfl⟩

theorem mem_pendingOf_keys {corrId : String} :
    corrId ∈ (pendingOf env request reached).keys ↔
      ∃ subtask ∈ reached, correlationId request.runId subtask.subtaskId = corrId := by
  constructor
  · intro listed
    obtain ⟨entry, found⟩ := OrderedDict.mem_keys.1 listed
    obtain ⟨among, own, -⟩ := pendingOf_get? found
    exact ⟨entry.1, among, own⟩
  · rintro ⟨subtask, listed, rfl⟩
    rw [OrderedDict.mem_keys, pendingOf]
    cases found : (OrderedDict.foldByKey (fun subtask : ModelSubtask =>
        correlationId request.runId subtask.subtaskId)
        (fun _ subtask => (subtask, assignedEndpoint env request subtask)) .empty reached).get?
          (correlationId request.runId subtask.subtaskId) with
    | some entry => exact ⟨entry, rfl⟩
    | none =>
      rw [OrderedDict.get?_foldByKey, OrderedDict.get?_empty] at found
      have own : subtask ∈ reached.filter fun other => decide
          (correlationId request.runId other.subtaskId =
            correlationId request.runId subtask.subtaskId) :=
        List.mem_filter.2 ⟨listed, decide_eq_true rfl⟩
      generalize (reached.filter fun other => decide (correlationId request.runId other.subtaskId =
        correlationId request.runId subtask.subtaskId)) = owned at own found
      cases owned using List.reverseRecOn with
      | nil => exact absurd own List.not_mem_nil
      | append_singleton earlier last =>
        rw [List.foldl_append] at found
        cases found

structure Awaits (reached awaited : List ModelSubtask) : Prop where
  among : awaited ⊆ reached
  distinct : (idsOf awaited).Nodup
  covers : ∀ subtask ∈ reached, subtask.subtaskId ∈ idsOf awaited

theorem awaitedOf_awaits (env : FanoutEnv) (request : ModelSwarmFanoutRequest)
    (reached : List ModelSubtask) : Awaits reached (awaitedOf env request reached) := by
  have keys : (pendingOf env request reached).keys =
      (idsOf (awaitedOf env request reached)).map (correlationId request.runId) := by
    rw [idsOf, awaitedOf, List.map_map, List.map_map]
    refine List.map_congr_left fun entry listed => ?_
    exact (pendingOf_get? (OrderedDict.mem_entries.1 listed)).2.1.symm
  refine ⟨?_, ?_, ?_⟩
  · intro subtask listed
    obtain ⟨entry, among, rfl⟩ := List.mem_map.1 listed
    exact (pendingOf_get? (OrderedDict.mem_entries.1 among)).1
  · have nodup : (pendingOf env request reached).keys.Nodup := (pendingOf env request reached).nodup
    rw [keys] at nodup
    exact nodup.of_map _
  · intro subtask listed
    have key : correlationId request.runId subtask.subtaskId ∈
        (pendingOf env request reached).keys := mem_pendingOf_keys.2 ⟨subtask, listed, rfl⟩
    rw [keys] at key
    obtain ⟨subtaskId, among, same⟩ := List.mem_map.1 key
    exact correlationId_injective _ same ▸ among

theorem Awaits.perm (awaits : Awaits reached awaited) (distinct : (idsOf reached).Nodup) :
    awaited.Perm reached := by
  refine (List.perm_ext_iff_of_nodup (awaits.distinct.of_map _) (distinct.of_map _)).2 ?_
  intro subtask
  refine ⟨fun listed => awaits.among listed, fun listed => ?_⟩
  obtain ⟨other, among, same⟩ := mem_idsOf.1 (awaits.covers subtask listed)
  exact List.inj_on_of_nodup_map distinct (awaits.among among) listed same ▸ among

theorem Awaits.length_le (awaits : Awaits reached awaited) : awaited.length ≤ reached.length :=
  (List.subperm_of_subset (awaits.distinct.of_map _) awaits.among).length_le

/-! ## Deciding -/

/-- The status that the answer gives to a subtask; `none` is an error. -/
def verdictOf (env : FanoutEnv) (request : ModelSwarmFanoutRequest) (answer : List PyDict)
    (subtask : ModelSubtask) : Option EnumExecutionStatus :=
  match assignedEndpoint env request subtask with
  | none => some .failed
  | some _ =>
    match (eventsFor env request answer subtask.subtaskId).getLast? with
    | none => some .timeout
    | some event =>
      (env.intOfText (latencyText env event)).map fun _ =>
        if isSuccess env event then .succeeded else .failed

theorem dispatchFor_verdict (env : FanoutEnv) (request : ModelSwarmFanoutRequest) (waveNum : ℕ)
    (answer : List PyDict) (subtask : ModelSubtask) :
    (verdictOf env request answer subtask = none ∧
        ∃ raised, dispatchFor env request waveNum answer subtask = .error raised) ∨
      ∃ dispatch, dispatchFor env request waveNum answer subtask = .ok dispatch ∧
        dispatch.subtaskId = subtask.subtaskId ∧
        verdictOf env request answer subtask = some dispatch.executionStatus := by
  rw [dispatchFor, verdictOf]
  cases assigned : assignedEndpoint env request subtask with
  | none => exact .inr ⟨_, rfl, rfl, rfl⟩
  | some endpoint =>
    rw [← get?_resultsOf]
    cases held : (resultsOf env request answer).get?
        (correlationId request.runId subtask.subtaskId) with
    | none =>
      simp only [dispatchOf, held]
      exact .inr ⟨_, rfl, rfl, rfl⟩
    | some event =>
      cases latency : env.intOfText (latencyText env event) with
      | none =>
        simp only [dispatchOf, held, latency]
        exact .inl ⟨rfl, _, rfl⟩
      | some latencyMs =>
        simp only [dispatchOf, held, latency]
        exact .inr ⟨_, rfl, rfl, rfl⟩

theorem dispatched_verdicts {waveNum : ℕ} {answer : List PyDict}
    (ended : awaited.mapM (dispatchFor env request waveNum answer) = .ok dispatches) :
    dispatches.map (fun dispatch => (dispatch.subtaskId, some dispatch.executionStatus)) =
      awaited.map fun subtask => (subtask.subtaskId, verdictOf env request answer subtask) := by
  refine Search.map_of_mapM ended fun subtask dispatch returned => ?_
  rcases dispatchFor_verdict env request waveNum answer subtask with
    ⟨-, raised, failed⟩ | ⟨dispatch', made, own, verdict⟩
  · rw [returned] at failed
    cases failed
  · rw [returned] at made
    cases made
    rw [verdict, own]

theorem exists_dispatched_ok {waveNum : ℕ} {answer : List PyDict} :
    (∃ dispatches, awaited.mapM (dispatchFor env request waveNum answer) = .ok dispatches) ↔
      ∀ subtask ∈ awaited, verdictOf env request answer subtask ≠ none := by
  rw [Search.exists_mapM_eq_ok]
  refine forall₂_congr fun subtask _ => ?_
  rcases dispatchFor_verdict env request waveNum answer subtask with
    ⟨verdict, raised, failed⟩ | ⟨dispatch, made, -, verdict⟩
  · rw [failed, verdict]
    simp
  · rw [made, verdict]
    simp

/-! ## The whole step -/

section

variable (env : FanoutEnv) (request : ModelSwarmFanoutRequest)

def reachedOf (before : FanoutState) (wave : NumberedWave) : List ModelSubtask :=
  inTime env request before.readings (runnableOf before wave)

def answerOf (before : FanoutState) : List PyDict := env.poll before.polls.length

def afterPolling (state : FanoutState) : FanoutState :=
  { state with
    readings := state.readings + 1
    polls := state.polls ++
      [{ topics := completionTopics, runId := request.runId
         timeoutSeconds := min (request.config.perEndpointTimeoutSeconds : ℚ)
          (max (deadlineOf env request - env.clock state.readings) 1) }] }

def decided (before : FanoutState) (wave : NumberedWave) :
    Except FanoutError (List ModelSwarmDispatch) :=
  (awaitedOf env request (reachedOf env request before wave)).mapM
    (dispatchFor env request wave.2 (answerOf env before))

def publishedState (before : FanoutState) (wave : NumberedWave) (skipped : List ModelSubtask) :
    FanoutState :=
  afterPublishing env request (afterSkipping before wave.2 skipped) (runnableOf before wave)

end

theorem reachedOf_sublist :
    (reachedOf env request before wave).Sublist (runnableOf before wave) := inTime_sublist _ _

theorem decided_ids (ended : decided env request before wave = .ok dispatches) :
    dispatches.map (·.subtaskId) =
      idsOf (awaitedOf env request (reachedOf env request before wave)) := by
  have ids := congrArg (List.map Prod.fst) (dispatched_verdicts ended)
  rw [List.map_map, List.map_map] at ids
  exact ids

theorem exists_decided_ok :
    (∃ dispatches, decided env request before wave = .ok dispatches) ↔
      ∀ subtask ∈ awaitedOf env request (reachedOf env request before wave),
        verdictOf env request (answerOf env before) subtask ≠ none := exists_dispatched_ok

def afterRecording (state : FanoutState) (dispatches : List ModelSwarmDispatch) : FanoutState :=
  { state with
    dispatches := state.dispatches ++ dispatches
    failedIds := ((dispatches.filter (·.executionStatus ≠ .succeeded)).map (·.subtaskId)).reverse ++
      state.failedIds }

theorem record_records (state : FanoutState) (dispatches : List ModelSwarmDispatch) :
    dispatches.foldl record state = afterRecording state dispatches := by
  induction dispatches using List.reverseRecOn with
  | nil => simp [afterRecording]
  | append_singleton earlier dispatch ih =>
    rw [List.foldl_append, ih]
    show record (afterRecording state earlier) dispatch = _
    by_cases succeeded : dispatch.executionStatus = .succeeded
    · simp [record, afterRecording, succeeded]
    · simp [record, afterRecording, succeeded]

theorem afterPublishing_nil (state : FanoutState) : afterPublishing env request state [] = state := by
  simp [afterPublishing, inTime]

theorem pendingOf_size_eq_zero : (pendingOf env request reached).size = 0 ↔ reached = [] := by
  constructor
  · intro nothing
    refine List.eq_nil_iff_forall_not_mem.2 fun subtask listed => ?_
    have key : correlationId request.runId subtask.subtaskId ∈
        (pendingOf env request reached).keys := mem_pendingOf_keys.2 ⟨subtask, listed, rfl⟩
    rw [OrderedDict.keys, List.eq_nil_of_length_eq_zero nothing] at key
    exact absurd key List.not_mem_nil
  · rintro rfl
    rfl

theorem dispatchWave_eq (waveNum : ℕ) (state : FanoutState) (runnable : List ModelSubtask) :
    dispatchWave env request (deadlineOf env request) waveNum state runnable =
      if inTime env request state.readings runnable = [] then
        (afterPublishing env request state runnable, .ok [])
      else
        (afterPolling env request (afterPublishing env request state runnable),
          (awaitedOf env request (inTime env request state.readings runnable)).mapM
            (dispatchFor env request waveNum (env.poll state.polls.length))) := by
  have decides : (pendingOf env request (inTime env request state.readings runnable)).entries.mapM
      (fun entry => dispatchOf env waveNum (resultsOf env request (env.poll state.polls.length))
        entry.1 entry.2.1 entry.2.2) =
      (awaitedOf env request (inTime env request state.readings runnable)).mapM
        (dispatchFor env request waveNum (env.poll state.polls.length)) := by
    refine Search.mapM_map_congr fun entry listed => ?_
    obtain ⟨-, own, assigned⟩ := pendingOf_get? (OrderedDict.mem_entries.1 listed)
    rw [dispatchFor, own, assigned]
  rw [dispatchWave, publishOne_publishes]
  simp only [pendingOf_size_eq_zero]
  split
  · rfl
  · exact Prod.ext rfl decides

theorem waveStep_cases (env : FanoutEnv) (request : ModelSwarmFanoutRequest)
    (going : before.raised = none) (wave : NumberedWave) :
    ∃ skipped, Sorts before wave.2 wave.1 skipped (runnableOf before wave)
        (afterSkipping before wave.2 skipped) ∧
      ((reachedOf env request before wave = [] ∧
          waveStep env request (deadlineOf env request) before wave =
            (publishedState env request before wave skipped, [])) ∨
        reachedOf env request before wave ≠ [] ∧
          ((∃ raised, decided env request before wave = .error raised ∧
              waveStep env request (deadlineOf env request) before wave =
                ({ afterPolling env request (publishedState env request before wave skipped) with
                    raised := some raised }, [])) ∨
            ∃ dispatches, decided env request before wave = .ok dispatches ∧
              waveStep env request (deadlineOf env request) before wave =
                (afterRecording
                  (afterPolling env request (publishedState env request before wave skipped))
                  dispatches, dispatches))) := by
  obtain ⟨skipped, state, each, unhindered⟩ := sortOut_sorts before wave.2 wave.1
  refine ⟨skipped, ⟨rfl, each, unhindered⟩, ?_⟩
  have sorted : wave.1.foldl (sortOut wave.2) (before, []) =
      (afterSkipping before wave.2 skipped, runnableOf before wave) := Prod.ext state rfl
  have dispatched : dispatchWave env request (deadlineOf env request) wave.2
      (afterSkipping before wave.2 skipped) (runnableOf before wave) =
      if reachedOf env request before wave = [] then
        (publishedState env request before wave skipped, .ok [])
      else
        (afterPolling env request (publishedState env request before wave skipped),
          decided env request before wave) := dispatchWave_eq ..
  -- no runnable subtask and none in time come to the same state
  simp only [waveStep, going, sorted]
  by_cases idle : runnableOf before wave = []
  · refine .inl ⟨by rw [reachedOf, idle]; rfl, ?_⟩
    rw [if_pos idle, publishedState, idle, afterPublishing_nil]
  · rw [if_neg idle]
    by_cases none' : reachedOf env request before wave = []
    · rw [if_pos none'] at dispatched
      rw [dispatched]
      exact .inl ⟨none', rfl⟩
    · rw [if_neg none'] at dispatched
      refine .inr ⟨none', ?_⟩
      rw [dispatched]
      cases outcome : decided env request before wave with
      | error raised => exact .inl ⟨raised, rfl, rfl⟩
      | ok dispatches => exact .inr ⟨dispatches, rfl, Prod.ext (record_records _ _) rfl⟩

end OmniMarket.SwarmFanout
