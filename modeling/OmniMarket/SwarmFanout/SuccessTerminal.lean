import OmniMarket.SwarmFanout.EverySubtask
import OmniMarket.SwarmFanout.Lockstep

/-!
# When success is terminal

An event of any of the three polled topics decides a dispatch, a missing `success` counts as
success, and the last event wins. The law holds in runs in which the events for each subtask agree
and a success comes with a completion event.
-/

namespace OmniMarket.SwarmFanout
variable {after : FanoutState} {subtasks : List ModelSubtask} {subtask : ModelSubtask}
  {waves : List (List ModelSubtask)} {later done : List NumberedWave} {other : NumberedWave}
  {dep : String} {made : List ModelSwarmDispatch}

section

variable (env : FanoutEnv) (request : ModelSwarmFanoutRequest)

structure SucceededFor (subtaskId : String) (event : PyDict) : Prop where
  own : eventCorrelationId env event = correlationId request.runId subtaskId
  topic : isIn "delegation-call-completed" (env.str (getOr event "_topic" (.str ""))) = true
  success : (getOr event "success" (.bool true)).truthy = true

structure FailedFor (subtaskId : String) (event : PyDict) : Prop where
  own : eventCorrelationId env event = correlationId request.runId subtaskId
  topic : isFailure env event = true

def polledEvents (state : FanoutState) : List PyDict :=
  (List.range state.polls.length).flatMap env.poll

def polledIn (before : FanoutState) (wave : NumberedWave) : List PyDict :=
  if reachedOf env request before wave = [] then [] else answerOf env before

/-- A success rests on a completion event and on no failure; a command is published for a subtask
whose dependencies have succeeded. -/
structure Terminal (state : FanoutState) : Prop where
  succeeded : ∀ dispatch ∈ state.dispatches, dispatch.executionStatus = .succeeded →
    (∃ event ∈ polledEvents env state, SucceededFor env request dispatch.subtaskId event) ∧
      ∀ event ∈ polledEvents env state, ¬ FailedFor env request dispatch.subtaskId event
  published : ∀ published ∈ state.published, ∀ dep ∈ published.subtask.dependsOn,
    (∃ dispatch ∈ state.dispatches, dispatch.subtaskId = dep) ∧
      ∀ dispatch ∈ state.dispatches, dispatch.subtaskId = dep →
        dispatch.executionStatus = .succeeded

structure Decisive (waves : List NumberedWave) (before : FanoutState) (wave : NumberedWave) :
    Prop where
  earlier : ∀ subtask ∈ publishedIn env request before wave, ∀ dep ∈ subtask.dependsOn,
    ∃ other ∈ waves, other.2 < wave.2 ∧ dep ∈ idsOf other.1
  agree : ∀ subtask ∈ publishedIn env request before wave,
    Agree env request (answerOf env before) subtask
  completed : ∀ subtask ∈ publishedIn env request before wave,
    ∀ event ∈ eventsFor env request (answerOf env before) subtask.subtaskId,
      verdictBy env event = some true →
        (∃ event' ∈ polledEvents env before ++ answerOf env before,
          SucceededFor env request subtask.subtaskId event') ∧
        ∀ event' ∈ polledEvents env before, ¬ FailedFor env request subtask.subtaskId event'
  settled : ∀ dispatch ∈ before.dispatches, dispatch.executionStatus = .succeeded →
    ∀ event ∈ polledIn env request before wave, ¬ FailedFor env request dispatch.subtaskId event

structure Took (before : FanoutState) (wave : NumberedWave) (after : FanoutState)
    (made : List ModelSwarmDispatch) : Prop where
  dispatches : after.dispatches = before.dispatches ++ made
  published : after.published = before.published ++
    (reachedOf env request before wave).filterMap (publishedFor env request)
  polled : polledEvents env after = polledEvents env before ++ polledIn env request before wave
  readings : before.readings + (runnableOf before wave).length ≤ after.readings
  kept : before.failedIds ⊆ after.failedIds
  failed : ∀ dispatch ∈ made, dispatch.executionStatus ≠ .succeeded →
    dispatch.subtaskId ∈ after.failedIds
  own : ∀ dispatch ∈ made, dispatch.subtaskId ∈ idsOf wave.1
  succeeded : ∀ dispatch ∈ made, dispatch.executionStatus = .succeeded →
    ∃ subtask ∈ reachedOf env request before wave, subtask.subtaskId = dispatch.subtaskId ∧
      verdictOf env request (answerOf env before) subtask = some .succeeded
  complete : after.raised = none → ∀ subtask ∈ wave.1,
    (∃ dispatch ∈ made, dispatch.subtaskId = subtask.subtaskId) ∨
      subtask ∈ runnableOf before wave ∧ subtask ∉ reachedOf env request before wave
  unhindered : ∀ subtask ∈ runnableOf before wave, Unhindered before subtask

end

variable {env : FanoutEnv} {request : ModelSwarmFanoutRequest} {before : FanoutState}
  {wave : NumberedWave}

theorem Took.of_parts {skipped : List ModelSubtask} {dispatches : List ModelSwarmDispatch}
    (sorts : Sorts before wave.2 wave.1 skipped (runnableOf before wave)
      (afterSkipping before wave.2 skipped))
    (records : after.dispatches = (afterSkipping before wave.2 skipped).dispatches ++ dispatches)
    (published : after.published = (publishedState env request before wave skipped).published)
    (polled : polledEvents env after = polledEvents env before ++ polledIn env request before wave)
    (readings : before.readings + (runnableOf before wave).length ≤ after.readings)
    (kept : (afterSkipping before wave.2 skipped).failedIds ⊆ after.failedIds)
    (failed : ∀ dispatch ∈ dispatches, dispatch.executionStatus ≠ .succeeded →
      dispatch.subtaskId ∈ after.failedIds)
    (decides : ∀ dispatch ∈ dispatches, ∃ subtask ∈ reachedOf env request before wave,
      subtask.subtaskId = dispatch.subtaskId ∧
        verdictOf env request (answerOf env before) subtask = some dispatch.executionStatus)
    (covers : after.raised = none → ∀ subtask ∈ reachedOf env request before wave,
      ∃ dispatch ∈ dispatches, dispatch.subtaskId = subtask.subtaskId) :
    Took env request before wave after (skipped.map (skippedDispatch wave.2) ++ dispatches) := by
  refine ⟨?_, published, polled, readings, ?_, ?_, ?_, ?_, ?_, sorts.unhindered⟩
  · -- the skipped subtasks come first, then those the poll decided
    rw [records, ← List.append_assoc]
    rfl
  · exact fun _ held => kept (List.mem_append_right _ held)
  · intro dispatch listed failing
    rcases List.mem_append.1 listed with skips | among
    · obtain ⟨subtask, skip, rfl⟩ := List.mem_map.1 skips
      exact kept (List.mem_append_left _ (List.mem_reverse.2 (List.mem_map_of_mem skip)))
    · exact failed dispatch among failing
  · intro dispatch listed
    rcases List.mem_append.1 listed with skips | among
    · obtain ⟨subtask, skip, rfl⟩ := List.mem_map.1 skips
      exact mem_idsOf.2 ⟨subtask, sorts.each.mem_iff.1 (List.mem_append_left _ skip), rfl⟩
    · obtain ⟨subtask, reached, own, -⟩ := decides dispatch among
      have runnable := reachedOf_sublist.subset reached
      exact mem_idsOf.2 ⟨subtask, sorts.each.mem_iff.1 (List.mem_append_right _ runnable), own⟩
  · intro dispatch listed succeeded
    rcases List.mem_append.1 listed with skips | among
    · obtain ⟨subtask, -, rfl⟩ := List.mem_map.1 skips
      -- a skipped subtask never succeeds
      cases succeeded
    · obtain ⟨subtask, reached, own, verdict⟩ := decides dispatch among
      exact ⟨subtask, reached, own, by rw [verdict, succeeded]⟩
  · intro going subtask listed
    rcases List.mem_append.1 (sorts.each.mem_iff.2 listed) with skip | runnable
    · exact .inl ⟨_, List.mem_append_left _ (List.mem_map_of_mem skip), rfl⟩
    · by_cases reached : subtask ∈ reachedOf env request before wave
      · obtain ⟨dispatch, among, own⟩ := covers going subtask reached
        exact .inl ⟨dispatch, List.mem_append_right _ among, own⟩
      · exact .inr ⟨runnable, reached⟩

theorem polledEvents_polled (reached : reachedOf env request before wave ≠ [])
    (polls : after.polls.length = before.polls.length + 1) :
    polledEvents env after = polledEvents env before ++ polledIn env request before wave := by
  rw [polledEvents, polls, List.range_succ, List.flatMap_append, polledIn, if_neg reached,
    List.flatMap_singleton]
  rfl

theorem waveStep_took (env : FanoutEnv) (request : ModelSwarmFanoutRequest) (wave : NumberedWave)
    (going : before.raised = none) : ∃ made, Took env request before wave
      (waveStep env request (deadlineOf env request) before wave).1 made := by
  obtain ⟨skipped, sorts, outcome⟩ := waveStep_cases env request going wave
  rcases outcome with ⟨none', step⟩ | ⟨some', ⟨raised, -, step⟩ | ⟨dispatches, ended, step⟩⟩
  · rw [step]
    refine ⟨_, Took.of_parts sorts (List.append_nil _).symm rfl ?_ (le_refl _)
      (List.Subset.refl _) ?_ ?_ fun _ subtask reached => ?_⟩
    · rw [polledIn, if_pos none', List.append_nil]
      rfl
    · exact fun _ listed => absurd listed List.not_mem_nil
    · exact fun _ listed => absurd listed List.not_mem_nil
    · rw [none'] at reached
      exact absurd reached List.not_mem_nil
  · rw [step]
    refine ⟨_, Took.of_parts sorts (List.append_nil _).symm rfl
      (polledEvents_polled some' List.length_append) (Nat.le_succ _) (List.Subset.refl _) ?_ ?_ ?_⟩
    · exact fun _ listed => absurd listed List.not_mem_nil
    · exact fun _ listed => absurd listed List.not_mem_nil
    · intro none'
      cases none'
  · rw [step]
    have awaits := awaitedOf_awaits env request (reachedOf env request before wave)
    refine ⟨_, Took.of_parts sorts rfl rfl (polledEvents_polled some' List.length_append)
      (Nat.le_succ _) (fun _ held => List.mem_append_right _ held) ?_ ?_ ?_⟩
    · intro dispatch among failed
      refine List.mem_append_left _ (List.mem_reverse.2 (List.mem_map_of_mem ?_))
      exact List.mem_filter.2 ⟨among, decide_eq_true failed⟩
    · intro dispatch among
      have told := List.mem_map_of_mem (f := fun dispatch : ModelSwarmDispatch =>
        (dispatch.subtaskId, some dispatch.executionStatus)) among
      rw [dispatched_verdicts ended] at told
      obtain ⟨subtask, awaited, same⟩ := List.mem_map.1 told
      exact ⟨subtask, awaits.among awaited, (Prod.mk.inj same).1, (Prod.mk.inj same).2⟩
    · intro _ subtask reached
      have covered := awaits.covers subtask reached
      rw [← decided_ids ended] at covered
      obtain ⟨dispatch, among, own⟩ := List.mem_map.1 covered
      exact ⟨dispatch, among, own⟩

/-! ## Where the subtasks are -/

theorem mem_inTime {reading : ℕ} (listed : subtask ∈ inTime env request reading subtasks) :
    ∃ later, reading ≤ later ∧ env.clock later < deadlineOf env request := by
  induction subtasks generalizing reading with
  | nil => exact absurd listed List.not_mem_nil
  | cons first rest ih =>
    rw [inTime] at listed
    by_cases open' : env.clock reading < deadlineOf env request
    · exact ⟨reading, le_refl _, open'⟩
    · rw [if_neg open'] at listed
      obtain ⟨later, after, inTime'⟩ := ih listed
      exact ⟨later, (Nat.le_succ _).trans after, inTime'⟩

theorem not_mem_inTime {reading : ℕ} (listed : subtask ∈ subtasks)
    (missed : subtask ∉ inTime env request reading subtasks) :
    ∃ later < reading + subtasks.length, deadlineOf env request ≤ env.clock later := by
  induction subtasks generalizing reading with
  | nil => exact absurd listed List.not_mem_nil
  | cons first rest ih =>
    rw [inTime] at missed
    rw [List.length_cons]
    by_cases open' : env.clock reading < deadlineOf env request
    · rw [if_pos open', List.mem_cons, not_or] at missed
      obtain ⟨later, before, late⟩ := ih ((List.mem_cons.1 listed).resolve_left missed.1) missed.2
      exact ⟨later, by omega, late⟩
    · exact ⟨reading, by omega, not_lt.1 open'⟩

theorem computeWaves_placed (computed : computeWaves subtasks = some (.ok waves)) :
    ∃ assigned : Assigned, ∀ wave ∈ waves.zipIdx, ∀ subtaskId ∈ idsOf wave.1,
      assigned.get? subtaskId = some wave.2 := by
  rw [computeWaves] at computed
  cases walked : latestWave (waveOf (idToSubtask subtasks) (subtasks.length + 1)) .empty
      (subtasks.map (·.subtaskId)) with
  | none => rw [walked] at computed; cases computed
  | some outcome =>
    rw [walked] at computed
    cases outcome with
    | error missing => cases computed
    | ok result =>
      obtain ⟨latest, assigned⟩ := result
      refine ⟨assigned, ?_⟩
      simp only at computed
      by_cases nothing : assigned.size = 0
      · rw [if_pos nothing] at computed
        cases computed
        exact fun wave listed => absurd listed List.not_mem_nil
      · rw [if_neg nothing] at computed
        cases computed
        rintro ⟨members, number⟩ listed subtaskId among
        obtain rfl : members = waveAt subtasks assigned number :=
          waveAt_of_getElem? (List.mem_zipIdx_iff_getElem?.1 listed)
        obtain ⟨subtask, held, rfl⟩ := mem_idsOf.1 among
        exact (mem_waveAt.1 held).2

theorem zipIdx_ordered (waves : List (List ModelSubtask)) :
    waves.zipIdx.Pairwise fun first second => first.2 < second.2 := by
  rw [← List.pairwise_map (f := Prod.snd) (R := (· < ·)), List.zipIdx_map_snd]
  exact List.pairwise_lt_range'

theorem mem_earlier {earlier : List NumberedWave} {wave : NumberedWave}
    (split : waves.zipIdx = earlier ++ wave :: later) :
    other ∈ earlier ↔ other ∈ waves.zipIdx ∧ other.2 < wave.2 := by
  have ordered := zipIdx_ordered waves
  rw [split] at ordered ⊢
  have parts := List.pairwise_append.1 ordered
  constructor
  · intro before
    exact ⟨List.mem_append_left _ before, parts.2.2 other before wave List.mem_cons_self⟩
  · rintro ⟨listed, lower⟩
    rcases List.mem_append.1 listed with before | after
    · exact before
    · rcases List.mem_cons.1 after with rfl | further
      · exact absurd lower (Nat.lt_irrefl _)
      · have behind := (List.pairwise_cons.1 parts.2.1).1 other further
        exact absurd lower (Nat.not_lt.2 behind.le)

/-! ## The invariant -/

structure Settled (env : FanoutEnv) (request : ModelSwarmFanoutRequest) (done : List NumberedWave)
    (state : FanoutState) : Prop where
  terminal : Terminal env request state
  failed : ∀ dispatch ∈ state.dispatches, dispatch.executionStatus ≠ .succeeded →
    dispatch.subtaskId ∈ state.failedIds
  depended : ∀ published ∈ state.published, ∀ dep ∈ published.subtask.dependsOn,
    ∃ wave ∈ done, dep ∈ idsOf wave.1
  covered : state.raised = none → ∀ wave ∈ done, ∀ subtask ∈ wave.1,
    (∃ dispatch ∈ state.dispatches, dispatch.subtaskId = subtask.subtaskId) ∨
      ∃ reading < state.readings, deadlineOf env request ≤ env.clock reading

theorem Settled.dependency (settled : Settled env request done before)
    (going : before.raised = none) (reached : subtask ∈ reachedOf env request before wave)
    (unhindered : Unhindered before subtask) (depends : dep ∈ subtask.dependsOn)
    (listed : other ∈ done) (placed : dep ∈ idsOf other.1) :
    (∃ dispatch ∈ before.dispatches, dispatch.subtaskId = dep) ∧
      ∀ dispatch ∈ before.dispatches, dispatch.subtaskId = dep →
        dispatch.executionStatus = .succeeded := by
  obtain ⟨dependency, among, rfl⟩ := mem_idsOf.1 placed
  constructor
  · rcases settled.covered going other listed dependency among with found | ⟨reading, past, late⟩
    · exact found
    · -- the deadline passed before the subtask was looked at
      obtain ⟨later, after, open'⟩ := mem_inTime reached
      have forward := env.monotonic (past.le.trans after)
      exact absurd (late.trans forward) (not_le.2 open')
  · intro dispatch made own
    by_contra failing
    exact unhindered _ depends (own ▸ settled.failed dispatch made failing)

theorem mem_publishedFor {published : Published}
    (listed : published ∈ (reachedOf env request before wave).filterMap (publishedFor env request)) :
    ∃ subtask ∈ reachedOf env request before wave, subtask ∈ publishedIn env request before wave ∧
      published.subtask = subtask := by
  obtain ⟨subtask, reached, made⟩ := List.mem_filterMap.1 listed
  obtain ⟨endpoint, assigned, rfl⟩ := Option.map_eq_some_iff.1 made
  exact ⟨subtask, reached,
    List.mem_filter.2 ⟨reached, Option.isSome_iff_exists.2 ⟨endpoint, assigned⟩⟩, rfl⟩

theorem verdictOf_succeeded {answer : List PyDict}
    (verdict : verdictOf env request answer subtask = some .succeeded) :
    (assignedEndpoint env request subtask).isSome ∧
      ∃ event ∈ eventsFor env request answer subtask.subtaskId,
        verdictBy env event = some true := by
  by_cases assigned : (assignedEndpoint env request subtask).isSome
  · refine ⟨assigned, ?_⟩
    rw [verdictOf_some assigned] at verdict
    cases last : (eventsFor env request answer subtask.subtaskId).getLast? with
    | none =>
      rw [last] at verdict
      cases verdict
    | some event =>
      rw [last] at verdict
      obtain ⟨success, said, status⟩ := Option.map_eq_some_iff.1 verdict
      refine ⟨event, List.mem_of_getLast? last, ?_⟩
      cases success with
      | true => exact said
      | false => cases status
  · rw [Option.not_isSome_iff_eq_none] at assigned
    simp only [verdictOf, assigned] at verdict
    cases verdict

theorem not_failedFor_of_success {subtaskId : String} {event : PyDict}
    (said : verdictBy env event = some true) : ¬ FailedFor env request subtaskId event := by
  intro failed
  obtain ⟨latency, -, success⟩ := Option.map_eq_some_iff.1 said
  rw [isSuccess, failed.topic] at success
  simp at success

theorem Took.succeeds {waves : List NumberedWave} (took : Took env request before wave after made)
    (sofar : ∀ dispatch ∈ before.dispatches, dispatch.executionStatus = .succeeded →
      (∃ event ∈ polledEvents env before, SucceededFor env request dispatch.subtaskId event) ∧
        ∀ event ∈ polledEvents env before, ¬ FailedFor env request dispatch.subtaskId event)
    (decisive : Decisive env request waves before wave) :
    ∀ dispatch ∈ after.dispatches, dispatch.executionStatus = .succeeded →
      (∃ event ∈ polledEvents env after, SucceededFor env request dispatch.subtaskId event) ∧
        ∀ event ∈ polledEvents env after, ¬ FailedFor env request dispatch.subtaskId event := by
  intro dispatch listed succeeded
  rw [took.dispatches] at listed
  rw [took.polled]
  rcases List.mem_append.1 listed with old | new
  · obtain ⟨⟨event, polled, completes⟩, unfailed⟩ := sofar dispatch old succeeded
    refine ⟨⟨event, List.mem_append_left _ polled, completes⟩, ?_⟩
    intro other among
    rcases List.mem_append.1 among with earlier | now
    · exact unfailed other earlier
    · exact decisive.settled dispatch old succeeded other now
  · obtain ⟨subtask, reached, own, verdict⟩ := took.succeeded dispatch new succeeded
    obtain ⟨assigned, event, among, said⟩ := verdictOf_succeeded verdict
    have published : subtask ∈ publishedIn env request before wave :=
      List.mem_filter.2 ⟨reached, assigned⟩
    obtain ⟨completes, unfailed⟩ := decisive.completed subtask published event among said
    have polled : polledIn env request before wave = answerOf env before :=
      if_neg (List.ne_nil_of_mem reached)
    rw [polled, ← own]
    refine ⟨completes, ?_⟩
    intro other among'
    rcases List.mem_append.1 among' with earlier | now
    · exact unfailed other earlier
    · intro failed
      have owned : other ∈ eventsFor env request (answerOf env before) subtask.subtaskId :=
        List.mem_filter.2 ⟨now, decide_eq_true failed.own⟩
      have same := decisive.agree subtask published event among other owned
      exact not_failedFor_of_success (same ▸ said) failed

theorem computeWaves_apart (computed : computeWaves request.subtasks = some (.ok waves))
    (split : waves.zipIdx = done ++ wave :: later) (listed : other ∈ done)
    (among : dep ∈ idsOf other.1) : dep ∉ idsOf wave.1 := by
  intro again
  obtain ⟨assigned, place⟩ := computeWaves_placed computed
  obtain ⟨known, lower⟩ := (mem_earlier split).1 listed
  have taken : wave ∈ waves.zipIdx := by
    rw [split]
    exact List.mem_append_right _ List.mem_cons_self
  have same := (place other known dep among).symm.trans (place wave taken dep again)
  exact absurd (Option.some.inj same) lower.ne

theorem Settled.resolved (split : waves.zipIdx = done ++ wave :: later)
    (decisive : Decisive env request waves.zipIdx before wave)
    (settled : Settled env request done before) (going : before.raised = none)
    (took : Took env request before wave after made) {published : Published}
    (listed : published ∈ after.published) (depends : dep ∈ published.subtask.dependsOn) :
    (∃ other ∈ done, dep ∈ idsOf other.1) ∧
      (∃ dispatch ∈ before.dispatches, dispatch.subtaskId = dep) ∧
      ∀ dispatch ∈ before.dispatches, dispatch.subtaskId = dep →
        dispatch.executionStatus = .succeeded := by
  rw [took.published] at listed
  rcases List.mem_append.1 listed with old | new
  · exact ⟨settled.depended published old dep depends,
      settled.terminal.published published old dep depends⟩
  · obtain ⟨subtask, reached, isIn, own⟩ := mem_publishedFor new
    rw [own] at depends
    obtain ⟨other, known, lower, among⟩ := decisive.earlier subtask isIn dep depends
    have earlier : other ∈ done := (mem_earlier split).2 ⟨known, lower⟩
    have unhindered : Unhindered before subtask :=
      took.unhindered subtask (reachedOf_sublist.subset reached)
    exact ⟨⟨other, earlier, among⟩,
      settled.dependency going reached unhindered depends earlier among⟩

section

variable (computed : computeWaves request.subtasks = some (.ok waves))
  (split : waves.zipIdx = done ++ wave :: later)
  (decisive : Decisive env request waves.zipIdx before wave)
  (settled : Settled env request done before)

include computed split decisive settled

theorem Settled.took (going : before.raised = none)
    (took : Took env request before wave after made) :
    Settled env request (done ++ [wave]) after := by
  refine ⟨⟨?_, ?_⟩, ?_, ?_, ?_⟩
  · exact took.succeeds settled.terminal.succeeded decisive
  · -- a dependency is not dispatched again, so its verdict stands
    intro published listed dep depends
    obtain ⟨⟨other, earlier, among⟩, ⟨dispatch, held, own⟩, all⟩ :=
      settled.resolved split decisive going took listed depends
    rw [took.dispatches]
    refine ⟨⟨dispatch, List.mem_append_left _ held, own⟩, ?_⟩
    intro again listed' own'
    rcases List.mem_append.1 listed' with old | new
    · exact all again old own'
    · have fresh := computeWaves_apart computed split earlier among
      exact absurd (own' ▸ took.own again new) fresh
  · intro dispatch listed failing
    rw [took.dispatches] at listed
    rcases List.mem_append.1 listed with old | new
    · exact took.kept (settled.failed dispatch old failing)
    · exact took.failed dispatch new failing
  · intro published listed dep depends
    obtain ⟨⟨other, earlier, among⟩, -⟩ :=
      settled.resolved split decisive going took listed depends
    exact ⟨other, List.mem_append_left _ earlier, among⟩
  · intro ended other listed subtask among
    rw [took.dispatches]
    rcases List.mem_append.1 listed with old | new
    · rcases settled.covered going other old subtask among with
        ⟨dispatch, held, own⟩ | ⟨reading, past, late⟩
      · exact .inl ⟨dispatch, List.mem_append_left _ held, own⟩
      · exact .inr ⟨reading, by have := took.readings; omega, late⟩
    · obtain rfl := List.mem_singleton.1 new
      rcases took.complete ended subtask among with ⟨dispatch, made', own⟩ | ⟨runs, missed⟩
      · exact .inl ⟨dispatch, List.mem_append_right _ made', own⟩
      · obtain ⟨reading, past, late⟩ := not_mem_inTime runs missed
        exact .inr ⟨reading, past.trans_le took.readings, late⟩

theorem Settled.step : Settled env request (done ++ [wave])
      (waveStep env request (deadlineOf env request) before wave).1 := by
  cases going : before.raised with
  | some raised =>
    have still : (waveStep env request (deadlineOf env request) before wave).1 = before := by
      simp only [waveStep, going]
    rw [still]
    refine ⟨settled.terminal, settled.failed, ?_, ?_⟩
    · intro published listed dep depends
      obtain ⟨other, among, own⟩ := settled.depended published listed dep depends
      exact ⟨other, List.mem_append_left _ among, own⟩
    · intro ended
      rw [going] at ended
      cases ended
  | none =>
    obtain ⟨made, took⟩ := waveStep_took env request wave going
    exact settled.took computed split decisive going took

end

theorem settled_start (env : FanoutEnv) (request : ModelSwarmFanoutRequest) :
    Settled env request [] startState :=
  ⟨⟨fun _ none' => absurd none' List.not_mem_nil, fun _ none' => absurd none' List.not_mem_nil⟩,
    fun _ none' => absurd none' List.not_mem_nil, fun _ none' => absurd none' List.not_mem_nil,
    fun _ _ none' => absurd none' List.not_mem_nil⟩

/-! ## Runs -/

def statusesOf : Option (Except FanoutError ModelSwarmFanoutResult) →
    Option (List (String × EnumExecutionStatus))
  | some (.ok result) => some (statuses result.dispatches)
  | _ => none

def AllDecisive (env : FanoutEnv) (request : ModelSwarmFanoutRequest)
    (waves : List (List ModelSubtask)) : Prop :=
  ∀ t ∈ Trace.run (waveStep env request (deadlineOf env request)) startState waves.zipIdx,
    Decisive env request waves.zipIdx t.before t.event

/-- In a run of decisive waves every state is terminal, and the statuses of the result are the same
for every order of the polled events. -/
theorem success_terminal (env : FanoutEnv) (request : ModelSwarmFanoutRequest)
    (waves : List (List ModelSubtask)) (computed : computeWaves request.subtasks = some (.ok waves))
    (decisive : AllDecisive env request waves) :
    (∀ earlier later, waves.zipIdx = earlier ++ later →
      Terminal env request
        (Trace.final (waveStep env request (deadlineOf env request)) startState earlier)) ∧
    ∀ poll : ℕ → List PyDict, (∀ answered, (poll answered).Perm (env.poll answered)) →
      statusesOf (handle (env.answering poll) request) = statusesOf (handle env request) := by
  constructor
  · intro earlier later split
    have settled : Settled env request earlier
        (Trace.final (waveStep env request (deadlineOf env request)) startState earlier) := by
      refine Trace.run_history (settled_start env request) ?_ split
      intro done wave rest here settled
      exact settled.step computed here (decisive _ (Trace.mem_run here))
    exact settled.terminal
  · intro poll permuted
    have start : InStep startState startState := ⟨rfl, rfl, rfl, rfl, rfl⟩
    have final : InStep (finalState env request waves)
        (finalState (env.answering poll) request waves) :=
      final_inStep start permuted fun t taken => (decisive t taken).agree
    simp only [handle, computed]
    cases ended : (finalState env request waves).raised with
    | some raised =>
      have stopped := final.raised
      rw [ended] at stopped
      obtain ⟨raised', held⟩ := Option.isSome_iff_exists.1 stopped
      simp only [held, statusesOf]
    | none =>
      have goes := final.raised
      rw [ended, Option.isSome_none, Option.isSome_eq_false_iff, Option.isNone_iff_eq_none] at goes
      simp only [goes, statusesOf]
      exact congrArg some final.statuses

/-! ## Deciding the laws -/

instance (env : FanoutEnv) (request : ModelSwarmFanoutRequest) (subtaskId : String)
    (event : PyDict) : Decidable (SucceededFor env request subtaskId event) :=
  decidable_of_iff (_ ∧ _ ∧ _) ⟨fun all => ⟨all.1, all.2.1, all.2.2⟩, fun all =>
    ⟨all.own, all.topic, all.success⟩⟩

instance (env : FanoutEnv) (request : ModelSwarmFanoutRequest) (subtaskId : String)
    (event : PyDict) : Decidable (FailedFor env request subtaskId event) :=
  decidable_of_iff (_ ∧ _) ⟨fun all => ⟨all.1, all.2⟩, fun all => ⟨all.own, all.topic⟩⟩

instance (env : FanoutEnv) (request : ModelSwarmFanoutRequest) (answer : List PyDict)
    (subtask : ModelSubtask) : Decidable (Agree env request answer subtask) :=
  inferInstanceAs (Decidable (∀ event ∈ eventsFor env request answer subtask.subtaskId,
    ∀ event' ∈ eventsFor env request answer subtask.subtaskId,
      verdictBy env event = verdictBy env event'))

instance (env : FanoutEnv) (request : ModelSwarmFanoutRequest) (state : FanoutState) :
    Decidable (Terminal env request state) :=
  decidable_of_iff (_ ∧ _) ⟨fun all => ⟨all.1, all.2⟩, fun all => ⟨all.succeeded, all.published⟩⟩

instance (env : FanoutEnv) (request : ModelSwarmFanoutRequest) (waves : List NumberedWave)
    (before : FanoutState) (wave : NumberedWave) :
    Decidable (Decisive env request waves before wave) :=
  decidable_of_iff (_ ∧ _ ∧ _ ∧ _) ⟨fun all => ⟨all.1, all.2.1, all.2.2.1, all.2.2.2⟩, fun all =>
    ⟨all.earlier, all.agree, all.completed, all.settled⟩⟩

instance (env : FanoutEnv) (request : ModelSwarmFanoutRequest) (waves : List (List ModelSubtask)) :
    Decidable (AllDecisive env request waves) :=
  inferInstanceAs (Decidable (∀ t ∈ Trace.run (waveStep env request (deadlineOf env request))
    startState waves.zipIdx, Decisive env request waves.zipIdx t.before t.event))

/-! ## A law-abiding and a misled run -/

/-- A clock that stands still and polls that all answer the same. -/
def calmEnv (events : List PyDict) : FanoutEnv :=
  { jumpingEnv with clock := fun _ => 0, monotonic := fun _ _ _ => le_refl _, poll := fun _ => events }

def eventOn (topic correlationId : String) : PyDict :=
  [("correlation_id", .str correlationId), ("latency_ms", .int 40), ("_topic", .str topic)]

theorem pairRequest_terminal :
    (∀ earlier later, [pairRequest.subtasks].zipIdx = earlier ++ later →
      Terminal (calmEnv [completedEvent "r-b", completedEvent "r-a"]) pairRequest
        (Trace.final (waveStep (calmEnv [completedEvent "r-b", completedEvent "r-a"]) pairRequest
          (deadlineOf (calmEnv [completedEvent "r-b", completedEvent "r-a"]) pairRequest))
          startState earlier)) ∧
    ∀ poll : ℕ → List PyDict,
      (∀ answered, (poll answered).Perm
        ((calmEnv [completedEvent "r-b", completedEvent "r-a"]).poll answered)) →
      statusesOf (handle ((calmEnv [completedEvent "r-b", completedEvent "r-a"]).answering poll)
        pairRequest) =
        statusesOf (handle (calmEnv [completedEvent "r-b", completedEvent "r-a"]) pairRequest) :=
  success_terminal (calmEnv [completedEvent "r-b", completedEvent "r-a"]) pairRequest
    [pairRequest.subtasks] (by decide +kernel) (by decide +kernel)

/-- An escalation of the first subtask, and a failure and a completion of the second. -/
def misleading : List PyDict :=
  [eventOn "onex.evt.omnimarket.delegation-escalation-triggered.v1" "r-a",
    eventOn "onex.evt.omnimarket.delegation-all-tiers-failed.v1" "r-b",
    eventOn "onex.evt.omnimarket.delegation-call-completed.v1" "r-b"]

/-- Both subtasks succeed, the first by its escalation and the second over its failure; with the
events the other way round the second fails. -/
theorem pairRequest_misled : (∀ event ∈ misleading, ∃ topic ∈ completionTopics,
      getOr event "_topic" .none = .str topic) ∧
    computeWaves pairRequest.subtasks = some (.ok [pairRequest.subtasks]) ∧
    ¬ Terminal (calmEnv misleading) pairRequest
      (finalState (calmEnv misleading) pairRequest [pairRequest.subtasks]) ∧
    statusesOf (handle (calmEnv misleading) pairRequest) =
      some [("a", .succeeded), ("b", .succeeded)] ∧
    misleading.reverse.Perm misleading ∧
    statusesOf (handle ((calmEnv misleading).answering fun _ => misleading.reverse) pairRequest) =
      some [("a", .succeeded), ("b", .failed)] := by
  decide +kernel

end OmniMarket.SwarmFanout
