import OmniMarket.SwarmFanout.WaveStep

/-!
# A dispatch for every subtask

A runnable subtask that the publish loop reaches after the deadline is passed over without a
record, and a latency that is no integer ends the run.
-/

namespace OmniMarket.SwarmFanout
variable {subtasks : List ModelSubtask} {start : FanoutState}

structure Punctual (env : FanoutEnv) (request : ModelSwarmFanoutRequest) (before : FanoutState)
    (wave : NumberedWave) : Prop where
  inTime : ∀ index < (runnableOf before wave).length,
    env.clock (before.readings + index) < deadlineOf env request
  latencies : ∀ subtask ∈ runnableOf before wave, assignedEndpoint env request subtask ≠ none →
    ∀ event ∈ (eventsFor env request (answerOf env before) subtask.subtaskId).getLast?,
      env.intOfText (latencyText env event) ≠ none

variable {env : FanoutEnv} {request : ModelSwarmFanoutRequest} {before : FanoutState}
  {wave : NumberedWave}

theorem inTime_eq_self {reading : ℕ} :
    inTime env request reading subtasks = subtasks ↔
      ∀ index < subtasks.length, env.clock (reading + index) < deadlineOf env request := by
  induction subtasks generalizing reading with
  | nil => exact ⟨fun _ _ below => absurd below (Nat.not_lt_zero _), fun _ => rfl⟩
  | cons subtask rest ih =>
    rw [inTime, List.length_cons, Nat.forall_lt_succ_left, Nat.add_zero]
    by_cases open' : env.clock reading < deadlineOf env request
    · rw [if_pos open', List.cons_inj_right, ih]
      refine ⟨fun later => ⟨open', fun index below => ?_⟩, fun both index below => ?_⟩
      · rw [Nat.add_comm index, ← Nat.add_assoc]
        exact later index below
      · rw [Nat.add_assoc, Nat.add_comm 1]
        exact both.2 index below
    · rw [if_neg open']
      refine ⟨fun same => ?_, fun both => absurd both.1 open'⟩
      have shorter : (inTime env request (reading + 1) rest).Sublist rest := inTime_sublist _ _
      have short := shorter.length_le
      rw [same, List.length_cons] at short
      exact absurd short (Nat.not_succ_le_self _)

theorem verdictOf_eq_none {answer : List PyDict} {subtask : ModelSubtask} :
    verdictOf env request answer subtask = none ↔
      assignedEndpoint env request subtask ≠ none ∧
        ∃ event ∈ (eventsFor env request answer subtask.subtaskId).getLast?,
          env.intOfText (latencyText env event) = none := by
  rw [verdictOf]
  cases assignedEndpoint env request subtask with
  | none => simp
  | some endpoint =>
    cases (eventsFor env request answer subtask.subtaskId).getLast? with
    | none => simp
    | some event => simp

theorem awaitedOf_length_le : (awaitedOf env request (reachedOf env request before wave)).length ≤
      (runnableOf before wave).length :=
  (awaitedOf_awaits _ _ _).length_le.trans reachedOf_sublist.length_le

theorem punctual_iff : Punctual env request before wave ↔
    reachedOf env request before wave = runnableOf before wave ∧
      ∀ subtask ∈ runnableOf before wave,
        verdictOf env request (answerOf env before) subtask ≠ none := by
  constructor
  · intro punctual
    refine ⟨inTime_eq_self.2 punctual.inTime, fun subtask listed failed => ?_⟩
    obtain ⟨assigned, event, held, latency⟩ := verdictOf_eq_none.1 failed
    exact punctual.latencies subtask listed assigned event held latency
  · rintro ⟨same, verdicts⟩
    refine ⟨inTime_eq_self.1 same, fun subtask listed assigned event held latency => ?_⟩
    exact verdicts subtask listed (verdictOf_eq_none.2 ⟨assigned, event, held, latency⟩)

def dispatchedIds (state : FanoutState) : List String := state.dispatches.map (·.subtaskId)

theorem dispatchedIds_afterSkipping (waveNum : ℕ) (skipped : List ModelSubtask) :
    dispatchedIds (afterSkipping before waveNum skipped) =
      dispatchedIds before ++ idsOf skipped := by
  simp only [dispatchedIds, afterSkipping, List.map_append, List.map_map, idsOf]
  rfl

theorem waveStep_punctual (going : before.raised = none) (distinct : (idsOf wave.1).Nodup)
    (punctual : Punctual env request before wave) :
    (waveStep env request (deadlineOf env request) before wave).1.raised = none ∧
      (dispatchedIds (waveStep env request (deadlineOf env request) before wave).1).Perm
        (dispatchedIds before ++ idsOf wave.1) := by
  obtain ⟨same, verdicts⟩ := punctual_iff.1 punctual
  obtain ⟨skipped, sorts, outcome⟩ := waveStep_cases env request going wave
  have ids : (idsOf skipped ++ idsOf (runnableOf before wave)).Perm (idsOf wave.1) := by
    rw [idsOf, idsOf, ← List.map_append]
    exact sorts.each.map _
  have awaits : Awaits (runnableOf before wave)
      (awaitedOf env request (reachedOf env request before wave)) := by
    have awaits' := awaitedOf_awaits env request (reachedOf env request before wave)
    rw [same] at awaits' ⊢
    exact awaits'
  rcases outcome with ⟨none', step⟩ | ⟨-, ⟨raised, ended, step⟩ | ⟨dispatches, ended, step⟩⟩
  · rw [step]
    refine ⟨going, ?_⟩
    rw [← same, none'] at ids
    show (dispatchedIds (afterSkipping before wave.2 skipped)).Perm _
    rw [dispatchedIds_afterSkipping]
    exact ((List.append_nil (idsOf skipped)) ▸ ids).append_left _
  · obtain ⟨dispatches, made⟩ := exists_decided_ok.2 fun subtask listed =>
      verdicts subtask (awaits.among listed)
    rw [ended] at made
    cases made
  · rw [step]
    refine ⟨going, ?_⟩
    show ((afterSkipping before wave.2 skipped).dispatches ++ dispatches).map (·.subtaskId) |>.Perm _
    rw [List.map_append, decided_ids ended]
    show (dispatchedIds (afterSkipping before wave.2 skipped) ++ _).Perm _
    rw [dispatchedIds_afterSkipping, List.append_assoc]
    refine List.Perm.append_left _ (List.Perm.trans (List.Perm.append_left _ ?_) ids)
    exact (awaits.perm ((List.nodup_append.1 (ids.nodup_iff.2 distinct)).2.1)).map _

theorem waveStep_late (going : before.raised = none) (late : ¬ Punctual env request before wave) :
    (waveStep env request (deadlineOf env request) before wave).1.raised ≠ none ∨
      (waveStep env request (deadlineOf env request) before wave).1.dispatches.length <
        before.dispatches.length + wave.1.length := by
  obtain ⟨skipped, sorts, outcome⟩ := waveStep_cases env request going wave
  have size := sorts.each.length_eq
  rw [List.length_append] at size
  have skips : (afterSkipping before wave.2 skipped).dispatches.length =
      before.dispatches.length + skipped.length := by
    rw [afterSkipping, List.length_append, List.length_map]
  rcases outcome with ⟨none', step⟩ | ⟨-, ⟨raised, -, step⟩ | ⟨dispatches, ended, step⟩⟩
  · rw [step]
    refine .inr ?_
    show (afterSkipping before wave.2 skipped).dispatches.length < _
    -- no subtask was reached in time, though some were runnable
    have some' : runnableOf before wave ≠ [] := by
      intro idle
      refine late (punctual_iff.2 ⟨none'.trans idle.symm, ?_⟩)
      rw [idle]
      exact fun _ listed => absurd listed List.not_mem_nil
    have positive := List.length_pos_of_ne_nil some'
    omega
  · rw [step]
    exact .inl (Option.some_ne_none _)
  · rw [step]
    refine .inr ?_
    show ((afterSkipping before wave.2 skipped).dispatches ++ dispatches).length < _
    have made : dispatches.length =
        (awaitedOf env request (reachedOf env request before wave)).length := by
      have ids := congrArg List.length (decided_ids ended)
      rwa [idsOf, List.length_map, List.length_map] at ids
    -- were every runnable subtask awaited and decided, the wave would be punctual
    have fewer : (awaitedOf env request (reachedOf env request before wave)).length ≠
        (runnableOf before wave).length := by
      intro all
      have awaits := awaitedOf_awaits env request (reachedOf env request before wave)
      have same : reachedOf env request before wave = runnableOf before wave :=
        reachedOf_sublist.eq_of_length_le (all ▸ awaits.length_le)
      refine late (punctual_iff.2 ⟨same, fun subtask listed => ?_⟩)
      have everyone := (List.subperm_of_subset (awaits.distinct.of_map _) awaits.among).perm_of_length_le
        (by rw [all, same])
      exact exists_decided_ok.1 ⟨dispatches, ended⟩ subtask (everyone.mem_iff.2 (same ▸ listed))
    have most : (awaitedOf env request (reachedOf env request before wave)).length ≤
        (runnableOf before wave).length := awaitedOf_length_le
    rw [List.length_append]
    omega

/-! ## The run -/

theorem waveStep_length_le (before : FanoutState) (wave : NumberedWave) :
    (waveStep env request (deadlineOf env request) before wave).1.dispatches.length ≤
      before.dispatches.length + wave.1.length := by
  cases ended : before.raised with
  | some raised =>
    simp only [waveStep, ended]
    exact Nat.le_add_right _ _
  | none =>
    obtain ⟨skipped, sorts, outcome⟩ := waveStep_cases env request ended wave
    have size := sorts.each.length_eq
    have skips : (afterSkipping before wave.2 skipped).dispatches.length =
        before.dispatches.length + skipped.length := by
      rw [afterSkipping, List.length_append, List.length_map]
    rw [List.length_append] at size
    rcases outcome with ⟨-, step⟩ | ⟨-, ⟨raised, -, step⟩ | ⟨dispatches, made, step⟩⟩
    · rw [step]
      show (afterSkipping before wave.2 skipped).dispatches.length ≤ _
      omega
    · rw [step]
      show (afterSkipping before wave.2 skipped).dispatches.length ≤ _
      omega
    · rw [step]
      show ((afterSkipping before wave.2 skipped).dispatches ++ dispatches).length ≤ _
      have ids := congrArg List.length (decided_ids made)
      rw [idsOf, List.length_map, List.length_map] at ids
      have most : (awaitedOf env request (reachedOf env request before wave)).length ≤
          (runnableOf before wave).length := awaitedOf_length_le
      rw [List.length_append]
      omega

/-- How many subtasks some waves have. -/
def sizeOf (waves : List NumberedWave) : ℕ := (waves.map (·.1.length)).sum

theorem final_length_le (start : FanoutState) (waves : List NumberedWave) :
    (Trace.final (waveStep env request (deadlineOf env request)) start waves).dispatches.length ≤
      start.dispatches.length + sizeOf waves := by
  induction waves generalizing start with
  | nil => exact le_refl _
  | cons wave rest ih =>
    have first : (waveStep env request (deadlineOf env request) start wave).1.dispatches.length ≤
        start.dispatches.length + wave.1.length := waveStep_length_le start wave
    have later := ih (waveStep env request (deadlineOf env request) start wave).1
    rw [Trace.final, sizeOf, List.map_cons, List.sum_cons]
    rw [sizeOf] at later
    omega

theorem final_raised (raised : start.raised ≠ none) (waves : List NumberedWave) :
    Trace.final (waveStep env request (deadlineOf env request)) start waves = start := by
  induction waves with
  | nil => rfl
  | cons wave rest ih =>
    obtain ⟨error, held⟩ := Option.ne_none_iff_exists'.1 raised
    have still : (waveStep env request (deadlineOf env request) start wave).1 = start := by
      simp only [waveStep, held]
    rw [Trace.final, still]
    exact ih

def AllPunctual (env : FanoutEnv) (request : ModelSwarmFanoutRequest) (start : FanoutState)
    (waves : List NumberedWave) : Prop :=
  ∀ t ∈ Trace.run (waveStep env request (deadlineOf env request)) start waves,
    Punctual env request t.before t.event

theorem final_punctual {waves : List NumberedWave} (going : start.raised = none)
    (distinct : (waves.flatMap fun wave => idsOf wave.1).Nodup)
    (punctual : AllPunctual env request start waves) :
    (Trace.final (waveStep env request (deadlineOf env request)) start waves).raised = none ∧
      (dispatchedIds
        (Trace.final (waveStep env request (deadlineOf env request)) start waves)).Perm
          (dispatchedIds start ++ waves.flatMap fun wave => idsOf wave.1) := by
  induction waves generalizing start with
  | nil => exact ⟨going, List.Perm.of_eq (List.append_nil _).symm⟩
  | cons wave rest ih =>
    rw [List.flatMap_cons, List.nodup_append] at distinct
    obtain ⟨going', ids⟩ := waveStep_punctual going distinct.1
      (punctual ⟨start, wave, _, _⟩ List.mem_cons_self)
    obtain ⟨ended, all⟩ := ih going' distinct.2.1
      fun t taken => punctual t (List.mem_cons_of_mem _ taken)
    refine ⟨ended, all.trans ?_⟩
    rw [List.flatMap_cons, ← List.append_assoc]
    exact ids.append_right _

theorem final_late {waves : List NumberedWave} (going : start.raised = none)
    (late : ¬ AllPunctual env request start waves) :
    (Trace.final (waveStep env request (deadlineOf env request)) start waves).raised ≠ none ∨
      (Trace.final (waveStep env request (deadlineOf env request)) start waves).dispatches.length <
        start.dispatches.length + sizeOf waves := by
  induction waves generalizing start with
  | nil => exact absurd (fun _ taken => absurd taken List.not_mem_nil) late
  | cons wave rest ih =>
    rw [Trace.final, sizeOf, List.map_cons, List.sum_cons, ← sizeOf]
    have most : (Trace.final (waveStep env request (deadlineOf env request))
        (waveStep env request (deadlineOf env request) start wave).1 rest).dispatches.length ≤
        (waveStep env request (deadlineOf env request) start wave).1.dispatches.length +
          sizeOf rest := final_length_le _ rest
    by_cases first : Punctual env request start wave
    · by_cases going' : (waveStep env request (deadlineOf env request) start wave).1.raised = none
      · have later : ¬ AllPunctual env request
            (waveStep env request (deadlineOf env request) start wave).1 rest := by
          intro punctual
          refine late fun t taken => ?_
          rcases List.mem_cons.1 taken with rfl | among
          · exact first
          · exact punctual t among
        have bound : (waveStep env request (deadlineOf env request) start wave).1.dispatches.length ≤
            start.dispatches.length + wave.1.length := waveStep_length_le start wave
        refine (ih going' later).imp_right fun fewer => ?_
        omega
      · rw [final_raised going']
        exact .inl going'
    · rcases waveStep_late going first with raised | fewer
      · rw [final_raised raised]
        exact .inl raised
      · refine .inr ?_
        omega

/-! ## Accounting -/

structure Accounts (request : ModelSwarmFanoutRequest) (result : ModelSwarmFanoutResult) : Prop where
  once : (result.dispatches.map (·.subtaskId)).Perm (idsOf request.subtasks)
  counts : result.completedCount + result.failedCount = request.subtasks.length
  degraded : (∃ subtask ∈ request.subtasks, ∀ dispatch ∈ result.dispatches,
    dispatch.subtaskId = subtask.subtaskId → dispatch.executionStatus ≠ .succeeded) →
      result.degraded = true

theorem accounts_of_once {final : FanoutState}
    (once : (dispatchedIds final).Perm (idsOf request.subtasks)) :
    Accounts request (resultOf env request final) := by
  have most : final.dispatches.countP (·.executionStatus = .succeeded) ≤ final.dispatches.length :=
    List.countP_le_length
  have size : final.dispatches.length = request.subtasks.length := by
    have lengths := once.length_eq
    rwa [dispatchedIds, idsOf, List.length_map, List.length_map] at lengths
  refine ⟨once, ?_, ?_⟩
  · show final.dispatches.countP (·.executionStatus = .succeeded) + (final.dispatches.length -
      final.dispatches.countP (·.executionStatus = .succeeded)) = request.subtasks.length
    omega
  · rintro ⟨subtask, listed, failed⟩
    have own : subtask.subtaskId ∈ dispatchedIds final :=
      once.mem_iff.2 (mem_idsOf.2 ⟨subtask, listed, rfl⟩)
    obtain ⟨dispatch, among, same⟩ := List.mem_map.1 own
    have fewer : final.dispatches.countP (·.executionStatus = .succeeded) ≠
        final.dispatches.length := by
      intro all
      exact failed dispatch among same (of_decide_eq_true (List.countP_eq_length.1 all dispatch among))
    refine decide_eq_true ?_
    show 0 < final.dispatches.length - final.dispatches.countP (·.executionStatus = .succeeded)
    omega

theorem zipIdx_ids (waves : List (List ModelSubtask)) :
    (waves.zipIdx.flatMap fun wave => idsOf wave.1) = idsOf waves.flatten := by
  have ids : waves.zipIdx.map (idsOf ∘ Prod.fst) = waves.map idsOf := by
    rw [← List.map_map, List.zipIdx_map_fst]
  show (waves.zipIdx.map (idsOf ∘ Prod.fst)).flatten = idsOf waves.flatten
  rw [ids, idsOf, List.map_flatten]
  rfl

theorem sizeOf_zipIdx (waves : List (List ModelSubtask)) :
    sizeOf waves.zipIdx = waves.flatten.length := by
  have sizes : waves.zipIdx.map (List.length ∘ Prod.fst) = waves.map List.length := by
    rw [← List.map_map, List.zipIdx_map_fst]
  show (waves.zipIdx.map (List.length ∘ Prod.fst)).sum = waves.flatten.length
  rw [sizes, List.length_flatten]

/-- A run accounts for every subtask if and only if every wave reaches its runnable subtasks in
time and their events carry integer latencies. -/
theorem accounts_iff_punctual (env : FanoutEnv) (request : ModelSwarmFanoutRequest)
    (schedulable : Schedulable request.subtasks) :
    (∃ result, handle env request = some (.ok result) ∧ Accounts request result) ↔
      ∃ waves, computeWaves request.subtasks = some (.ok waves) ∧
        AllPunctual env request startState waves.zipIdx := by
  obtain ⟨waves, computed, scheduled⟩ := computeWaves_scheduled schedulable
  have startGoing : startState.raised = none := rfl
  have ids : (waves.zipIdx.flatMap fun wave => idsOf wave.1).Perm (idsOf request.subtasks) := by
    rw [zipIdx_ids]
    exact scheduled.once.map _
  constructor
  · rintro ⟨result, handled, accounts⟩
    refine ⟨waves, computed, ?_⟩
    by_contra late
    simp only [handle, computed] at handled
    -- a late wave raises, or it loses a subtask that no later wave makes up for
    rcases final_late startGoing late with raised | fewer
    · obtain ⟨error, held⟩ := Option.ne_none_iff_exists'.1 raised
      simp only [finalState, held] at handled
      cases handled
    · cases ended : (finalState env request waves).raised with
      | some error =>
        simp only [ended] at handled
        cases handled
      | none =>
        simp only [ended] at handled
        cases handled
        have size := accounts.once.length_eq
        rw [idsOf, List.length_map, List.length_map] at size
        rw [sizeOf_zipIdx, scheduled.once.length_eq, ← size] at fewer
        have none' : startState.dispatches.length = 0 := rfl
        rw [none', Nat.zero_add] at fewer
        exact absurd fewer (Nat.lt_irrefl _)
  · rintro ⟨waves', computed', punctual⟩
    obtain rfl : waves = waves' := by
      rw [computed] at computed'
      cases computed'
      rfl
    obtain ⟨ended, all⟩ := final_punctual startGoing
      (ids.nodup_iff.2 schedulable.distinct) punctual
    refine ⟨resultOf env request (finalState env request waves), ?_,
      accounts_of_once (all.trans ids)⟩
    have ended' : (finalState env request waves).raised = none := ended
    simp only [handle, computed, ended']

theorem schedulable_of_independent (distinct : (idsOf subtasks).Nodup)
    (independent : ∀ subtask ∈ subtasks, subtask.dependsOn = []) : Schedulable subtasks := by
  refine ⟨distinct, ?_, ?_⟩
  · intro subtask listed
    rw [independent subtask listed]
    exact List.nil_subset _
  · intro subtaskId listed onCycle
    obtain ⟨subtask, among, rfl⟩ := mem_idsOf.1 listed
    obtain ⟨dependency, step, -⟩ := Relation.TransGen.head'_iff.1 onCycle
    have step' : dependency ∈ dependenciesOf subtasks subtask.subtaskId := step
    rw [dependenciesOf_eq distinct among, independent subtask among] at step'
    exact absurd step' List.not_mem_nil

/-! ## A subtask that is lost -/

def pairRequest : ModelSwarmFanoutRequest where
  subtasks := [{ subtaskId := "a", description := "first" },
    { subtaskId := "b", description := "second" }]
  assignments := (OrderedDict.empty.set "a" "local").set "b" "local"
  endpoints := [{ endpointId := "local", baseUrl := "", modelId := "qwen"
                  endpointRef := "LLM_LOCAL_PRIMARY_URL" }]
  runId := "r"

def completedEvent (correlationId : String) : PyDict :=
  [("correlation_id", .str correlationId), ("success", .bool true), ("latency_ms", .int 40),
    ("_topic", .str "onex.evt.omnimarket.delegation-call-completed.v1")]

/-- The clock stands still until the first command is out and then jumps past the deadline. -/
def jumpingEnv : FanoutEnv where
  registry := .empty
  clock := fun reading => if reading < 3 then 0 else 700
  monotonic := by
    intro first second before
    by_cases early : second < 3
    · simp [early, before.trans_lt early]
    · by_cases early' : first < 3 <;> simp [early, early']
  poll := fun _ => [completedEvent "r-a"]
  strValue
    | .int value => toString value
    | _ => ""
  intOfText := fun text => if text = "40" then some 40 else none
  sha256 := id

/-- The first subtask is done; the second has no dispatch, and the result is not degraded. -/
theorem pairRequest_loses :
    Schedulable pairRequest.subtasks ∧
      ∃ result, handle jumpingEnv pairRequest = some (.ok result) ∧
        result.dispatches.map (·.subtaskId) = ["a"] ∧ result.degraded = false ∧
        ¬ Accounts pairRequest result := by
  refine ⟨schedulable_of_independent (by decide) (by decide), ?_⟩
  have seen : ((handle jumpingEnv pairRequest).bind Except.toOption).map (fun result =>
      (result.dispatches.map (·.subtaskId), result.degraded)) = some (["a"], false) := by
    decide +kernel
  cases handled : handle jumpingEnv pairRequest with
  | none =>
    rw [handled] at seen
    cases seen
  | some outcome =>
    cases outcome with
    | error raised =>
      rw [handled] at seen
      cases seen
    | ok result =>
      rw [handled] at seen
      have both := Option.some.inj seen
      have ids : result.dispatches.map (·.subtaskId) = ["a"] := congrArg Prod.fst both
      refine ⟨result, rfl, ids, congrArg Prod.snd both, fun accounts => ?_⟩
      have size := accounts.once.length_eq
      rw [ids] at size
      exact absurd size (by decide)

theorem pairRequest_accounts_iff :
    (∃ result, handle jumpingEnv pairRequest = some (.ok result) ∧ Accounts pairRequest result) ↔
      ∃ waves, computeWaves pairRequest.subtasks = some (.ok waves) ∧
        AllPunctual jumpingEnv pairRequest startState waves.zipIdx :=
  accounts_iff_punctual jumpingEnv pairRequest
    (schedulable_of_independent (by decide) (by decide))

end OmniMarket.SwarmFanout
