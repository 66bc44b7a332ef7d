import OmniMarket.Projection.Runner

/-!
# What lies below a committed offset

The runner commits a message that was projected, does not apply, carries no event or was
published as a dead letter. It also commits a poison event that it could not publish, so as not
to wedge the partition.
-/

namespace OmniMarket.Projection
variable {data : PyDict} {next : KafkaMessage} {positions : OrderedDict TopicPartition ℕ}

section

variable (env : RunnerEnv) (outside : Behaviour)

/-- The outcome of `project_event` for a message that carries an event. -/
def ProjectReturns (msg : KafkaMessage) (outcome : Except Raised Bool) : Prop :=
  ∃ value data, msg.value = some value ∧ unwrapEnvelope env.text value = .ok (some data) ∧
    outside.projectEvent msg.topic data (metaOf env msg) = outcome

/-- No value, or none that `unwrap_envelope` can unwrap. -/
def IsNonEvent (msg : KafkaMessage) : Prop :=
  ∀ value, msg.value = some value → unwrapEnvelope env.text value = .ok none

def FailsAsPoison (msg : KafkaMessage) : Prop :=
  ∃ err, ProjectReturns env outside msg (.error err) ∧ classifyProjectionError err = .poison

/-- The text of the event's dead letter, and the first topic for dead letters. -/
structure DeadLetter (data : PyDict) (err : Raised) (metadata : MessageMeta) (dlqTopic : String)
    (value : Bytes) : Prop where
  first : env.poisonDlqTopics.head? = some dlqTopic
  dumped : env.text.dumps (poisonEnvelope env outside data err metadata) = .ok value

/-- The dead letter of the message, whose event `project_event` rejects as poison. -/
def PoisonLetter (msg : KafkaMessage) (dlqTopic : String) (value : Bytes) : Prop :=
  ∃ text data err, msg.value = some text ∧ unwrapEnvelope env.text text = .ok (some data) ∧
    outside.projectEvent msg.topic data (metaOf env msg) = .error err ∧
    classifyProjectionError err = .poison ∧
    DeadLetter env outside data err (metaOf env msg) dlqTopic value

inductive Accounted (handled : Handled) : Prop
  | nonEvent (carriesNone : IsNonEvent env handled.message)
  | projected (returned : ProjectReturns env outside handled.message (.ok true))
  | notApplicable (returned : ProjectReturns env outside handled.message (.ok false))
  | deadLetter (dlqTopic : String) (value : Bytes)
      (letter : PoisonLetter env outside handled.message dlqTopic value)
      (published : handled.published = [(dlqTopic, value)])

/-- A poison event without a topic for dead letters, or whose dead letter could not be published. -/
structure Unrouted (handled : Handled) : Prop where
  failed : FailsAsPoison env outside handled.message
  unroutable : env.poisonDlqTopics = [] ∨
    ∃ dlqTopic value error, PoisonLetter env outside handled.message dlqTopic value ∧
      outside.publishDlq dlqTopic value = .error error

end

variable {env : RunnerEnv} {outside : Behaviour} {state : RunnerState} {msg : KafkaMessage}

structure Commits (before : RunnerState) (msg : KafkaMessage) (after : RunnerState) : Prop where
  session : after.session = before.session
  committed : after.committed = before.committed ∨
    after.committed = before.committed.set msg.topicPartition (msg.offset + 1)

theorem commitMessage_commits (outside : Behaviour) (state : RunnerState) (msg : KafkaMessage) :
    Commits state msg (commitMessage outside state msg) ∧
      (commitMessage outside state msg).dlq = state.dlq := by
  unfold commitMessage
  cases running : state.session with
  | none => exact ⟨⟨rfl, .inl rfl⟩, rfl⟩
  | some positions =>
    simp only
    rw [← running]
    cases outside.commit with
    | refused => exact ⟨⟨rfl, .inl rfl⟩, rfl⟩
    | accepted => exact ⟨⟨rfl, .inr rfl⟩, rfl⟩
    | unanswered => exact ⟨⟨rfl, .inr rfl⟩, rfl⟩

/-- What `_handle_message` comes to: an error without a commit, or a message accounted for. -/
def Handles (env : RunnerEnv) (outside : Behaviour) (before : RunnerState) (msg : KafkaMessage)
    (after : RunnerState) (disposition : Disposition) : Prop :=
  (∃ raised, disposition = .raised raised ∧ after.committed = before.committed) ∨
    (∀ raised, disposition ≠ .raised raised) ∧ Commits before msg after ∧
      (Accounted env outside ⟨msg, disposition, after.dlq.drop before.dlq.length⟩ ∨
        Unrouted env outside ⟨msg, disposition, after.dlq.drop before.dlq.length⟩)

theorem routePoisonToDlq_cases {err : Raised} {metadata : MessageMeta} {after : RunnerState}
    {routed : Bool}
    (ended : routePoisonToDlq env outside state data err metadata = .ok (after, routed)) :
    (after = state ∧ (env.poisonDlqTopics = [] ∨
        ∃ topic value error, DeadLetter env outside data err metadata topic value ∧
          outside.publishDlq topic value = .error error)) ∨
      ∃ topic value, DeadLetter env outside data err metadata topic value ∧
        after = { state with dlq := state.dlq ++ [(topic, value)] } := by
  unfold routePoisonToDlq at ended
  cases declared : env.poisonDlqTopics with
  | nil =>
    simp only [declared] at ended
    cases ended
    exact .inl ⟨rfl, .inl rfl⟩
  | cons topic others =>
    simp only [declared] at ended
    split at ended
    · cases ended
    · next value dumped =>
      have letter : DeadLetter env outside data err metadata topic value :=
        ⟨by rw [declared, List.head?_cons], dumped⟩
      cases published : outside.publishDlq topic value with
      | error error =>
        simp only [published] at ended
        cases ended
        exact .inl ⟨rfl, .inr ⟨topic, value, error, letter, published⟩⟩
      | ok done =>
        simp only [published] at ended
        cases ended
        exact .inr ⟨topic, value, letter, rfl⟩

theorem handleError_handles {err : Raised} {text : Bytes} (carried : msg.value = some text)
    (unwrapped : unwrapEnvelope env.text text = .ok (some data))
    (failed : outside.projectEvent msg.topic data (metaOf env msg) = .error err) :
    Handles env outside state msg
      (handleError env outside state msg data (some (metaOf env msg)) err).1
      (handleError env outside state msg data (some (metaOf env msg)) err).2 := by
  unfold handleError
  cases class' : classifyProjectionError err with
  | recoverable => exact .inl ⟨err, rfl, rfl⟩
  | poison =>
    simp only
    cases ended : routePoisonToDlq env outside
        { state with stats := state.stats.countError msg.topic } data err (metaOf env msg) with
    | error raised => exact .inl ⟨raised, rfl, rfl⟩
    | ok outcome =>
      obtain ⟨after, routed⟩ := outcome
      obtain ⟨commits, letters⟩ := commitMessage_commits outside after msg
      have poison : FailsAsPoison env outside msg :=
        ⟨err, ⟨text, data, carried, unwrapped, failed⟩, class'⟩
      have own {topic value} (letter : DeadLetter env outside data err (metaOf env msg) topic value) :
          PoisonLetter env outside msg topic value :=
        ⟨text, data, err, carried, unwrapped, failed, class', letter⟩
      refine .inr ⟨fun raised => nofun, ?_, ?_⟩
      · rcases routePoisonToDlq_cases ended with ⟨rfl, -⟩ | ⟨topic, value, -, rfl⟩
        · exact ⟨commits.session, commits.committed⟩
        · exact ⟨commits.session, commits.committed⟩
      · simp only [letters]
        rcases routePoisonToDlq_cases ended with
          ⟨rfl, undeclared | ⟨topic, value, error, letter, refused⟩⟩ | ⟨topic, value, letter, rfl⟩
        · exact .inr ⟨poison, .inl undeclared⟩
        · exact .inr ⟨poison, .inr ⟨topic, value, error, own letter, refused⟩⟩
        · exact .inl (.deadLetter topic value (own letter) List.drop_left)

/-- While `meta` is not bound, every error leaves `_handle_message`, a poison one too. -/
theorem handleError_unbound (err : Raised) :
    ∃ raised, (handleError env outside state msg data none err).2 = .raised raised ∧
      (handleError env outside state msg data none err).1.committed = state.committed := by
  unfold handleError
  cases classifyProjectionError err with
  | recoverable => exact ⟨err, rfl, rfl⟩
  | poison => exact ⟨unboundMeta, rfl, rfl⟩

theorem updateWatermark_keeps (outside : Behaviour) (state : RunnerState) (projectionName : String)
    (offset : ℕ) :
    (updateWatermark outside state projectionName offset).session = state.session ∧
      (updateWatermark outside state projectionName offset).committed = state.committed := by
  unfold updateWatermark
  cases outside.updateWatermark with
  | error raised => exact ⟨rfl, rfl⟩
  | ok done => exact ⟨rfl, rfl⟩

theorem handleMessage_cases (env : RunnerEnv) (outside : Behaviour) (state : RunnerState)
    (msg : KafkaMessage) : Handles env outside state msg (handleMessage env outside state msg).1
      (handleMessage env outside state msg).2 := by
  obtain ⟨commits, letters⟩ := commitMessage_commits outside state msg
  unfold handleMessage
  cases carried : msg.value with
  | none =>
    -- a tombstone: there is nothing to project
    refine .inr ⟨fun raised => nofun, commits, .inl (.nonEvent ?_)⟩
    intro value held
    rw [carried] at held
    cases held
  | some value =>
    simp only
    cases unwrapped : unwrapEnvelope env.text value with
    | error err =>
      exact .inl (handleError_unbound err)
    | ok unwrapped' =>
      cases unwrapped' with
      | none =>
        -- the value is not an event envelope
        refine .inr ⟨fun raised => nofun, commits, .inl (.nonEvent ?_)⟩
        intro other held
        rw [carried] at held
        cases held
        exact unwrapped
      | some data =>
        simp only
        cases returned : outside.projectEvent msg.topic data (metaOf env msg) with
        | error err =>
          exact handleError_handles carried unwrapped returned
        | ok applies =>
          have returns : ProjectReturns env outside msg (.ok applies) :=
            ⟨value, data, carried, unwrapped, returned⟩
          cases applies with
          | false => exact .inr ⟨fun raised => nofun, commits, .inl (.notApplicable returns)⟩
          | true =>
            -- the watermark is written between the projection and the commit
            refine .inr ⟨fun raised => nofun, ?_, .inl (.projected returns)⟩
            obtain ⟨session, committed⟩ := updateWatermark_keeps outside
              { state with stats := state.stats.countProjected msg.topic outside.now }
              (msg.topic ++ ":" ++ toString msg.partition) msg.offset
            obtain ⟨⟨session', committed'⟩, -⟩ := commitMessage_commits outside
              (updateWatermark outside
                { state with stats := state.stats.countProjected msg.topic outside.now }
                (msg.topic ++ ":" ++ toString msg.partition) msg.offset) msg
            rw [committed] at committed'
            exact ⟨session'.trans session, committed'⟩

/-! ## Positions in a log -/

variable {log : Log}

def Below (log : Log) (offsets : OrderedDict TopicPartition ℕ) (msg : KafkaMessage) : Prop :=
  msg ∈ log.messages msg.topicPartition ∧
    ∃ offset, offsets.get? msg.topicPartition = some offset ∧ msg.offset < offset

theorem Log.next_cases {partition : TopicPartition} {position : ℕ} {other : KafkaMessage}
    (found : log.next partition position = some next) (listed : other ∈ log.messages partition)
    (reached : other.offset ≤ next.offset) : other = next ∨ other.offset < position := by
  obtain ⟨-, before, after, split, skipped⟩ := List.find?_eq_some_iff_append.1 found
  have ordered := log.ordered partition
  rw [split] at listed ordered
  rcases List.mem_append.1 listed with earlier | later
  · refine .inr ?_
    have passed := skipped other earlier
    simpa using passed
  · rcases List.mem_cons.1 later with rfl | further
    · exact .inl rfl
    · have behind := (List.pairwise_cons.1 (List.pairwise_append.1 ordered).2.1).1 other further
      exact absurd reached (Nat.not_le.2 behind)

theorem Log.next_own {partition : TopicPartition} {position : ℕ}
    (found : log.next partition position = some next) : next.topicPartition = partition :=
  log.own partition next (List.mem_of_find?_eq_some found)

theorem Below.advance {offsets : OrderedDict TopicPartition ℕ} {other : KafkaMessage}
    (found : log.next next.topicPartition ((positions.get? next.topicPartition).getD 0) = some next)
    (below : Below log (offsets.set next.topicPartition (next.offset + 1)) other) :
    other = next ∨ Below log positions other ∨ Below log offsets other := by
  obtain ⟨listed, offset, held, lower⟩ := below
  by_cases same : other.topicPartition = next.topicPartition
  · rw [same, OrderedDict.get?_set_self] at held
    cases held
    rcases Log.next_cases found (same ▸ listed) (Nat.lt_succ_iff.1 lower) with rfl | passed
    · exact .inl rfl
    · refine .inr (.inl ⟨listed, ?_⟩)
      rw [same]
      cases position : positions.get? next.topicPartition with
      | none =>
        rw [position] at passed
        exact absurd passed (Nat.not_lt_zero _)
      | some position' =>
        rw [position] at passed
        exact ⟨position', rfl, passed⟩
  · rw [OrderedDict.get?_set_other same] at held
    exact .inr (.inr ⟨listed, offset, held, lower⟩)

/-! ## The invariant of a run -/

abbrev RunnerTransition := Trace.Transition RunnerState RunnerEvent (Option Handled)

def CoveredBy (env : RunnerEnv) (t : RunnerTransition) (msg : KafkaMessage) : Prop :=
  ∃ partition outside handled, t.event = .delivery partition outside ∧ t.output = some handled ∧
    handled.message = msg ∧ (Accounted env outside handled ∨ Unrouted env outside handled)

structure Kept (env : RunnerEnv) (log : Log) (past : List RunnerTransition) (state : RunnerState) :
    Prop where
  committed : ∀ msg, Below log state.committed msg → ∃ t ∈ past, CoveredBy env t msg
  session : ∀ positions, state.session = some positions → ∀ msg, Below log positions msg →
    ∃ t ∈ past, CoveredBy env t msg

variable {past : List RunnerTransition}

theorem Kept.later {t : RunnerTransition} {msg : KafkaMessage}
    (covered : ∃ t ∈ past, CoveredBy env t msg) : ∃ t' ∈ past ++ [t], CoveredBy env t' msg := by
  obtain ⟨earlier, listed, covers⟩ := covered
  exact ⟨earlier, List.mem_append_left _ listed, covers⟩

/-- The state in which a delivered message is handled: the consumer has moved past it. -/
def fetchedState (state : RunnerState) (positions : OrderedDict TopicPartition ℕ)
    (msg : KafkaMessage) : RunnerState :=
  { state with session := some (positions.set msg.topicPartition (msg.offset + 1)) }

theorem runnerStep_handles (running : state.session = some positions)
    (found : log.next msg.topicPartition ((positions.get? msg.topicPartition).getD 0) = some msg) :
    (∃ (moved : RunnerState) (handled : Handled),
        runnerStep env log state (.delivery msg.topicPartition outside) =
          ({ moved with session := none }, some handled) ∧
        moved.committed = state.committed) ∨
      ∃ moved handled,
        runnerStep env log state (.delivery msg.topicPartition outside) = (moved, some handled) ∧
        handled.message = msg ∧ Commits (fetchedState state positions msg) msg moved ∧
        (Accounted env outside handled ∨ Unrouted env outside handled) := by
  have handles := handleMessage_cases env outside
    { state with session := some (positions.set msg.topicPartition (msg.offset + 1)) } msg
  simp only [runnerStep, running, found]
  generalize handleMessage env outside
    { state with session := some (positions.set msg.topicPartition (msg.offset + 1)) } msg =
      result at handles ⊢
  obtain ⟨moved, disposition⟩ := result
  rcases handles with ⟨raised, rfl, same⟩ | ⟨unraised, commits, covers⟩
  · exact .inl ⟨moved, _, rfl, same⟩
  · refine .inr ⟨moved, ⟨msg, disposition, moved.dlq.drop state.dlq.length⟩, ?_, rfl, commits, covers⟩
    cases disposition with
    | raised raised => exact absurd rfl (unraised raised)
    | nonEvent => rfl
    | projected => rfl
    | notApplicable => rfl
    | poison routed => rfl

theorem Kept.step {t : RunnerTransition} (kept : Kept env log past t.before)
    (stepped : runnerStep env log t.before t.event = (t.after, t.output)) :
    Kept env log (past ++ [t]) t.after := by
  obtain ⟨before, event, output, after⟩ := t
  cases event with
  | restart =>
    -- a new session starts at the committed offsets
    simp only [runnerStep] at stepped
    cases stepped
    refine ⟨fun msg below => Kept.later (kept.committed msg below), ?_⟩
    intro positions started msg below
    cases started
    exact Kept.later (kept.committed msg below)
  | delivery partition outside =>
    cases running : before.session with
    | none =>
      simp only [runnerStep, running] at stepped
      cases stepped
      exact ⟨fun msg below => Kept.later (kept.committed msg below),
        fun positions held msg below => Kept.later (kept.session positions held msg below)⟩
    | some positions =>
      cases found : log.next partition ((positions.get? partition).getD 0) with
      | none =>
        simp only [runnerStep, running, found] at stepped
        cases stepped
        exact ⟨fun msg below => Kept.later (kept.committed msg below),
          fun positions held msg below => Kept.later (kept.session positions held msg below)⟩
      | some msg =>
        obtain rfl := Log.next_own found
        rcases runnerStep_handles running found with
          ⟨moved, raised, step, same⟩ | ⟨moved, handled, step, own, commits, covers⟩
        · -- the session ends and nothing was committed
          have stepped' := step.symm.trans stepped
          cases stepped'
          refine ⟨fun other below => ?_, fun positions' started => nomatch started⟩
          have below' : Below log before.committed other := same ▸ below
          exact Kept.later (kept.committed other below')
        · have stepped' := step.symm.trans stepped
          cases stepped'
          -- the offset moves past this message, which the step has covered
          have covered : ∃ t ∈ past ++ [(⟨before, .delivery msg.topicPartition outside,
              some handled, after⟩ : RunnerTransition)], CoveredBy env t msg :=
            ⟨_, List.mem_append_right _ (List.mem_singleton.2 rfl), msg.topicPartition, outside,
              handled, rfl, rfl, own, covers⟩
          refine ⟨fun other below => ?_, fun positions' started other below => ?_⟩
          · rcases commits.committed with same | stored
            · exact Kept.later (kept.committed other (same ▸ below))
            · have below' : Below log
                  (before.committed.set msg.topicPartition (msg.offset + 1)) other :=
                stored ▸ below
              rcases Below.advance found below' with rfl | passed | earlier
              · exact covered
              · exact Kept.later (kept.session positions running other passed)
              · exact Kept.later (kept.committed other earlier)
          · have session : positions.set msg.topicPartition (msg.offset + 1) = positions' := by
              rw [commits.session] at started
              exact Option.some.inj started
            subst session
            rcases Below.advance found below with rfl | passed | passed
            · exact covered
            · exact Kept.later (kept.session positions running other passed)
            · exact Kept.later (kept.session positions running other passed)

end OmniMarket.Projection
