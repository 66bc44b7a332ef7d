import OmniMarket.GenerationConsumer.Deploy
import OmniMarket.Lib.OrderedDict
import OmniMarket.Lib.Trace

/-!
# Redelivered generation commands

A command is delivered until `handle` returns. The process may die between any two acts of a
delivery; what it has done by then stays done. The marker is the last act, and a later delivery that
finds it does nothing. A deploy command that the broker did not take does not keep the marker from
being written.
-/

namespace OmniMarket.GenerationConsumer

open Acting Trace

/-! ## Deliveries -/

/-- The markers under the state root and what the broker has acknowledged. -/
structure World where
  markers : OrderedDict String ModelGenerationBenchmark := .empty
  acknowledged : List (String × Message) := []

def World.apply (world : World) : Act → World
  | .callLlm _ => world
  | .publish _ _ false => world
  | .publish topic message true =>
    { world with acknowledged := world.acknowledged ++ [(topic, message)] }
  | .recordReplay path benchmark =>
    { world with markers := world.markers.set path benchmark }

structure GenerationDelivery where
  command : ModelNodeGenerationRequest
  answers : RunAnswers
  /-- The number of acts after which the process dies. -/
  crash : Option ℕ := none

structure Handled where
  acts : List Act
  returned : Option ModelGenerationBenchmark

section

variable (env : GenerationEnv) (config : ConsumerConfig)

section

variable (world : World)

/-- `_load_replay_benchmark`. -/
def World.replayed (command : ModelNodeGenerationRequest) :
    Option ModelGenerationBenchmark :=
  world.markers.get? (replayStatePath env command.correlationId)

section

variable (delivery : GenerationDelivery)

/-- `handle` in the world it finds. -/
def GenerationDelivery.ended :
    Ended RunState Act Abort ModelGenerationBenchmark :=
  handle env config delivery.answers delivery.command (world.replayed env delivery.command)
    delivery.answers.start

def GenerationDelivery.acts : List Act :=
  match delivery.crash with
  | none => (delivery.ended env config world).did
  | some done => (delivery.ended env config world).did.take done

def deliver : World × Handled :=
  ((delivery.acts env config world).foldl World.apply world,
    { acts := delivery.acts env config world
      returned :=
        match delivery.crash with
        | none => (delivery.ended env config world).outcome.toOption
        | some _ => none })

/-! ## Nothing lost, nothing repeated -/

/-- The benchmark of an artifact that may be deployed; a matched tool comes with no artifact. -/
def AcceptedForDeployment (benchmark : ModelGenerationBenchmark) : Prop :=
  benchmark.reusedToolId = "" ∧ benchmark.deploys = true

structure Carries (payload : ModelNodeDeploy) (correlationId contractYaml handlerSource : String) :
    Prop where
  command : payload.correlationId = correlationId
  contract : payload.contractYaml = contractYaml
  handler : payload.handlerSource = handlerSource

structure Settled (benchmark : ModelGenerationBenchmark) : Prop where
  terminal : ∃ topic, (topic, .terminal benchmark) ∈ world.acknowledged
  deployed : AcceptedForDeployment benchmark → config.topicDeploy ≠ "" →
    ∃ payload, (config.topicDeploy, .deploy payload) ∈ world.acknowledged ∧
      Carries payload benchmark.correlationId benchmark.contractYaml benchmark.handlerSource

def Act.records : Act → Prop
  | .recordReplay _ _ => True
  | _ => False

/-- Once `handle` has returned for a correlation id, its benchmark is settled, and no later delivery
of the id calls the model or publishes. -/
def LosesAndRepeatsNothing (deliveries : List GenerationDelivery) : Prop :=
  ∀ earlier t later, run (deliver env config) {} deliveries = earlier ++ t :: later →
    ∀ benchmark, t.output.returned = some benchmark →
      Settled config t.after benchmark ∧
      ∀ u ∈ later, u.event.command.correlationId = t.event.command.correlationId →
        ∀ act ∈ u.output.acts, act.records

structure DropsDeploy : Prop where
  fresh : world.replayed env delivery.command = none
  unmatched : toolReuseMatch env config delivery.answers delivery.command = none
  published : delivery.answers.acknowledges .terminal = true
  declared : config.topicDeploy ≠ ""
  lost : delivery.answers.acknowledges .deploy = false
  accepted : ∃ made last, madeBy env delivery.answers delivery.command = .ok made ∧
    made.getLast? = some last ∧ last.success = true ∧
    ∀ payload, (config.topicDeploy, .deploy payload) ∈ world.acknowledged →
      ¬ Carries payload delivery.command.correlationId last.contractYaml last.handlerSource
  finished : ∀ done ∈ delivery.crash, (delivery.ended env config world).did.length ≤ done

end

end

end

variable {env : GenerationEnv} {config : ConsumerConfig} {answers : RunAnswers}
  {command : ModelNodeGenerationRequest} {benchmark : ModelGenerationBenchmark} {world : World}
  {acts : List Act}

/-! ## What acts leave -/

theorem acknowledged_apply (world : World) (act : Act) :
    ∀ sent ∈ world.acknowledged, sent ∈ (world.apply act).acknowledged := by
  intro sent held
  cases act with
  | callLlm attempt => exact held
  | publish topic message acknowledged =>
    cases acknowledged with
    | false => exact held
    | true => exact List.mem_append_left _ held
  | recordReplay path benchmark => exact held

theorem acknowledged_mono (world : World) (acts : List Act) :
    ∀ sent ∈ world.acknowledged, sent ∈ (acts.foldl World.apply world).acknowledged := by
  induction acts generalizing world with
  | nil => exact fun _ held => held
  | cons act rest ih => exact fun sent held => ih _ sent (acknowledged_apply world act sent held)

theorem acknowledged_of_publish {topic : String} {message : Message}
    (published : .publish topic message true ∈ acts) :
    (topic, message) ∈ (acts.foldl World.apply world).acknowledged := by
  induction acts generalizing world with
  | nil => cases published
  | cons act rest ih =>
    rcases List.mem_cons.1 published with rfl | later
    · exact acknowledged_mono (world.apply (.publish topic message true)) rest _
        (List.mem_append_right _ (List.mem_singleton_self _))
    · exact ih later

theorem markers_apply {act : Act} (leaves : ¬ act.records) :
    (world.apply act).markers = world.markers := by
  cases act with
  | callLlm attempt => rfl
  | publish topic message acknowledged => cases acknowledged <;> rfl
  | recordReplay path benchmark => exact absurd trivial leaves

theorem markers_fold (leaves : ∀ act ∈ acts, ¬ act.records) :
    (acts.foldl World.apply world).markers = world.markers := by
  induction acts generalizing world with
  | nil => rfl
  | cons act rest ih =>
    rw [List.forall_mem_cons] at leaves
    exact (ih leaves.2).trans (markers_apply leaves.1)

theorem Settled.mono {after : World} (settled : Settled config world benchmark)
    (more : ∀ sent ∈ world.acknowledged, sent ∈ after.acknowledged) :
    Settled config after benchmark := by
  obtain ⟨topic, sent⟩ := settled.terminal
  refine ⟨⟨topic, more _ sent⟩, ?_⟩
  intro accepted declared
  obtain ⟨payload, held, carries⟩ := settled.deployed accepted declared
  exact ⟨payload, more _ held, carries⟩

/-! ## A delivery without a marker -/

/-- What a delivery does that gets to its marker. -/
structure Concluded (env : GenerationEnv) (config : ConsumerConfig) (answers : RunAnswers)
    (command : ModelNodeGenerationRequest) (acts : List Act)
    (benchmark : ModelGenerationBenchmark) : Prop where
  leaves : ∀ act ∈ acts, ¬ act.records
  own : benchmark.correlationId = command.correlationId
  published : answers.acknowledges .terminal = true
  terminal : .publish (terminalTopic config benchmark) (.terminal benchmark) true ∈ acts
  deploy : AcceptedForDeployment benchmark → config.topicDeploy ≠ "" →
    (∃ payload, .publish config.topicDeploy (.deploy payload) (answers.acknowledges .deploy) ∈ acts ∧
      Carries payload benchmark.correlationId benchmark.contractYaml benchmark.handlerSource) ∧
    toolReuseMatch env config answers command = none ∧
    ∃ made last, madeBy env answers command = .ok made ∧ made.getLast? = some last ∧
      last.success = true ∧ benchmark.contractYaml = last.contractYaml ∧
      benchmark.handlerSource = last.handlerSource

theorem reuseActs_leaves : ∀ act ∈ reuseActs config answers command, ¬ act.records := by
  intro act listed
  unfold reuseActs at listed
  split at listed
  · cases listed
  · rw [List.mem_singleton.1 listed]
    exact id

theorem quiet_leaves (quiet : acts.filterMap conclusion = []) : ∀ act ∈ acts, ¬ act.records := by
  intro act listed records
  have silent := List.filterMap_eq_nil_iff.1 quiet act listed
  cases act with
  | callLlm attempt => exact records
  | publish topic message acknowledged => exact records
  | recordReplay path benchmark => cases silent

theorem deployActs_leaves : ∀ act ∈ deployActs env config answers benchmark, ¬ act.records := by
  intro act listed
  unfold deployActs at listed
  split at listed
  · cases listed
  · cases named : extractNodeName env benchmark.contractYaml with
    | error abort =>
      rw [named] at listed
      cases listed
    | ok nodeName =>
      rw [named] at listed
      rcases List.mem_cons.1 listed with rfl | registered
      · exact id
      · split at registered
        · unfold emitRegistration at registered
          split at registered
          · cases registered
          · rw [named] at registered
            rw [List.mem_singleton.1 registered]
            exact id
        · cases registered

theorem terminalTopic_declared (completed : config.topicCompleted ≠ "")
    (failed : config.topicFailed ≠ "") : terminalTopic config benchmark ≠ "" := by
  unfold terminalTopic
  split
  · exact completed
  · exact failed

theorem handle_matched (declared : terminalTopic config benchmark ≠ "")
    (matched : toolReuseMatch env config answers command = some benchmark) (state : RunState) :
    handle env config answers command none state =
      if answers.acknowledges .terminal = true then
        ⟨reuseActs config answers command ++
          [terminalAct config answers benchmark, recordAct env benchmark], state, .ok benchmark⟩
      else ⟨reuseActs config answers command ++ [terminalAct config answers benchmark], state,
        .error (.raised "publish")⟩ := by
  have emitted : emitBenchmark config answers benchmark state = _ := emitBenchmark_eq declared state
  refine (bind_apply_ok (tryToolReuse_eq state)).trans ?_
  rw [matched]
  dsimp only
  cases acknowledged : answers.acknowledges .terminal with
  | false =>
    rw [acknowledged] at emitted
    rw [bind_apply_error emitted]
    rfl
  | true =>
    rw [acknowledged] at emitted
    rw [bind_apply_ok emitted]
    rfl

theorem toolReuseMatch_own (matched : toolReuseMatch env config answers command = some benchmark) :
    benchmark.correlationId = command.correlationId ∧ benchmark.reusedToolId ≠ "" := by
  unfold toolReuseMatch at matched
  split at matched
  · cases matched
  · split at matched
    · obtain ⟨verdict, -, built⟩ := Option.bind_eq_some_iff.1 matched
      unfold buildReuseBenchmark at built
      dsimp only at built
      split at built
      · cases built
      · split at built
        · cases built
        · next named =>
          cases built
          exact ⟨rfl, fun unnamed => named (.inr unnamed)⟩
    · cases matched

def attemptActs (env : GenerationEnv) (config : ConsumerConfig) (answers : RunAnswers)
    (command : ModelNodeGenerationRequest) : List Act :=
  reuseActs config answers command ++ (loopEnded env config answers command).did

theorem attemptActs_leaves : ∀ act ∈ attemptActs env config answers command, ¬ act.records := by
  intro act listed
  rcases List.mem_append.1 listed with early | later
  · exact reuseActs_leaves act early
  · exact quiet_leaves loopEnded_quiet act later

theorem terminalAct_leaves : ¬ (terminalAct config answers benchmark).records := id

theorem handle_generated {made : List Evaluation}
    (declared : terminalTopic config (runBenchmark env config answers command) ≠ "")
    (unmatched : toolReuseMatch env config answers command = none)
    (evaluated : madeBy env answers command = .ok made) :
    (handle env config answers command none answers.start).did =
        attemptActs env config answers command ++
          (if answers.acknowledges .terminal = true then
            terminalAct config answers (runBenchmark env config answers command) ::
              ((if (runBenchmark env config answers command).deploys = true then
                deployActs env config answers (runBenchmark env config answers command) else []) ++
                [recordAct env (runBenchmark env config answers command)])
          else [terminalAct config answers (runBenchmark env config answers command)]) ∧
      (handle env config answers command none answers.start).outcome =
        if answers.acknowledges .terminal = true then .ok (runBenchmark env config answers command)
        else .error (.raised "publish") := by
  rw [handle_unmatched unmatched, generate_eq evaluated, concludeRun_eq declared, attemptActs]
  dsimp only
  rw [List.append_assoc]
  split <;> exact ⟨rfl, rfl⟩

theorem accepted_deploys {made : List Evaluation}
    (evaluated : madeBy env answers command = .ok made) (declared : config.topicDeploy ≠ "")
    (accepted : (runBenchmark env config answers command).deploys = true) :
    (∃ payload, .publish config.topicDeploy (.deploy payload) (answers.acknowledges .deploy) ∈
        deployActs env config answers (runBenchmark env config answers command) ∧
      Carries payload (runBenchmark env config answers command).correlationId
        (runBenchmark env config answers command).contractYaml
        (runBenchmark env config answers command).handlerSource) ∧
    ∃ last, made.getLast? = some last ∧ last.success = true ∧
      (runBenchmark env config answers command).contractYaml = last.contractYaml ∧
      (runBenchmark env config answers command).handlerSource = last.handlerSource := by
  obtain ⟨last, ended⟩ := exists_last evaluated
  have verdict : (runBenchmark env config answers command).toVerdict = verdictOf made :=
    runBenchmark_verdict evaluated
  have success : last.success = true :=
    (deploys_iff evaluated ended).1 ((congrArg Verdict.deploys verdict).symm.trans accepted)
  rw [verdictOf, lastValid_of_success ended success] at verdict
  have contract : (runBenchmark env config answers command).contractYaml = last.contractYaml :=
    congrArg Verdict.contractYaml verdict
  obtain ⟨raw, own⟩ := mem_evaluations evaluated (List.mem_of_getLast? ended)
  obtain ⟨nodeName, named⟩ := extractNodeName_valid own (success_iff.1 success).1
  refine ⟨⟨deployPayload env (runBenchmark env config answers command) nodeName, ?_, rfl, rfl, rfl⟩,
    last, ended, success, contract, congrArg Verdict.handlerSource verdict⟩
  unfold deployActs
  rw [if_neg declared, contract, named]
  exact List.mem_cons_self

theorem handle_fresh (completed : config.topicCompleted ≠ "") (failed : config.topicFailed ≠ "") :
    (∃ before benchmark,
      (handle env config answers command none answers.start).did =
          before ++ [recordAct env benchmark] ∧
        (handle env config answers command none answers.start).outcome = .ok benchmark ∧
        Concluded env config answers command before benchmark) ∨
      (∀ act ∈ (handle env config answers command none answers.start).did, ¬ act.records) ∧
        (handle env config answers command none answers.start).outcome.toOption = none := by
  cases matched : toolReuseMatch env config answers command with
  | some benchmark =>
    have declared : terminalTopic config benchmark ≠ "" :=
      terminalTopic_declared completed failed
    obtain ⟨own, reused⟩ := toolReuseMatch_own matched
    rw [handle_matched declared matched]
    split
    · next published =>
      refine .inl ⟨reuseActs config answers command ++ [terminalAct config answers benchmark],
        benchmark, by simp, rfl, ?_, own, published, ?_, ?_⟩
      · intro act listed
        rcases List.mem_append.1 listed with early | last
        · exact reuseActs_leaves act early
        · rw [List.mem_singleton.1 last]
          exact id
      · rw [← published]
        exact List.mem_append_right _ (List.mem_singleton_self _)
      · exact fun accepted => absurd accepted.1 reused
    · refine .inr ⟨?_, rfl⟩
      intro act listed
      rcases List.mem_append.1 listed with early | last
      · exact reuseActs_leaves act early
      · rw [List.mem_singleton.1 last]
        exact id
  | none =>
    cases evaluated : madeBy env answers command with
    | error abort =>
      obtain ⟨did, outcome⟩ : _ ∧ (generate env config answers command answers.start).outcome =
        .error abort := generate_aborted evaluated
      rw [handle_unmatched matched, did, outcome]
      exact .inr ⟨attemptActs_leaves, rfl⟩
    | ok made =>
      obtain ⟨did, outcome⟩ := handle_generated (terminalTopic_declared completed failed) matched
        evaluated
      rw [did, outcome]
      split
      · next published =>
        refine .inl ⟨attemptActs env config answers command ++
          terminalAct config answers (runBenchmark env config answers command) ::
            if (runBenchmark env config answers command).deploys = true then
              deployActs env config answers (runBenchmark env config answers command)
            else [], _, by simp, rfl, ?_, rfl, published, ?_, ?_⟩
        · intro act listed
          rcases List.mem_append.1 listed with early | later
          · exact attemptActs_leaves act early
          · rcases List.mem_cons.1 later with rfl | deploying
            · exact terminalAct_leaves
            · split at deploying
              · exact deployActs_leaves act deploying
              · cases deploying
        · rw [← published]
          exact List.mem_append_right _ List.mem_cons_self
        · rintro ⟨-, accepted⟩ declared
          obtain ⟨⟨payload, sent, carries⟩, last, ended, success, contract, handler⟩ :=
            accepted_deploys evaluated declared accepted
          refine ⟨⟨payload, List.mem_append_right _ (List.mem_cons_of_mem _ ?_), carries⟩,
            matched, made, last, evaluated, ended, success, contract, handler⟩
          rw [if_pos accepted]
          exact sent
      · refine .inr ⟨?_, rfl⟩
        intro act listed
        rcases List.mem_append.1 listed with early | last
        · exact attemptActs_leaves act early
        · rw [List.mem_singleton.1 last]
          exact terminalAct_leaves

/-! ## A delivery -/

variable {delivery : GenerationDelivery}

theorem acts_cases (env : GenerationEnv) (config : ConsumerConfig) (world : World)
    (delivery : GenerationDelivery) :
    ((∀ done ∈ delivery.crash, (delivery.ended env config world).did.length ≤ done) ∧
        delivery.acts env config world = (delivery.ended env config world).did) ∨
      ∃ done, delivery.crash = some done ∧ done < (delivery.ended env config world).did.length ∧
        delivery.acts env config world = (delivery.ended env config world).did.take done := by
  unfold GenerationDelivery.acts
  cases delivery.crash with
  | none => exact .inl ⟨by simp, rfl⟩
  | some done =>
    rcases Nat.lt_or_ge done (delivery.ended env config world).did.length with early | late
    · exact .inr ⟨done, rfl, early, rfl⟩
    · exact .inl ⟨by simpa using late, List.take_of_length_le late⟩

theorem deliver_replayed (stored : world.replayed env delivery.command = some benchmark) :
    delivery.acts env config world = [] ∧
      (delivery.ended env config world).outcome = .ok benchmark := by
  have ended : delivery.ended env config world = ⟨[], delivery.answers.start, .ok benchmark⟩ := by
    unfold GenerationDelivery.ended
    rw [stored]
    rfl
  unfold GenerationDelivery.acts
  rw [ended]
  refine ⟨?_, rfl⟩
  cases delivery.crash with
  | none => rfl
  | some done => exact List.take_nil

theorem returned_outcome
    (returned : (deliver env config world delivery).2.returned = some benchmark) :
    delivery.crash = none ∧ (delivery.ended env config world).outcome = .ok benchmark := by
  unfold deliver at returned
  dsimp only at returned
  cases crash : delivery.crash with
  | some done =>
    rw [crash] at returned
    cases returned
  | none =>
    rw [crash] at returned
    refine ⟨rfl, ?_⟩
    dsimp only at returned
    cases outcome : (delivery.ended env config world).outcome with
    | error abort =>
      rw [outcome] at returned
      cases returned
    | ok value =>
      rw [outcome] at returned
      exact congrArg Except.ok (Option.some.inj returned)

def Marked (config : ConsumerConfig) (world : World) : Prop :=
  ∀ path benchmark, world.markers.get? path = some benchmark → Settled config world benchmark

theorem settled_of_concluded {before : List Act}
    (fresh : world.replayed env delivery.command = none)
    (finished : ∀ done ∈ delivery.crash, (delivery.ended env config world).did.length ≤ done)
    (kept : ¬ DropsDeploy env config world delivery)
    (concluded : Concluded env config delivery.answers delivery.command before benchmark) :
    Settled config (before.foldl World.apply world) benchmark := by
  refine ⟨⟨_, acknowledged_of_publish concluded.terminal⟩, ?_⟩
  intro accepted declared
  obtain ⟨⟨payload, sent, carries⟩, unmatched, made, last, evaluated, ended, success, contract,
    handler⟩ := concluded.deploy accepted declared
  cases acknowledged : delivery.answers.acknowledges .deploy with
  | true =>
    rw [acknowledged] at sent
    exact ⟨payload, acknowledged_of_publish sent, carries⟩
  | false =>
    -- an equal command was acknowledged before
    by_contra unsent
    refine kept ⟨fresh, unmatched, concluded.published, declared, acknowledged,
      ⟨made, last, evaluated, ended, success, ?_⟩, finished⟩
    intro payload held carries
    refine unsent ⟨payload, acknowledged_mono world before _ held, ?_⟩
    rw [concluded.own, contract, handler]
    exact carries

theorem ended_fresh (completed : config.topicCompleted ≠ "") (failed : config.topicFailed ≠ "")
    (fresh : world.replayed env delivery.command = none) : (∃ before benchmark,
      (delivery.ended env config world).did = before ++ [recordAct env benchmark] ∧
        (delivery.ended env config world).outcome = .ok benchmark ∧
        Concluded env config delivery.answers delivery.command before benchmark) ∨
      (∀ act ∈ (delivery.ended env config world).did, ¬ act.records) ∧
        (delivery.ended env config world).outcome.toOption = none := by
  unfold GenerationDelivery.ended
  rw [fresh]
  exact handle_fresh completed failed

theorem deliver_unrecorded (marked : Marked config world)
    (leaves : ∀ act ∈ delivery.acts env config world, ¬ act.records) :
    Marked config (deliver env config world delivery).1 := by
  intro path benchmark held
  have before : world.markers.get? path = some benchmark :=
    (congrArg (OrderedDict.get? · path) (markers_fold leaves)).symm.trans held
  exact (marked path benchmark before).mono (acknowledged_mono world _)

theorem deliver_recorded {before : List Act} (marked : Marked config world)
    (fresh : world.replayed env delivery.command = none)
    (finished : ∀ done ∈ delivery.crash, (delivery.ended env config world).did.length ≤ done)
    (all : delivery.acts env config world = before ++ [recordAct env benchmark])
    (kept : ¬ DropsDeploy env config world delivery)
    (concluded : Concluded env config delivery.answers delivery.command before benchmark) :
    Marked config (deliver env config world delivery).1 ∧
      Settled config (deliver env config world delivery).1 benchmark ∧
      (deliver env config world delivery).1.replayed env delivery.command = some benchmark := by
  have after : (deliver env config world delivery).1 =
      (before.foldl World.apply world).apply (recordAct env benchmark) := by
    unfold deliver
    rw [all]
    exact List.foldl_concat ..
  have settled : Settled config (deliver env config world delivery).1 benchmark := by
    rw [after]
    exact (settled_of_concluded fresh finished kept concluded).mono (acknowledged_apply _ _)
  have markers : (deliver env config world delivery).1.markers =
      world.markers.set (replayStatePath env delivery.command.correlationId) benchmark := by
    rw [after, ← concluded.own]
    exact congrArg (OrderedDict.set · (replayStatePath env benchmark.correlationId) benchmark)
      (markers_fold concluded.leaves)
  refine ⟨?_, settled, ?_⟩
  · intro path other held
    rw [markers] at held
    by_cases own : path = replayStatePath env delivery.command.correlationId
    · rw [own, OrderedDict.get?_set_self] at held
      exact Option.some.inj held ▸ settled
    · rw [OrderedDict.get?_set_other own] at held
      exact (marked path other held).mono (acknowledged_mono world _)
  · rw [World.replayed, markers, OrderedDict.get?_set_self]

theorem deliver_keeps (completed : config.topicCompleted ≠ "") (failed : config.topicFailed ≠ "")
    (marked : Marked config world) (kept : ¬ DropsDeploy env config world delivery) :
    Marked config (deliver env config world delivery).1 ∧
      ∀ benchmark, (deliver env config world delivery).2.returned = some benchmark →
        Settled config (deliver env config world delivery).1 benchmark ∧
          (deliver env config world delivery).1.replayed env delivery.command ≠ none := by
  cases stored : world.replayed env delivery.command with
  | some marker =>
    obtain ⟨idle, outcome⟩ : _ ∧ (delivery.ended env config world).outcome = .ok marker :=
      deliver_replayed stored
    have same : (deliver env config world delivery).1 = world := by
      unfold deliver
      rw [idle]
      rfl
    rw [same]
    refine ⟨marked, ?_⟩
    intro benchmark returned
    obtain ⟨rfl⟩ := Except.ok.inj (outcome.symm.trans (returned_outcome returned).2)
    exact ⟨marked _ _ stored, stored ▸ Option.some_ne_none _⟩
  | none =>
    rcases ended_fresh completed failed stored with
      ⟨before, marker, did, outcome, concluded⟩ | ⟨leaves, outcome⟩
    · rcases acts_cases env config world delivery with ⟨finished, all⟩ | ⟨done, crash, early, cut⟩
      · obtain ⟨next, settled, held⟩ :=
          deliver_recorded marked stored finished (all.trans did) kept concluded
        refine ⟨next, ?_⟩
        intro benchmark returned
        obtain ⟨rfl⟩ := Except.ok.inj (outcome.symm.trans (returned_outcome returned).2)
        exact ⟨settled, held ▸ Option.some_ne_none _⟩
      · refine ⟨deliver_unrecorded marked ?_, ?_⟩
        · intro act listed
          rw [did, List.length_append, List.length_singleton] at early
          rw [cut, did, List.take_append_of_le_length (Nat.le_of_lt_succ early)] at listed
          exact concluded.leaves act (List.mem_of_mem_take listed)
        · intro benchmark returned
          rw [(returned_outcome returned).1] at crash
          cases crash
    · refine ⟨deliver_unrecorded marked ?_, ?_⟩
      · intro act listed
        rcases acts_cases env config world delivery with ⟨-, all⟩ | ⟨done, -, -, cut⟩
        · exact leaves act (all ▸ listed)
        · rw [cut] at listed
          exact leaves act (List.mem_of_mem_take listed)
      · intro benchmark returned
        rw [(returned_outcome returned).2] at outcome
        cases outcome

theorem deliver_replayed_mono (command : ModelNodeGenerationRequest)
    (held : world.replayed env command ≠ none) :
    (deliver env config world delivery).1.replayed env command ≠ none := by
  have grows (acts : List Act) (world : World) (held : world.replayed env command ≠ none) :
      (acts.foldl World.apply world).replayed env command ≠ none := by
    induction acts generalizing world with
    | nil => exact held
    | cons act rest ih =>
      refine ih _ ?_
      cases act with
      | callLlm attempt => exact held
      | publish topic message acknowledged => cases acknowledged <;> exact held
      | recordReplay path benchmark =>
        rw [World.replayed, World.apply]
        by_cases own : replayStatePath env command.correlationId = path
        · rw [own, OrderedDict.get?_set_self]
          exact Option.some_ne_none _
        · rw [OrderedDict.get?_set_other own]
          exact held
  exact grows _ world held

theorem replayed_later {deliveries : List GenerationDelivery}
    (held : world.replayed env command ≠ none) :
    ∀ t ∈ run (deliver env config) world deliveries, t.before.replayed env command ≠ none := by
  induction deliveries generalizing world with
  | nil =>
    intro t taken
    cases taken
  | cons delivery rest ih =>
    intro t taken
    rcases List.mem_cons.1 taken with rfl | later
    · exact held
    · exact ih (deliver_replayed_mono command held) t later

/-- In a run that drops no deploy command of an accepted artifact, what is returned is settled and a
later delivery of its id does nothing. -/
theorem loses_and_repeats_nothing (completed : config.topicCompleted ≠ "")
    (failed : config.topicFailed ≠ "") (deliveries : List GenerationDelivery)
    (kept : ∀ t ∈ run (deliver env config) {} deliveries,
      ¬ DropsDeploy env config t.before t.event) :
    LosesAndRepeatsNothing env config deliveries := by
  have start : Marked config {} := by
    intro path benchmark held
    cases held
  have preserved : ∀ t ∈ run (deliver env config) {} deliveries,
      Marked config t.before → Marked config t.after := by
    intro t taken marked
    have after : (deliver env config t.before t.event).1 = t.after :=
      congrArg Prod.fst (run_steps taken)
    rw [← after]
    exact (deliver_keeps completed failed marked (kept t taken)).1
  have throughout := (run_invariant start preserved).2
  intro earlier t later split benchmark returned
  have taken : t ∈ run (deliver env config) {} deliveries := by
    rw [split]
    exact List.mem_append_right _ List.mem_cons_self
  have stepped := run_steps taken
  have after : (deliver env config t.before t.event).1 = t.after := congrArg Prod.fst stepped
  have output : (deliver env config t.before t.event).2 = t.output := congrArg Prod.snd stepped
  rw [← output] at returned
  obtain ⟨settled, held⟩ :=
    (deliver_keeps completed failed (throughout t taken) (kept t taken)).2 benchmark returned
  rw [after] at settled held
  refine ⟨settled, ?_⟩
  intro u redelivered same
  obtain ⟨rest, suffix, -⟩ := run_suffix split
  rw [suffix] at redelivered
  have replayed : u.before.replayed env t.event.command ≠ none := replayed_later held u redelivered
  rw [World.replayed, ← same, ← World.replayed] at replayed
  obtain ⟨marker, stored⟩ := Option.ne_none_iff_exists'.1 replayed
  have acts : (deliver env config u.before u.event).2 = u.output :=
    congrArg Prod.snd (run_steps redelivered)
  intro act listed
  rw [← acts] at listed
  have idle : u.event.acts env config u.before = [] := (deliver_replayed stored).1
  have none_done : (deliver env config u.before u.event).2.acts = [] := idle
  rw [none_done] at listed
  cases listed

/-! ## Sample runs -/

def sampleDelivery (crash : Option ℕ) : GenerationDelivery where
  command := sampleCommand sampleCorpus
  answers := sampleAnswers
  crash

/-- A crash between two acts, a delivery that gets to its end, and one that finds its marker. -/
theorem crashed_command_settles : LosesAndRepeatsNothing sampleEnv sampleConfig
    [sampleDelivery (some 3), sampleDelivery none, sampleDelivery none] := by
  obtain ⟨completed, failed, -⟩ := sample_topics
  refine loses_and_repeats_nothing completed failed _ ?_
  intro t taken dropped
  have listed := mem_events taken
  have event : t.event = sampleDelivery (some 3) ∨ t.event = sampleDelivery none := by
    simpa using listed
  have lost := dropped.lost
  rcases event with same | same
  · rw [same] at lost
    cases lost
  · rw [same] at lost
    cases lost

/-- The broker takes everything but the deploy command. -/
def lostDeploy : GenerationDelivery where
  command := sampleCommand sampleCorpus
  answers := { sampleAnswers with
    acknowledges := fun
      | .deploy => false
      | _ => true }

def isDeploy : String × Message → Bool
  | (_, .deploy _) => true
  | _ => false

theorem lostDeploy_acknowledged :
    (deliver sampleEnv sampleConfig {} lostDeploy).2.returned.any (fun benchmark =>
      benchmark.reusedToolId = "" && benchmark.deploys) = true ∧
      (deliver sampleEnv sampleConfig {} lostDeploy).1.acknowledged.all
        (fun message => !isDeploy message) = true := by
  decide +kernel

/-- `handle` returns and has written its marker, and the accepted scanner is never deployed. -/
theorem lost_deploy_is_final : ¬ LosesAndRepeatsNothing sampleEnv sampleConfig [lostDeploy] := by
  intro settles
  obtain ⟨returned, sent⟩ := lostDeploy_acknowledged
  obtain ⟨benchmark, held, accepted⟩ := (Option.any_eq_true _ _).1 returned
  rw [Bool.and_eq_true, decide_eq_true_iff] at accepted
  obtain ⟨settled, -⟩ := settles [] _ [] rfl benchmark held
  obtain ⟨payload, deployed, -⟩ := settled.deployed accepted sample_topics.2.2
  have none_sent := List.all_eq_true.1 sent _ deployed
  cases none_sent

end OmniMarket.GenerationConsumer
