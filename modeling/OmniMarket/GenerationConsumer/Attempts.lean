import OmniMarket.GenerationConsumer.Consumer

/-!
# The attempts of a run

A run evaluates one artifact after the other until one is a success. Only the last evaluation can
be a success, and the variables of the run hold the verdict of the last valid one.
-/

namespace OmniMarket.GenerationConsumer

open Acting
variable {evaluation : Evaluation}

/-! ## The evaluations -/

section

variable (env : GenerationEnv) (config : ConsumerConfig) (answers : RunAnswers)
  (command : ModelNodeGenerationRequest)

/-- The artifacts of a run in order, up to the first success. -/
def evaluations : ℕ → ℕ → Except Abort (List Evaluation)
  | 0, _ => .ok []
  | left + 1, attempt => do
      let evaluation ← evaluateAttempt env command (answers.answer attempt).text
      if evaluation.success then return [evaluation]
      else return evaluation :: (← evaluations left (attempt + 1))

def madeBy : Except Abort (List Evaluation) := evaluations env answers command command.maxAttempts 1

/-- The last artifact that passes validation. -/
def lastValid (made : List Evaluation) : Option Evaluation :=
  (made.filter Evaluation.valid).getLast?

end

def Verdict.next (verdict : Verdict) (evaluation : Evaluation) : Verdict :=
  if evaluation.valid then evaluation.verdict else verdict

def verdictOf (made : List Evaluation) : Verdict := ((lastValid made).map (·.verdict)).getD {}

variable {env : GenerationEnv} {config : ConsumerConfig} {answers : RunAnswers}
  {command : ModelNodeGenerationRequest} {left attempt : ℕ} {made : List Evaluation}

theorem foldl_next (made : List Evaluation) : made.foldl Verdict.next {} = verdictOf made := by
  induction made using List.reverseRecOn with
  | nil => rfl
  | append_singleton before evaluation ih =>
    rw [List.foldl_append, List.foldl_cons, List.foldl_nil, ih, Verdict.next]
    split
    · next valid => simp [verdictOf, lastValid, valid]
    · next invalid => simp [verdictOf, lastValid, invalid]

theorem evaluations_ok (evaluated : evaluations env answers command (left + 1) attempt = .ok made) :
    ∃ evaluation, evaluateAttempt env command (answers.answer attempt).text = .ok evaluation ∧
      (evaluation.success = true ∧ made = [evaluation] ∨
        evaluation.success = false ∧ ∃ rest,
          evaluations env answers command left (attempt + 1) = .ok rest ∧
            made = evaluation :: rest) := by
  obtain ⟨evaluation, first, evaluated⟩ := Raising.bind_eq_ok.1 evaluated
  refine ⟨evaluation, first, ?_⟩
  split at evaluated
  · next success =>
    cases evaluated
    exact .inl ⟨success, rfl⟩
  · next failure =>
    obtain ⟨rest, later, evaluated⟩ := Raising.bind_eq_ok.1 evaluated
    cases evaluated
    exact .inr ⟨Bool.eq_false_iff.2 failure, rest, later, rfl⟩

theorem failed_before_last (evaluated : evaluations env answers command left attempt = .ok made) :
    ∀ evaluation ∈ made.dropLast, evaluation.success = false := by
  induction left generalizing attempt made with
  | zero =>
    cases evaluated
    simp
  | succ left ih =>
    obtain ⟨first, -, ⟨-, rfl⟩ | ⟨failure, rest, later, rfl⟩⟩ := evaluations_ok evaluated
    · simp
    · cases rest with
      | nil => simp
      | cons second rest =>
        rw [List.dropLast_cons_cons, List.forall_mem_cons]
        exact ⟨failure, ih later⟩

theorem success_last (evaluated : evaluations env answers command left attempt = .ok made)
    (listed : evaluation ∈ made) (success : evaluation.success = true) :
    made.getLast? = some evaluation := by
  obtain ⟨before, after, rfl⟩ := List.append_of_mem listed
  cases after with
  | nil => exact List.getLast?_concat
  | cons next after =>
    have early : evaluation ∈ (before ++ evaluation :: next :: after).dropLast := by
      rw [List.dropLast_append_of_ne_nil (List.cons_ne_nil _ _), List.dropLast_cons_cons]
      exact List.mem_append_right _ List.mem_cons_self
    have failure := failed_before_last evaluated evaluation early
    rw [success] at failure
    cases failure

theorem made_ne_nil (evaluated : evaluations env answers command (left + 1) attempt = .ok made) :
    made ≠ [] := by
  obtain ⟨first, -, ⟨-, rfl⟩ | ⟨-, rest, -, rfl⟩⟩ := evaluations_ok evaluated <;>
    exact List.cons_ne_nil _ _

theorem exists_last (evaluated : madeBy env answers command = .ok made) :
    ∃ last, made.getLast? = some last := by
  obtain ⟨left, more⟩ := Nat.exists_eq_succ_of_ne_zero command.attempts_pos.ne'
  rw [madeBy, more] at evaluated
  exact ⟨_, List.getLast?_eq_some_getLast (made_ne_nil evaluated)⟩

/-! ## The verdict -/

theorem success_iff : evaluation.success = true ↔
    evaluation.valid = true ∧ evaluation.semanticFailed = false ∧
      evaluation.corpusFailed = false := by
  simp [Evaluation.success, and_assoc]

theorem verdict_deploys (evaluation : Evaluation) (valid : evaluation.valid = true) :
    evaluation.verdict.deploys = evaluation.success := by
  simp [Verdict.deploys, Evaluation.success, valid, Verdict.semanticBlocksDeploy,
    Verdict.corpusBlocksDeploy, Evaluation.verdict, Evaluation.semanticFailed,
    Evaluation.corpusFailed]

theorem lastValid_of_success {last : Evaluation} (ended : made.getLast? = some last)
    (success : last.success = true) : lastValid made = some last := by
  obtain ⟨before, rfl⟩ := List.getLast?_eq_some_iff.1 ended
  simp [lastValid, (success_iff.1 success).1]

theorem deploys_iff (evaluated : madeBy env answers command = .ok made) {last : Evaluation}
    (ended : made.getLast? = some last) :
    (verdictOf made).deploys = true ↔ last.success = true := by
  constructor
  · intro deploys
    rw [verdictOf] at deploys
    cases found : lastValid made with
    | none =>
      rw [found] at deploys
      cases deploys
    | some chosen =>
      rw [found] at deploys
      have kept := List.mem_of_getLast? found
      obtain ⟨listed, valid⟩ := List.mem_filter.1 kept
      have success : chosen.success = true := (verdict_deploys chosen valid).symm.trans deploys
      obtain ⟨rfl⟩ := Option.some.inj (ended.symm.trans (success_last evaluated listed success))
      exact success
  · intro success
    rw [verdictOf, lastValid_of_success ended success]
    exact (verdict_deploys last (success_iff.1 success).1).trans success

/-! ## The loop -/

/-- The entries of the log that a run concludes with. -/
def conclusion : Act → Option Act
  | .callLlm _ => none
  | .publish _ (.escalation _) _ => none
  | .publish _ (.toolReuseRequest _) _ => none
  | act => some act

theorem escalate_quiet (failureErrors : List String) :
    Shows conclusion (escalate config answers command attempt failureErrors) [] (.ok ()) := by
  unfold escalate
  split
  · have emitted : Shows conclusion
        (emitEscalation config answers command attempt failureErrors) [] (.ok ()) := by
      unfold emitEscalation
      split
      · exact Shows.pure ()
      · refine Shows.note fun _ => ?_
        cases buildEscalationEvent config answers command attempt failureErrors <;> rfl
    exact Shows.bind_quiet emitted (Shows.update _)
  · exact Shows.pure ()

theorem escalate_verdict (failureErrors : List String) :
    Keeps RunState.verdict (escalate config answers command attempt failureErrors) := by
  unfold escalate
  split
  · refine Keeps.bind ?_ fun _ => Keeps.update fun _ => rfl
    unfold emitEscalation
    split
    · exact Keeps.pure ()
    · exact Keeps.note _
  · exact Keeps.pure ()

theorem attemptOnce_shows : Shows conclusion (attemptOnce env config answers command attempt) []
      ((evaluateAttempt env command (answers.answer attempt).text).map Evaluation.success) := by
  unfold attemptOnce
  refine Shows.bind_quiet (Shows.note fun _ => rfl) ?_
  cases evaluated : evaluateAttempt env command (answers.answer attempt).text with
  | error abort => exact Shows.bind_error (Shows.answer _)
  | ok evaluation =>
    refine Shows.bind_quiet (Shows.answer _) ?_
    refine Shows.bind_quiet (Shows.update _) ?_
    show Shows conclusion (if evaluation.success = true then _ else _) _ (.ok evaluation.success)
    split
    · next success =>
      rw [success]
      exact Shows.pure true
    · next failure =>
      rw [Bool.eq_false_iff.2 failure]
      exact Shows.bind_quiet (escalate_quiet evaluation.errors) (Shows.pure false)

theorem attemptOnce_verdict
    (evaluated : evaluateAttempt env command (answers.answer attempt).text = .ok evaluation)
    (state : RunState) :
    (attemptOnce env config answers command attempt state).left.verdict =
      state.verdict.next evaluation := by
  unfold attemptOnce
  rw [evaluated]
  rw [left_bind_ok rfl, left_bind_ok rfl, left_bind_ok rfl]
  split
  · rfl
  · exact Keeps.bind (escalate_verdict evaluation.errors) (fun _ => Keeps.pure false) _

theorem attemptLoop_shows (left attempt : ℕ) :
    Shows conclusion (attemptLoop env config answers command left attempt) []
      ((evaluations env answers command left attempt).map fun _ => ()) := by
  induction left generalizing attempt with
  | zero => exact Shows.pure ()
  | succ left ih =>
    unfold attemptLoop evaluations
    have once : Shows conclusion (attemptOnce env config answers command attempt) [] _ :=
      attemptOnce_shows
    cases evaluated : evaluateAttempt env command (answers.answer attempt).text with
    | error abort =>
      rw [evaluated] at once
      exact Shows.bind_error once
    | ok evaluation =>
      rw [evaluated] at once
      refine Shows.bind_quiet once ?_
      rw [Raising.bind_ok]
      split
      · exact Shows.pure ()
      · have later : Shows conclusion
          (attemptLoop env config answers command left (attempt + 1)) [] _ := ih (attempt + 1)
        cases rest : evaluations env answers command left (attempt + 1) with
        | error abort =>
          rw [rest] at later
          exact later
        | ok made =>
          rw [rest] at later
          exact later

theorem attemptLoop_verdict (evaluated : evaluations env answers command left attempt = .ok made)
    (state : RunState) :
    (attemptLoop env config answers command left attempt state).left.verdict =
      made.foldl Verdict.next state.verdict := by
  induction left generalizing attempt made state with
  | zero =>
    cases evaluated
    rfl
  | succ left ih =>
    obtain ⟨first, evaluatedFirst, rest⟩ := evaluations_ok evaluated
    have once : (attemptOnce env config answers command attempt state).left.verdict = _ :=
      attemptOnce_verdict evaluatedFirst state
    have ended : (attemptOnce env config answers command attempt state).outcome = _ :=
      attemptOnce_shows.yields state
    rw [evaluatedFirst] at ended
    unfold attemptLoop
    rw [left_bind_ok ended]
    rcases rest with ⟨success, rfl⟩ | ⟨failure, rest, later, rfl⟩
    · rw [if_pos success]
      exact once
    · rw [if_neg (by simp [failure]), ih later, once]
      rfl

/-! ## The conclusion -/

section

variable (env : GenerationEnv) (config : ConsumerConfig) (answers : RunAnswers)
  (benchmark : ModelGenerationBenchmark)

def terminalAct : Act :=
  .publish (terminalTopic config benchmark) (.terminal benchmark) (answers.acknowledges .terminal)

def recordAct : Act := .recordReplay (replayStatePath env benchmark.correlationId) benchmark

/-- What `deployBenchmark` does. -/
def deployActs : List Act :=
  if config.topicDeploy = "" then []
  else
    match extractNodeName env benchmark.contractYaml with
    | .error _ => []
    | .ok nodeName =>
      .publish config.topicDeploy (.deploy (deployPayload env benchmark nodeName))
          (answers.acknowledges .deploy) ::
        if answers.acknowledges .deploy then
          (emitRegistration env config answers benchmark ⟨answers.startingRoute, [], {}⟩).did
        else []

end

variable {benchmark : ModelGenerationBenchmark}

theorem emitRegistration_eq (state : RunState) :
    emitRegistration env config answers benchmark state =
      ⟨(emitRegistration env config answers benchmark ⟨answers.startingRoute, [], {}⟩).did, state,
        .ok ()⟩ := by
  unfold emitRegistration
  split
  · rfl
  · cases extractNodeName env benchmark.contractYaml <;> rfl

theorem emitDeploy_eq {nodeName : String} (declared : config.topicDeploy ≠ "")
    (named : extractNodeName env benchmark.contractYaml = .ok nodeName) (state : RunState) :
    emitDeploy env config answers benchmark state =
      ⟨[.publish config.topicDeploy (.deploy (deployPayload env benchmark nodeName))
          (answers.acknowledges .deploy)], state, .ok (answers.acknowledges .deploy)⟩ := by
  unfold emitDeploy
  rw [if_neg declared, named]
  rfl

theorem deployBenchmark_eq (state : RunState) :
    deployBenchmark env config answers benchmark state =
      ⟨deployActs env config answers benchmark, state, .ok ()⟩ := by
  unfold deployActs
  split
  · next undeclared =>
    unfold deployBenchmark emitDeploy
    rw [if_pos undeclared]
    rfl
  · next declared =>
    cases named : extractNodeName env benchmark.contractYaml with
    | error abort =>
      unfold deployBenchmark emitDeploy
      rw [if_neg declared, named]
      rfl
    | ok nodeName =>
      refine (bind_apply_ok (emitDeploy_eq declared named state)).trans ?_
      cases answers.acknowledges .deploy with
      | false => rfl
      | true =>
        rw [if_pos rfl, emitRegistration_eq]
        rfl

theorem emitBenchmark_eq (declared : terminalTopic config benchmark ≠ "") (state : RunState) :
    emitBenchmark config answers benchmark state = ⟨[terminalAct config answers benchmark], state,
      if answers.acknowledges .terminal then .ok () else .error (.raised "publish")⟩ := by
  unfold emitBenchmark
  rw [if_neg declared]
  rfl

theorem concludeRun_eq (declared : terminalTopic config benchmark ≠ "") (state : RunState) :
    concludeRun env config answers benchmark state =
      if answers.acknowledges .terminal = true then
        ⟨terminalAct config answers benchmark ::
          ((if benchmark.deploys = true then deployActs env config answers benchmark else []) ++
            [recordAct env benchmark]), state, .ok benchmark⟩
      else ⟨[terminalAct config answers benchmark], state, .error (.raised "publish")⟩ := by
  have emitted : emitBenchmark config answers benchmark state = _ := emitBenchmark_eq declared state
  unfold concludeRun
  cases acknowledged : answers.acknowledges .terminal with
  | false =>
    rw [acknowledged] at emitted
    exact bind_apply_error emitted
  | true =>
    rw [acknowledged] at emitted
    rw [bind_apply_ok emitted, if_pos rfl]
    cases benchmark.deploys with
    | false => rfl
    | true =>
      rw [if_pos rfl, if_pos rfl, bind_apply_ok (deployBenchmark_eq state)]
      rfl

/-- The variables at the first attempt. -/
def RunAnswers.start (answers : RunAnswers) : RunState := { activeRoute := answers.startingRoute }

section

variable (env : GenerationEnv) (config : ConsumerConfig) (answers : RunAnswers)
  (command : ModelNodeGenerationRequest)

def loopEnded : Ended RunState Act Abort Unit :=
  attemptLoop env config answers command command.maxAttempts 1 answers.start

def runBenchmark : ModelGenerationBenchmark :=
  buildBenchmark env config answers command (loopEnded env config answers command).left

end

theorem loopEnded_quiet : (loopEnded env config answers command).did.filterMap conclusion = [] :=
  (attemptLoop_shows _ _).logs _

theorem runBenchmark_verdict (evaluated : madeBy env answers command = .ok made) :
    (runBenchmark env config answers command).toVerdict = verdictOf made := by
  rw [← foldl_next]
  exact attemptLoop_verdict evaluated answers.start

theorem generate_eq (evaluated : madeBy env answers command = .ok made) :
    generate env config answers command answers.start =
      ⟨(loopEnded env config answers command).did ++
          (concludeRun env config answers (runBenchmark env config answers command)
            (loopEnded env config answers command).left).did,
        (concludeRun env config answers (runBenchmark env config answers command)
          (loopEnded env config answers command).left).left,
        (concludeRun env config answers (runBenchmark env config answers command)
          (loopEnded env config answers command).left).outcome⟩ := by
  have ended : (loopEnded env config answers command).outcome = _ :=
    (attemptLoop_shows command.maxAttempts 1).yields answers.start
  rw [← madeBy, evaluated] at ended
  exact (bind_apply _ _ _).trans (andThen_ok ended)

theorem generate_aborted {abort : Abort} (evaluated : madeBy env answers command = .error abort) :
    (generate env config answers command answers.start).did =
        (loopEnded env config answers command).did ∧
      (generate env config answers command answers.start).outcome = .error abort := by
  have ended : (loopEnded env config answers command).outcome = _ :=
    (attemptLoop_shows command.maxAttempts 1).yields answers.start
  rw [← madeBy, evaluated] at ended
  have stopped : generate env config answers command answers.start = _ := andThen_error ended
  rw [stopped]
  exact ⟨rfl, rfl⟩

/-! ## The handler -/

section

variable (env : GenerationEnv) (config : ConsumerConfig) (answers : RunAnswers)
  (command : ModelNodeGenerationRequest)

def reuseActs : List Act :=
  if config.topicToolReuseRequest = "" ∨ config.topicToolReuseMatched = "" then []
  else [.publish config.topicToolReuseRequest (.toolReuseRequest command.taskDescription)
    (answers.acknowledges .toolReuseRequest)]

def toolReuseMatch : Option ModelGenerationBenchmark :=
  if config.topicToolReuseRequest = "" ∨ config.topicToolReuseMatched = "" then none
  else if answers.acknowledges .toolReuseRequest then
    answers.toolReuseVerdict.bind (buildReuseBenchmark env command)
  else none

end

theorem tryToolReuse_eq (state : RunState) :
    tryToolReuseShortCircuit env config answers command state =
      ⟨reuseActs config answers command, state, .ok (toolReuseMatch env config answers command)⟩ := by
  unfold tryToolReuseShortCircuit reuseActs toolReuseMatch
  split
  · rfl
  · refine (bind_apply_ok (note_apply _ state)).trans ?_
    split <;> rfl

theorem handle_unmatched (unmatched : toolReuseMatch env config answers command = none)
    (state : RunState) : handle env config answers command none state =
      ⟨reuseActs config answers command ++ (generate env config answers command state).did,
        (generate env config answers command state).left,
        (generate env config answers command state).outcome⟩ := by
  refine (bind_apply_ok (tryToolReuse_eq state)).trans ?_
  rw [unmatched]

end OmniMarket.GenerationConsumer
