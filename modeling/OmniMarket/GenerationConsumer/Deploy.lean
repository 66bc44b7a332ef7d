import OmniMarket.GenerationConsumer.Attempts

/-!
# What a generation run deploys

A run publishes one terminal and deploys the artifact of its last attempt when that was a success.
A corpus without fixtures is not checked, though its presence takes the path check away.
-/

namespace OmniMarket.GenerationConsumer

open Acting
variable {raw : String} {corpus : ModelValidatorCorpus}

/-! ## What is published -/

def terminals (acts : List Act) : List ModelGenerationBenchmark :=
  acts.filterMap fun
    | .publish _ (.terminal benchmark) _ => some benchmark
    | _ => none

def deploys (acts : List Act) : List ModelNodeDeploy :=
  acts.filterMap fun
    | .publish _ (.deploy payload) _ => some payload
    | _ => none

section

variable (env : GenerationEnv) (config : ConsumerConfig) (answers : RunAnswers)
  (command : ModelNodeGenerationRequest)

def CorpusAccepts (handlerSource : String) : Prop :=
  ∃ result, evaluateCorpusAcceptance env handlerSource command.validatorCorpus = .ok result ∧
    result.passed = true

def DeploysOnlyAccepted (acts : List Act) : Prop :=
  ∃ benchmark, terminals acts = [benchmark] ∧
    ∀ made last, madeBy env answers command = .ok made → made.getLast? = some last →
      benchmark.toVerdict = verdictOf made ∧
      (deploys acts ≠ [] ↔
        last.valid = true ∧ last.semanticFailed = false ∧ last.corpusFailed = false) ∧
      (∀ deploy ∈ deploys acts, deploy.contractYaml = last.contractYaml ∧
        deploy.handlerSource = last.handlerSource) ∧
      (command.validatorCorpus ≠ none → ∀ deploy ∈ deploys acts,
        benchmark.corpusPassed = true ∧ CorpusAccepts env command deploy.handlerSource)

/-- Every attempt is evaluated to its end, and with an empty corpus none is a success. -/
def DecidedByCorpus : Prop :=
  ∃ made, madeBy env answers command = .ok made ∧
    ∀ corpus ∈ command.validatorCorpus, corpus.isEmpty = true →
      ∀ evaluation ∈ made, evaluation.success = false

end

variable {env : GenerationEnv} {config : ConsumerConfig} {answers : RunAnswers}
  {command : ModelNodeGenerationRequest} {made : List Evaluation} {evaluation last : Evaluation}

/-! ## An evaluation -/

theorem mem_evaluations {left attempt : ℕ}
    (evaluated : evaluations env answers command left attempt = .ok made)
    (listed : evaluation ∈ made) : ∃ raw, evaluateAttempt env command raw = .ok evaluation := by
  induction left generalizing attempt made with
  | zero =>
    cases evaluated
    cases listed
  | succ left ih =>
    obtain ⟨first, own, ⟨-, rfl⟩ | ⟨-, rest, later, rfl⟩⟩ := evaluations_ok evaluated
    · rw [List.mem_singleton.1 listed]
      exact ⟨_, own⟩
    · rcases List.mem_cons.1 listed with rfl | inRest
      · exact ⟨_, own⟩
      · exact ih later inRest

/-- What `_validate_generation` and the checks said of an artifact. -/
theorem evaluateAttempt_ok (evaluated : evaluateAttempt env command raw = .ok evaluation) :
    validateGeneration env evaluation.contractYaml evaluation.handlerSource
        command.validatorCorpus.isSome = .ok evaluation.validation ∧
      (evaluation.valid = true → evaluateCorpusAcceptance env evaluation.handlerSource
        command.validatorCorpus = .ok evaluation.corpus) := by
  unfold evaluateAttempt at evaluated
  dsimp only at evaluated
  obtain ⟨validation, validated, evaluated⟩ := Raising.bind_eq_ok.1 evaluated
  obtain ⟨semantic, -, evaluated⟩ := Raising.bind_eq_ok.1 evaluated
  obtain ⟨corpus, judged, evaluated⟩ := Raising.bind_eq_ok.1 evaluated
  cases evaluated
  refine ⟨validated, ?_⟩
  intro valid
  have own : validation.valid = true := valid
  rwa [if_pos own] at judged

theorem contract_loads {contractYaml handlerSource : String} {validator : Bool}
    {validation : Validation}
    (validated : validateGeneration env contractYaml handlerSource validator = .ok validation)
    (valid : validation.valid = true) : ∃ data, env.safeLoad contractYaml = .value (.dict data) := by
  unfold validateGeneration at validated
  obtain ⟨⟨schemaErrors, schemaOk⟩, checked, validated⟩ := Raising.bind_eq_ok.1 validated
  obtain ⟨syntaxChecked, -, validated⟩ := Raising.bind_eq_ok.1 validated
  obtain ⟨modelErrors, -, validated⟩ := Raising.bind_eq_ok.1 validated
  cases validated
  have none_wrong : schemaErrors = [] := by
    simp only [Validation.valid, List.isEmpty_iff, List.append_eq_nil_iff] at valid
    exact valid.1.1.1
  subst none_wrong
  unfold checkContractSchema at checked
  split at checked
  · cases checked
  · cases checked
  · next data loaded => exact ⟨data, loaded⟩
  · cases checked

theorem extractNodeName_valid (evaluated : evaluateAttempt env command raw = .ok evaluation)
    (valid : evaluation.valid = true) :
    ∃ nodeName, extractNodeName env evaluation.contractYaml = .ok nodeName := by
  obtain ⟨data, loaded⟩ := contract_loads (evaluateAttempt_ok evaluated).1 valid
  unfold extractNodeName
  rw [loaded]
  exact ⟨_, rfl⟩

theorem corpus_accepts_of_success (evaluated : evaluateAttempt env command raw = .ok evaluation)
    (success : evaluation.success = true) (given : command.validatorCorpus = some corpus)
    (filled : corpus.isEmpty = false) : evaluation.corpus.passed = true := by
  obtain ⟨valid, -, accepted⟩ := success_iff.1 success
  have judged := (evaluateAttempt_ok evaluated).2 valid
  have checked : evaluation.corpus.checked = true := by
    by_contra unchecked
    have empty := (corpus_unchecked_iff judged).1 (Bool.eq_false_iff.2 unchecked) corpus given
    rw [filled] at empty
    cases empty
  simpa [Evaluation.corpusFailed, checked] using accepted

theorem empty_corpus_accepts_nothing (given : command.validatorCorpus = some corpus)
    (empty : corpus.isEmpty = true) (handlerSource : String) :
    ¬ CorpusAccepts env command handlerSource := by
  rintro ⟨result, judged, passed⟩
  rw [given, evaluateCorpusAcceptance, if_pos empty] at judged
  cases judged
  cases passed

/-! ## A run -/

theorem quiet_published {acts : List Act} (quiet : acts.filterMap conclusion = []) :
    terminals acts = [] ∧ deploys acts = [] := by
  have silent := List.filterMap_eq_nil_iff.1 quiet
  constructor
  · refine List.filterMap_eq_nil_iff.2 ?_
    intro act listed
    have said := silent act listed
    unfold conclusion at said
    split at said <;> simp_all
  · refine List.filterMap_eq_nil_iff.2 ?_
    intro act listed
    have said := silent act listed
    unfold conclusion at said
    split at said <;> simp_all

theorem terminals_append (first second : List Act) :
    terminals (first ++ second) = terminals first ++ terminals second := List.filterMap_append

theorem deploys_append (first second : List Act) :
    deploys (first ++ second) = deploys first ++ deploys second := List.filterMap_append

theorem registration_published (benchmark : ModelGenerationBenchmark) (state : RunState) :
    terminals (emitRegistration env config answers benchmark state).did = [] ∧
      deploys (emitRegistration env config answers benchmark state).did = [] := by
  unfold emitRegistration
  split
  · exact ⟨rfl, rfl⟩
  · cases extractNodeName env benchmark.contractYaml <;> exact ⟨rfl, rfl⟩

theorem deployActs_published (benchmark : ModelGenerationBenchmark) :
    terminals (deployActs env config answers benchmark) = [] ∧
      deploys (deployActs env config answers benchmark) =
        if config.topicDeploy = "" then []
        else ((extractNodeName env benchmark.contractYaml).toOption.map
          (deployPayload env benchmark)).toList := by
  unfold deployActs
  split
  · exact ⟨rfl, rfl⟩
  · cases extractNodeName env benchmark.contractYaml with
    | error abort => exact ⟨rfl, rfl⟩
    | ok nodeName =>
      obtain ⟨noTerminal, noDeploy⟩ : _ ∧ deploys (emitRegistration env config answers benchmark
        ⟨answers.startingRoute, [], {}⟩).did = [] := registration_published benchmark _
      dsimp only
      split
      · constructor
        · exact noTerminal
        · show deployPayload env benchmark nodeName :: deploys _ = _
          rw [noDeploy]
          rfl
      · exact ⟨rfl, rfl⟩

theorem generate_published (acknowledged : ∀ call, answers.acknowledges call = true)
    (completed : config.topicCompleted ≠ "") (failed : config.topicFailed ≠ "")
    (evaluated : madeBy env answers command = .ok made) :
    terminals (generate env config answers command answers.start).did =
        [runBenchmark env config answers command] ∧
      deploys (generate env config answers command answers.start).did =
        if (verdictOf made).deploys = true then
          deploys (deployActs env config answers (runBenchmark env config answers command))
        else [] := by
  have declared : terminalTopic config (runBenchmark env config answers command) ≠ "" := by
    unfold terminalTopic
    split
    · exact completed
    · exact failed
  obtain ⟨quietTerminals, quietDeploys⟩ := quiet_published
    (loopEnded_quiet : (loopEnded env config answers command).did.filterMap conclusion = [])
  have verdict : (runBenchmark env config answers command).deploys = (verdictOf made).deploys :=
    congrArg Verdict.deploys (runBenchmark_verdict evaluated)
  rw [generate_eq evaluated, concludeRun_eq declared, if_pos (acknowledged .terminal), verdict]
  dsimp only
  rw [terminals_append, deploys_append, quietTerminals, quietDeploys, List.nil_append,
    List.nil_append]
  split
  · constructor
    · show _ :: terminals _ = _
      rw [terminals_append, (deployActs_published _).1]
      rfl
    · show deploys (deployActs env config answers _ ++ [recordAct env _]) = _
      rw [deploys_append]
      exact List.append_nil _
  · exact ⟨rfl, rfl⟩

theorem reuseActs_published :
    terminals (reuseActs config answers command) = [] ∧
      deploys (reuseActs config answers command) = [] := by
  unfold reuseActs
  split <;> exact ⟨rfl, rfl⟩

theorem handle_published (acknowledged : ∀ call, answers.acknowledges call = true)
    (unmatched : toolReuseMatch env config answers command = none)
    (completed : config.topicCompleted ≠ "") (failed : config.topicFailed ≠ "")
    (evaluated : madeBy env answers command = .ok made) :
    terminals (handle env config answers command none answers.start).did =
        [runBenchmark env config answers command] ∧
      deploys (handle env config answers command none answers.start).did =
        if (verdictOf made).deploys = true then
          deploys (deployActs env config answers (runBenchmark env config answers command))
        else [] := by
  obtain ⟨noTerminal, noDeploy⟩ : _ ∧ deploys (reuseActs config answers command) = [] :=
    reuseActs_published
  obtain ⟨oneTerminal, deployed⟩ := generate_published acknowledged completed failed evaluated
  rw [handle_unmatched unmatched]
  dsimp only
  rw [terminals_append, deploys_append, noTerminal, noDeploy]
  exact ⟨oneTerminal, deployed⟩

theorem handle_aborted {abort : Abort}
    (unmatched : toolReuseMatch env config answers command = none)
    (evaluated : madeBy env answers command = .error abort) :
    terminals (handle env config answers command none answers.start).did = [] := by
  rw [handle_unmatched unmatched]
  dsimp only
  rw [terminals_append, reuseActs_published.1, (generate_aborted evaluated).1]
  exact (quiet_published loopEnded_quiet).1

theorem deploys_success (deploy : config.topicDeploy ≠ "")
    (evaluated : madeBy env answers command = .ok made) (ended : made.getLast? = some last)
    (success : last.success = true) :
    ∃ payload, deploys (deployActs env config answers (runBenchmark env config answers command)) =
        [payload] ∧
      payload.contractYaml = last.contractYaml ∧ payload.handlerSource = last.handlerSource := by
  have verdict : (runBenchmark env config answers command).toVerdict = last.verdict := by
    rw [runBenchmark_verdict evaluated, verdictOf, lastValid_of_success ended success]
    rfl
  obtain ⟨raw, own⟩ := mem_evaluations evaluated (List.mem_of_getLast? ended)
  obtain ⟨nodeName, named⟩ := extractNodeName_valid own (success_iff.1 success).1
  have contract : (runBenchmark env config answers command).contractYaml = last.contractYaml :=
    congrArg Verdict.contractYaml verdict
  have handler : (runBenchmark env config answers command).handlerSource = last.handlerSource :=
    congrArg Verdict.handlerSource verdict
  refine ⟨deployPayload env (runBenchmark env config answers command) nodeName, ?_, contract,
    handler⟩
  rw [(deployActs_published _).2, if_neg deploy, contract, named]
  rfl

theorem decided_of_deploys (acknowledged : ∀ call, answers.acknowledges call = true)
    (unmatched : toolReuseMatch env config answers command = none)
    (completed : config.topicCompleted ≠ "") (failed : config.topicFailed ≠ "")
    (deploy : config.topicDeploy ≠ "") (sound : DeploysOnlyAccepted env answers command
      (handle env config answers command none answers.start).did) :
    DecidedByCorpus env answers command := by
  obtain ⟨benchmark, once, sound⟩ := sound
  cases evaluated : madeBy env answers command with
  | error abort =>
    rw [handle_aborted unmatched evaluated] at once
    cases once
  | ok made =>
    refine ⟨made, evaluated, ?_⟩
    intro corpus given empty evaluation listed
    by_contra succeeded
    have success : evaluation.success = true := Bool.eq_true_of_not_eq_false succeeded
    have ended := success_last evaluated listed success
    obtain ⟨-, -, -, tried⟩ := sound made evaluation evaluated ended
    obtain ⟨-, deployed⟩ := handle_published acknowledged unmatched completed failed evaluated
    obtain ⟨payload, one, -⟩ := deploys_success deploy evaluated ended success
    rw [if_pos ((deploys_iff evaluated ended).2 success), one] at deployed
    rw [deployed] at tried
    obtain ⟨-, accepts⟩ := tried (given ▸ Option.some_ne_none corpus) payload
      (List.mem_singleton_self payload)
    exact empty_corpus_accepts_nothing given empty _ accepts

/-- The runs that deploy accepted artifacts only: those whose evaluations come back and whose
corpus, if it is empty, meets no success. -/
theorem deploys_only_accepted_iff (acknowledged : ∀ call, answers.acknowledges call = true)
    (unmatched : toolReuseMatch env config answers command = none)
    (completed : config.topicCompleted ≠ "") (failed : config.topicFailed ≠ "")
    (deploy : config.topicDeploy ≠ "") : DeploysOnlyAccepted env answers command
        (handle env config answers command none answers.start).did ↔
      DecidedByCorpus env answers command := by
  constructor
  · exact decided_of_deploys acknowledged unmatched completed failed deploy
  · rintro ⟨made, evaluated, decided⟩
    obtain ⟨once, deployed⟩ := handle_published acknowledged unmatched completed failed evaluated
    refine ⟨_, once, ?_⟩
    intro made' last evaluated' ended
    obtain ⟨rfl⟩ := Except.ok.inj (evaluated.symm.trans evaluated')
    refine ⟨runBenchmark_verdict evaluated, ?_⟩
    rw [← success_iff]
    cases success : last.success with
    | false =>
      rw [if_neg (fun passes => by
        rw [(deploys_iff evaluated ended).1 passes] at success
        cases success)] at deployed
      rw [deployed]
      simp
    | true =>
      obtain ⟨payload, one, contract, handler⟩ := deploys_success deploy evaluated ended success
      rw [if_pos ((deploys_iff evaluated ended).2 success), one] at deployed
      rw [deployed]
      refine ⟨by simp, by simpa using ⟨contract, handler⟩, ?_⟩
      intro given
      obtain ⟨corpus, given⟩ := Option.ne_none_iff_exists'.1 given
      obtain ⟨raw, own⟩ := mem_evaluations evaluated (List.mem_of_getLast? ended)
      have filled : corpus.isEmpty = false := by
        by_contra empty
        have failure := decided corpus given (Bool.eq_true_of_not_eq_false empty) last
          (List.mem_of_getLast? ended)
        rw [failure] at success
        cases success
      have accepted := corpus_accepts_of_success own success given filled
      have verdict : (runBenchmark env config answers command).toVerdict = _ :=
        runBenchmark_verdict evaluated
      rw [verdictOf, lastValid_of_success ended success] at verdict
      rw [List.forall_mem_singleton, handler]
      refine ⟨(congrArg Verdict.corpusPassed verdict).trans accepted, last.corpus, ?_, accepted⟩
      exact (evaluateAttempt_ok own).2 (success_iff.1 success).1

/-! ## Sample runs -/

def sampleContract : String :=
  "name: scan\ncontract_version: 1.0.0\nnode_type: compute\ninput_model: In\noutput_model: Out"

/-- A scanner with a path in it. -/
def sampleHandler : String :=
  "def handle(input_data):\n    return scan(input_data, \"/tmp/rules\")"

def sampleEnv : GenerationEnv where
  unicode := PyText.asciiTable
  dedent text := text
  safeLoad text :=
    if text = sampleContract then
      .value (.dict [("name", .str "scan"), ("contract_version", .str "1.0.0"),
        ("node_type", .str "compute"), ("input_model", .str "In"), ("output_model", .str "Out")])
    else .malformed "not the sample"
  parse text := if text = sampleHandler then .tree ["handle"] else .syntaxError "not the sample"
  validateModelClassExistence _ _ := .ok []
  executeHandlerInSandbox _ input :=
    .returned (.dict [("findings", .list (if input.get "source" = .str "bad" then [.int 1] else []))])
  str
    | .str text => text
    | _ => ""
  repr _ := ""
  typeName _ := ""
  sha256 text := text
  calculateCost _ _ _ _ := 0

def sampleConfig : ConsumerConfig :=
  configOf
    ["onex.cmd.omnimarket.node-generation-requested.v1", "onex.cmd.omnimarket.node-deploy.v1",
     "onex.evt.omnimarket.tool-reuse-matched.v1", "onex.evt.omnimarket.tool-reuse-no-match.v1"]
    ["onex.evt.omnimarket.node-generation-completed.v1",
     "onex.evt.omnimarket.node-generation-failed.v1", "onex.evt.platform.node-registration.v1",
     "onex.cmd.omnimarket.node-deploy.v1", "onex.evt.omnimarket.generated-node-invoked.v1",
     "onex.evt.omnimarket.delegation-escalation-triggered.v1",
     "onex.cmd.omnimarket.tool-reuse-match-requested.v1"]
    "contract" "code_generation"

/-- The model gives the sample artifact at once, and every publish is acknowledged. -/
def sampleAnswers : RunAnswers where
  llm _ := some { text := "```yaml\n" ++ sampleContract ++ "\n```\n```python\n" ++ sampleHandler ++
    "\n```" }
  latencyMs _ := 0
  totalLatencyMs := 0
  startingRoute := { tierName := "local", provider := "local", servedModelId := "coder" }
  resolvedEndpoint := ""
  proofDecision _ := none
  routeDecision _ := none
  toolReuseVerdict := none
  acknowledges _ := true

def sampleCommand (corpus : ModelValidatorCorpus) : ModelNodeGenerationRequest where
  taskDescription := "scan for bad sources"
  correlationId := "c"
  validatorCorpus := some corpus

def sampleCorpus : ModelValidatorCorpus where
  violationFixtures := [{ fixtureId := "v", source := "bad", mutationOf := "b" }]
  cleanFixtures := [{ fixtureId := "w", source := "good" }]

theorem sample_topics : sampleConfig.topicCompleted ≠ "" ∧ sampleConfig.topicFailed ≠ "" ∧
    sampleConfig.topicDeploy ≠ "" := by
  decide +kernel

theorem sample_unmatched (corpus : ModelValidatorCorpus) :
    toolReuseMatch sampleEnv sampleConfig sampleAnswers (sampleCommand corpus) = none := by
  rw [toolReuseMatch]
  split
  · rfl
  · rfl

theorem sample_evaluated :
    (madeBy sampleEnv sampleAnswers (sampleCommand sampleCorpus)).toOption.isSome = true ∧
      (madeBy sampleEnv sampleAnswers (sampleCommand {})).toOption.any
        (fun made => made.any Evaluation.success) = true := by
  decide +kernel

theorem tried_scanner_deploys : DeploysOnlyAccepted sampleEnv sampleAnswers
    (sampleCommand sampleCorpus)
    (handle sampleEnv sampleConfig sampleAnswers (sampleCommand sampleCorpus) none
      sampleAnswers.start).did := by
  obtain ⟨completed, failed, deploy⟩ := sample_topics
  refine (deploys_only_accepted_iff (fun _ => rfl) (sample_unmatched _) completed failed deploy).2 ?_
  have made := sample_evaluated.1
  cases evaluated : madeBy sampleEnv sampleAnswers (sampleCommand sampleCorpus) with
  | error abort =>
    rw [evaluated] at made
    cases made
  | ok made =>
    refine ⟨made, evaluated, ?_⟩
    rintro corpus ⟨⟩ empty
    cases empty

/-- An empty corpus takes the path check away and tries nothing: the scanner is deployed. -/
theorem empty_corpus_deploys : ¬ DeploysOnlyAccepted sampleEnv sampleAnswers (sampleCommand {})
    (handle sampleEnv sampleConfig sampleAnswers (sampleCommand {}) none
      sampleAnswers.start).did := by
  intro sound
  obtain ⟨completed, failed, deploy⟩ := sample_topics
  obtain ⟨made, evaluated, decided⟩ :=
    decided_of_deploys (fun _ => rfl) (sample_unmatched _) completed failed deploy sound
  have succeeded := sample_evaluated.2
  rw [evaluated] at succeeded
  obtain ⟨evaluation, listed, success⟩ := List.any_eq_true.1 succeeded
  have failure := decided {} rfl rfl evaluation listed
  rw [success] at failure
  cases failure

end OmniMarket.GenerationConsumer
