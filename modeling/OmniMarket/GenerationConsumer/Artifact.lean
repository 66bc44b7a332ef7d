import OmniMarket.Lib.PyValue
import OmniMarket.Lib.Raising
import OmniMarket.Lib.Regex

/-!
# Generated artifacts

The generation consumer takes the last fenced YAML block and the last fenced Python block of an
answer for a contract and its handler. It checks their shape, then runs the handler on the fixtures
of the task and on the acceptance corpus of the request.

The YAML and Python parsers and the model-class validator are third-party code that may raise what
no caller catches, and a generated handler need not come back.
-/

namespace OmniMarket.GenerationConsumer

open PyText Regex

/-- How a call that does not come back with a value ends. -/
inductive Abort where
  | raised (text : String)
  | hangs

/-- The outcome of `ast.parse`, with the functions that the module defines at its top level. -/
inductive Parsed where
  | tree (functions : List String)
  | syntaxError (text : String)
  | raised (text : String)

/-- What running a generated handler in the sandbox comes to. -/
inductive Sandboxed where
  | returned (value : PyValue)
  | raised (typeName text : String)
  | hangs

/-- What the consumer uses of the standard library and of other packages. -/
structure GenerationEnv where
  unicode : UnicodeTable
  dedent : String → String
  safeLoad : String → Loaded
  parse : String → Parsed
  /-- The messages of the issues. -/
  validateModelClassExistence : PyDict → String → Except Abort (List String)
  executeHandlerInSandbox : String → PyDict → Sandboxed
  str : PyValue → String
  repr : PyValue → String
  typeName : PyValue → String
  sha256 : String → String
  calculateCost : String → String → ℕ → ℕ → ℚ

/-! ## Fenced blocks -/

def fence : List Char := "```".toList

/-- What stands before the first occurrence of the needle, and what after it. -/
def cutAt (needle : List Char) : List Char → Option (List Char × List Char)
  | [] => none
  | c :: rest =>
    if needle.isPrefixOf (c :: rest) then some ([], (c :: rest).drop needle.length)
    else (cutAt needle rest).map fun cut => (c :: cut.1, cut.2)

section

variable (env : GenerationEnv)

/-- The loop of `_extract_fenced_block`, from the text at the cursor on. -/
def lastBlock (langs : List String) : ℕ → List Char → Option (List Char) → Option (List Char)
  | 0, _, lastBody => lastBody
  | turns + 1, text, lastBody =>
    match cutAt fence text with
    | none => lastBody
    | some (_, opened) =>
      match cutAt ['\n'] opened with
      | none => lastBody
      | some (langLine, body) =>
        match cutAt fence body with
        | none => lastBody
        | some (block, rest) =>
          let lang := String.ofList (env.unicode.lower (strip langLine))
          lastBlock langs turns rest (if lang ∈ langs then some block else lastBody)

def extractFencedBlock (raw : String) (langs : List String) : Option String :=
  (lastBlock env langs raw.toList.length raw.toList none).map String.ofList

def normalizeBlock : Option String → String
  | none => ""
  | some body => stripString (env.dedent body)

def extractBlocks (raw : String) : String × String :=
  (normalizeBlock env (extractFencedBlock env raw ["yaml", "yml"]),
    normalizeBlock env (extractFencedBlock env raw ["python"]))

end

/-! ## Contract validation -/

def requiredContractFields : List String :=
  ["name", "contract_version", "node_type", "input_model", "output_model"]

def quote : Pattern := .one false (.either (.single '"') (.single '\''))

def unquoted : Pattern := .star true (.one false (.except (.either (.single '"') (.single '\''))))

/-- `_HARDCODED_PATH_RE`. -/
def hardcodedPath : Pattern :=
  .sequence [quote,
    .alt
      (.seq (.literal false "/")
        (.oneOf (["Users", "Volumes", "home", "tmp", "etc", "var", "opt", "usr"].map
          (Pattern.literal false))))
      (.seq (.one false .letter) (.literal false ":\\")),
    unquoted, quote]

/-- `_HARDCODED_TOPIC_RE`. -/
def hardcodedTopic : Pattern :=
  .sequence [quote, .literal false "onex.", .alt (.literal false "cmd") (.literal false "evt"),
    .literal false ".",
    .plus (.one false (.either (.within 'a' 'z') (.either (.within '0' '9') (.anyOf "._-")))),
    .literal false ".v", .plus (.one false .digit), quote]

structure Validation where
  errors : List String := []
  checksPassed : List String := []

def Validation.valid (validation : Validation) : Bool := validation.errors.isEmpty

section

variable (env : GenerationEnv)

def checkContractSchema (contractYaml : String) : Except Abort (List String × Bool) :=
  match env.safeLoad contractYaml with
  | .raised text => .error (.raised text)
  | .malformed text => .ok (["yaml parse error: " ++ text], false)
  | .value (.dict data) =>
    let missing := requiredContractFields.filter fun field => (PyDict.get? data field).isNone
    if missing = [] then .ok ([], true)
    else .ok (["schema: missing required fields: " ++ ", ".intercalate missing], false)
  | .value _ => .ok (["schema: contract YAML did not parse to a mapping"], false)

section

variable (handlerSource : String)

def checkHandlerSyntax : Except Abort (List String × Bool) :=
  if stripString handlerSource = "" then .ok (["syntax: handler source is empty"], false)
  else
    match env.parse handlerSource with
    | .raised text => .error (.raised text)
    | .syntaxError text => .ok (["syntax error: " ++ text], false)
    | .tree functions =>
      if "handle" ∈ functions then .ok ([], true)
      else .ok (["schema: handler source missing top-level handle() function"], true)

def checkHandlerSecurity (isValidatorGeneration : Bool) : List String :=
  (if !isValidatorGeneration && hardcodedPath.search env.unicode handlerSource.toList then
    ["security: hardcoded absolute path detected"] else []) ++
  (if hardcodedTopic.search env.unicode handlerSource.toList then
    ["security: hardcoded topic string detected"] else [])

def checkModelClassExistence (contractYaml handlerSource : String) :
    Except Abort (List String) :=
  match env.safeLoad contractYaml with
  | .raised text => .error (.raised text)
  | .value (.dict data) => do
      let issues ← env.validateModelClassExistence data handlerSource
      return issues.map ("model_classes: " ++ ·)
  | _ => .ok []

def validateGeneration (contractYaml handlerSource : String) (isValidatorGeneration : Bool) :
    Except Abort Validation := do
  let (schemaErrors, schemaOk) ← checkContractSchema env contractYaml
  let (syntaxErrors, syntaxOk) ← checkHandlerSyntax env handlerSource
  let securityErrors := checkHandlerSecurity env handlerSource isValidatorGeneration
  let modelClassErrors ←
    (if schemaOk && syntaxOk then checkModelClassExistence env contractYaml handlerSource
      else .ok [])
  return {
    errors := schemaErrors ++ syntaxErrors ++ securityErrors ++ modelClassErrors
    checksPassed :=
      (if schemaOk then ["schema"] else []) ++ (if syntaxOk then ["syntax"] else []) ++
      (if securityErrors = [] then ["security"] else []) ++
      (if schemaOk && syntaxOk && modelClassErrors.isEmpty then ["model_classes"] else []) }

/-! ## Semantic fixtures -/

structure ModelSemanticFixture where
  transform : String
  inputData : PyDict
  outputKeys : List String
  expectedValue : String
  requiredFields : PyDict := []

structure ModelSemanticResult where
  checked : Bool := false
  passed : Bool := false
  fixturesTotal : ℕ := 0
  fixturesPassed : ℕ := 0
  errors : List String := []

/-- `actual == expected` for an expected text or Boolean, which equals a number. -/
def equalsExpected : PyValue → PyValue → Bool
  | .int actual, .bool expected => actual = if expected then 1 else 0
  | .float actual, .bool expected => actual = .finite (if expected then 1 else 0)
  | actual, expected => actual = expected

def outputMatches (actual : PyValue) (fixture : ModelSemanticFixture) : Bool :=
  match actual with
  | .dict output =>
    let holds (key : String) (expected : PyValue) : Bool :=
      (PyDict.get? output key).any fun value => equalsExpected value expected
    fixture.outputKeys.any (fun key => holds key (.str fixture.expectedValue)) &&
      fixture.requiredFields.all fun field => holds field.1 field.2
  | _ => false

/-- The pass of `evaluate_handler_semantics` over one fixture. -/
def judgeSemanticFixture (result : ModelSemanticResult) (fixture : ModelSemanticFixture) :
    Except Abort ModelSemanticResult :=
  match env.executeHandlerInSandbox handlerSource fixture.inputData with
  | .hangs => .error .hangs
  | .raised typeName text =>
    .ok { result with errors := result.errors ++ ["semantic: handler raised " ++ typeName ++
      " on input " ++ env.repr (.dict fixture.inputData) ++ " (" ++ fixture.transform ++ "): " ++
      text] }
  | .returned actual =>
    if outputMatches actual fixture then
      .ok { result with fixturesPassed := result.fixturesPassed + 1 }
    else
      .ok { result with errors := result.errors ++ ["semantic: " ++ fixture.transform ++
        " expected " ++ env.repr (.str fixture.expectedValue) ++ " on one of " ++
        env.repr (.list (fixture.outputKeys.map .str)) ++ " (plus " ++
        env.repr (.dict fixture.requiredFields) ++ ") for input " ++
        env.repr (.dict fixture.inputData) ++ ", got " ++ env.repr actual] }

def evaluateHandlerSemantics (fixtures : List ModelSemanticFixture) :
    Except Abort ModelSemanticResult :=
  if fixtures.isEmpty then .ok {}
  else do
    let result ← fixtures.foldlM (judgeSemanticFixture env handlerSource) {}
    return { result with
      checked := true
      passed := result.fixturesPassed = fixtures.length
      fixturesTotal := fixtures.length }

end

end

def wants (text : List Char) (needles : List String) : Bool :=
  needles.any fun needle => containsText needle.toList text

def structuredTaskSignals : List String :=
  ["json object", "json payload", "object with", "fields", "ticket_id", "ticket id", "schema",
   "dictionary", "dict with", "nested"]

def hasStructuredPayloadSignal (text : List Char) : Bool := wants text structuredTaskSignals

def isStructuredTask (text : List Char) : Bool :=
  hasStructuredPayloadSignal text ||
    containsText "return".toList text && wants text [", and ", " plus ", " and returns"]

def inputPayload (value : String) : PyDict :=
  ["text", "value", "input", "input_text", "string"].map fun key => (key, .str value)

def changedField (raw transformed : String) (wantsChanged : Bool) : PyDict :=
  if wantsChanged then [("changed", .bool (transformed ≠ raw))] else []

def sampleFixtures (transform : String) (outputKeys : List String) (wantsChanged : Bool)
    (samples : List (String × String)) : List ModelSemanticFixture :=
  samples.map fun (raw, transformed) =>
    { transform, inputData := inputPayload raw, outputKeys, expectedValue := transformed,
      requiredFields := changedField raw transformed wantsChanged }

def snakeToPascalFixtures (wantsChanged : Bool) : List ModelSemanticFixture :=
  sampleFixtures "snake_to_pascal" ["pascal_case", "pascalcase", "result", "output"] wantsChanged
    [("hello_world", "HelloWorld"), ("  multi_word_value  ", "MultiWordValue")]

def snakeToCamelFixtures (wantsChanged : Bool) : List ModelSemanticFixture :=
  sampleFixtures "snake_to_camel" ["camel_case", "camelcase", "result", "output"] wantsChanged
    [("hello_world", "helloWorld"), ("  multi_word_value  ", "multiWordValue")]

def reverseFixtures : List ModelSemanticFixture :=
  sampleFixtures "reverse" ["reversed", "result", "output"] false
    [("abc", "cba"), ("OmniNode", "edoNinmO")]

def upperFixtures : List ModelSemanticFixture :=
  sampleFixtures "uppercase" ["upper", "uppercase", "result", "output"] false
    [("hello", "HELLO"), ("MixedCase", "MIXEDCASE")]

def lowerFixtures : List ModelSemanticFixture :=
  sampleFixtures "lowercase" ["lower", "lowercase", "result", "output"] false
    [("HELLO", "hello"), ("MixedCase", "mixedcase")]

def deriveSemanticFixtures (env : GenerationEnv) (taskDescription : String) :
    List ModelSemanticFixture :=
  let text := env.unicode.lower taskDescription.toList
  let wantsChanged := wants text ["changed", "modified"]
  let snake := wants text ["snake_case", "snake case", "snake"]
  if hasStructuredPayloadSignal text then []
  else if wants text ["pascalcase", "pascal case", "pascal_case", "pascal"] && snake then
    snakeToPascalFixtures wantsChanged
  else if wants text ["camelcase", "camel case", "camel_case", "camel"] && snake then
    snakeToCamelFixtures wantsChanged
  else if isStructuredTask text then []
  else if wants text ["revers"] then reverseFixtures
  else if wants text ["uppercase", "upper case", "to upper"] then upperFixtures
  else if wants text ["lowercase", "lower case", "to lower"] then lowerFixtures
  else []

/-! ## Corpus acceptance -/

structure ModelCorpusFixture where
  fixtureId : String
  source : String
  mutationOf : String := ""

structure ModelValidatorCorpus where
  sourceField : String := "source"
  findingsKeys : List String := ["findings", "violations", "errors", "matches"]
  violationFixtures : List ModelCorpusFixture := []
  cleanFixtures : List ModelCorpusFixture := []
  sourceField_nonempty : sourceField ≠ "" := by decide

namespace ModelValidatorCorpus

def isEmpty (corpus : ModelValidatorCorpus) : Bool :=
  corpus.violationFixtures.isEmpty && corpus.cleanFixtures.isEmpty

def hasMutationCase (corpus : ModelValidatorCorpus) : Bool :=
  (corpus.violationFixtures ++ corpus.cleanFixtures).any fun fixture => fixture.mutationOf ≠ ""

end ModelValidatorCorpus

structure ModelCorpusAcceptanceResult where
  checked : Bool := false
  passed : Bool := false
  violationTotal : ℕ := 0
  violationFlagged : ℕ := 0
  cleanTotal : ℕ := 0
  cleanPassed : ℕ := 0
  errors : List String := []

/-- The fixtures judged so far: the complaints and the number that was right. -/
structure CorpusTally where
  errors : List String := []
  right : ℕ := 0

section

variable (env : GenerationEnv)

/-- `_scanner_findings_count`: the number of findings, or the error. -/
def scannerFindingsCount (handlerSource : String) (fixture : ModelCorpusFixture)
    (corpus : ModelValidatorCorpus) : Except Abort (Except String ℕ) :=
  match env.executeHandlerInSandbox handlerSource [(corpus.sourceField, .str fixture.source)] with
  | .hangs => .error .hangs
  | .raised typeName text =>
    .ok (.error ("scanner raised " ++ typeName ++ " on fixture " ++
      env.repr (.str fixture.fixtureId) ++ ": " ++ text))
  | .returned (.dict output) =>
    .ok (.ok ((corpus.findingsKeys.findSome? fun key =>
      ((PyDict.get? output key).bind PyValue.asList?).map List.length).getD 0))
  | .returned output =>
    .ok (.error ("scanner returned " ++ env.typeName output ++ ", not a mapping, on fixture " ++
      env.repr (.str fixture.fixtureId) ++ "; cannot read findings"))

/-- The pass of a loop of `evaluate_corpus_acceptance` over one fixture. -/
def judgeCorpusFixture (handlerSource : String) (corpus : ModelValidatorCorpus) (kind : String)
    (accepts : ℕ → Bool) (complaint : ModelCorpusFixture → ℕ → String) (tally : CorpusTally)
    (fixture : ModelCorpusFixture) : Except Abort CorpusTally := do
  match ← scannerFindingsCount env handlerSource fixture corpus with
  | .error execError =>
    return { tally with errors := tally.errors ++
      [kind ++ " " ++ env.repr (.str fixture.fixtureId) ++ ": " ++ execError] }
  | .ok count =>
    if accepts count then return { tally with right := tally.right + 1 }
    else return { tally with errors := tally.errors ++ [complaint fixture count] }

def missedViolation (fixture : ModelCorpusFixture) (_ : ℕ) : String :=
  "violation_fixture " ++ env.repr (.str fixture.fixtureId) ++ " was NOT flagged " ++
    "(0 findings); the scanner must flag every violation. " ++
    "source=" ++ env.repr (.str fixture.source)

def falseFlag (fixture : ModelCorpusFixture) (count : ℕ) : String :=
  "clean_fixture " ++ env.repr (.str fixture.fixtureId) ++ " was FALSE-flagged " ++
    "(" ++ count.repr ++ " finding(s)); the scanner must pass every clean input. " ++
    "source=" ++ env.repr (.str fixture.source)

def noMutationCase : String :=
  "corpus: no adversarial mutation case present " ++
    "(ModelCorpusFixture.mutation_of) — a gate that passes only " ++
    "curated examples is not proven (OMN-13289)"

def evaluateCorpusAcceptance (handlerSource : String) :
    Option ModelValidatorCorpus → Except Abort ModelCorpusAcceptanceResult
  | none => .ok {}
  | some corpus =>
    if corpus.isEmpty then .ok {}
    else if !corpus.hasMutationCase then
      .ok { checked := true
            violationTotal := corpus.violationFixtures.length
            cleanTotal := corpus.cleanFixtures.length
            errors := [noMutationCase] }
    else do
      let flagged ← corpus.violationFixtures.foldlM (judgeCorpusFixture env handlerSource corpus
        "violation_fixture" (fun count => 1 ≤ count) (missedViolation env)) {}
      let clean ← corpus.cleanFixtures.foldlM (judgeCorpusFixture env handlerSource corpus
        "clean_fixture" (fun count => count = 0) (falseFlag env)) { errors := flagged.errors }
      return {
        checked := true
        passed := clean.errors = [] ∧ flagged.right = corpus.violationFixtures.length ∧
          clean.right = corpus.cleanFixtures.length
        violationTotal := corpus.violationFixtures.length
        violationFlagged := flagged.right
        cleanTotal := corpus.cleanFixtures.length
        cleanPassed := clean.right
        errors := clean.errors }

end

variable {env : GenerationEnv} {handlerSource : String} {result : ModelCorpusAcceptanceResult}

theorem corpus_unchecked_iff {corpus : Option ModelValidatorCorpus}
    (evaluated : evaluateCorpusAcceptance env handlerSource corpus = .ok result) :
    result.checked = false ↔ ∀ given ∈ corpus, given.isEmpty = true := by
  cases corpus with
  | none =>
    cases evaluated
    simp
  | some given =>
    simp only [evaluateCorpusAcceptance] at evaluated
    split at evaluated
    · next empty =>
      cases evaluated
      simp [empty]
    · next filled =>
      have checked : result.checked = true := by
        split at evaluated
        · cases evaluated
          rfl
        · obtain ⟨flagged, -, evaluated⟩ := Raising.bind_eq_ok.1 evaluated
          obtain ⟨clean, -, evaluated⟩ := Raising.bind_eq_ok.1 evaluated
          cases evaluated
          rfl
      simp [checked, filled]

end OmniMarket.GenerationConsumer
