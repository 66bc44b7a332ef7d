import OmniMarket.QualityGate.Checks
import OmniMarket.Wire
import OmniMarket.Lib.Double

/-!
# The quality-gate reducer

`delta` merges the definition of done of the request and its task class, runs the
checks, grades them and gives the verdict. Scores are computed in doubles; the double that
`round(value, 3)` returns stands here as the decimal it is nearest to.
-/

namespace OmniMarket.QualityGate

variable (rt : GateRuntime)

/-! ## Scores -/

/-- A score of `[0, 1]`. -/
@[ext]
structure UnitScore where
  value : ℚ
  nonneg : 0 ≤ value
  le_one : value ≤ 1

instance : DecidableEq UnitScore := fun _ _ => decidable_of_iff _ UnitScore.ext_iff.symm

/-- `round(value, 3)` of a score. -/
def UnitScore.rounded (score : UnitScore) : UnitScore where
  value := PyNumber.round 3 score.value
  nonneg := PyNumber.round_nonneg score.nonneg
  le_one := PyNumber.round_le_one score.le_one

/-- The fraction of `total` checks that did not fail. -/
def passedFraction (total failures : ℕ) : UnitScore where
  value := if total = 0 then 1 else Double.div (total - failures : ℕ) total
  nonneg := by
    split
    · exact zero_le_one
    · exact Double.nonneg_div (Nat.cast_nonneg _) (Nat.cast_nonneg _)
  le_one := by
    split
    · exact le_refl 1
    · next some_total =>
      exact Double.div_le_one_of_le (Nat.cast_nonneg _)
        (by exact_mod_cast Nat.pos_of_ne_zero some_total) (by exact_mod_cast Nat.sub_le ..)

def UnitScore.zero : UnitScore := ⟨0, le_refl 0, zero_le_one⟩

def UnitScore.one : UnitScore := ⟨1, zero_le_one, le_refl 1⟩

/-- A weight of a band: a positive double. -/
structure Weight where
  value : ℚ
  double : Double.nearest value = value
  positive : 0 < value

def Weight.ofLiteral (literal : ℚ) (positive : 0 < literal) : Weight :=
  ⟨Double.nearest literal, Double.nearest_nearest positive.le, Double.nearest_pos positive⟩

section

variable (weight weight' : Weight) (score score' : UnitScore)

def Weight.share : ℚ := Double.mul weight.value score.value

variable {weight weight' score score'}

theorem Weight.share_nonneg : 0 ≤ weight.share score :=
  Double.nonneg_mul weight.positive.le score.nonneg

theorem Weight.share_le : weight.share score ≤ weight.value :=
  Double.mul_le_left weight.double weight.positive.le score.nonneg score.le_one

variable (weight weight' score score')

/-- The weighted mean of one score. -/
def UnitScore.weighed : UnitScore where
  value := Double.div (weight.share score) weight.value
  nonneg := Double.nonneg_div Weight.share_nonneg weight.positive.le
  le_one := Double.div_le_one_of_le Weight.share_nonneg weight.positive Weight.share_le

/-- The weighted mean of two scores. -/
def UnitScore.mix : UnitScore where
  value := Double.div (Double.add (weight.share score) (weight'.share score'))
    (Double.add weight.value weight'.value)
  nonneg := Double.nonneg_div (Double.nonneg_add Weight.share_nonneg Weight.share_nonneg)
    (Double.nonneg_add weight.positive.le weight'.positive.le)
  le_one := Double.div_le_one_of_le (Double.nonneg_add Weight.share_nonneg Weight.share_nonneg)
    (Double.nearest_pos (add_pos weight.positive weight'.positive))
    (Double.add_mono (add_nonneg Weight.share_nonneg Weight.share_nonneg) Weight.share_le
      Weight.share_le)

end

def COMBINED_DETERMINISTIC_WEIGHT : Weight := Weight.ofLiteral (3 / 5) (by norm_num)

def COMBINED_JUDGE_WEIGHT : Weight := Weight.ofLiteral (2 / 5) (by norm_num)

def combinedQualityScore (deterministicScore judgeAdequacyScore : UnitScore) : UnitScore :=
  (UnitScore.mix COMBINED_DETERMINISTIC_WEIGHT COMBINED_JUDGE_WEIGHT deterministicScore
    judgeAdequacyScore).rounded

def DETERMINISTIC_BAND_WEIGHT : Weight := Weight.ofLiteral (3 / 5) (by norm_num)

def HEURISTIC_BAND_WEIGHT : Weight := Weight.ofLiteral (2 / 5) (by norm_num)

/-- `_graded_quality_score`: only bands with checks are weighed. -/
def gradedQualityScore (deterministicTotal deterministicFailures heuristicTotal
    heuristicFailures : ℕ) : UnitScore :=
  let deterministic := passedFraction deterministicTotal deterministicFailures
  let heuristic := passedFraction heuristicTotal heuristicFailures
  match decide (0 < deterministicTotal), decide (0 < heuristicTotal) with
  | false, false => UnitScore.zero
  | true, false => (UnitScore.weighed DETERMINISTIC_BAND_WEIGHT deterministic).rounded
  | false, true => (UnitScore.weighed HEURISTIC_BAND_WEIGHT heuristic).rounded
  | true, true =>
    (UnitScore.mix DETERMINISTIC_BAND_WEIGHT HEURISTIC_BAND_WEIGHT deterministic heuristic).rounded

example : (gradedQualityScore 16 1 1 0).value = 963 / 1000 := by decide +kernel

example : (gradedQualityScore 1200 1 1 0).value = 999 / 1000 := by decide +kernel

inductive EnumDelegationJudgeVerdict where
  | pass
  | borderline
  | fail
  | judgeFailed
deriving DecidableEq

def JUDGE_FAIL_REASON : String :=
  "JUDGE_FAIL: llm-judge adequacy verdict=fail vetoes acceptance " ++
  "(deterministic floor passed but judge rejected the candidate)"

/-! ## Classification of the checks -/

def VERIFIABLE_TASK_TYPES : List String :=
  ["code_generation", "test", "validator_generation", "refactor"]

def REJECT_ONLY_DETERMINISTIC_CHECKS : List String :=
  ["output_parses", "signature_preserved", "response_non_empty", "task_completed",
   "exactly_two_sentences", "plain_text_only", "no_refusal"]

def REJECT_ONLY_HEURISTIC_CHECKS : List String :=
  ["no_refusal", "accurate", "concise", "covers_args_returns_raises", "cites_specific_lines",
   "cites_sources"] ++ HEURISTIC_CONTAINS_ANY_CHECKS.map (·.1)

def isRejectOnlyDeterministicCheck (check : String) : Bool :=
  REJECT_ONLY_DETERMINISTIC_CHECKS.contains check ||
    (checkParameter rt MAX_WORDS_PER_SENTENCE_RE check).isSome

def isRejectOnlyHeuristicCheck (check : String) : Bool :=
  REJECT_ONLY_HEURISTIC_CHECKS.contains check ||
    (checkParameter rt MIN_LENGTH_CHECK_RE check).isSome

/-- An evaluated deterministic check that may promote an output. -/
def isDeterministicAuthority (check : String) : Bool :=
  !isRejectOnlyDeterministicCheck rt check && !UNEVALUATED_DETERMINISTIC_CHECKS.contains check

def isVerifiableDeterministicAcceptance (taskType : String) (dodDeterministic : List String) :
    Bool :=
  VERIFIABLE_TASK_TYPES.contains taskType && dodDeterministic.any (isDeterministicAuthority rt)

def hasAdequacyAuthority (dodDeterministic dodHeuristic : List String) : Bool :=
  dodDeterministic.any (isDeterministicAuthority rt) ||
    dodHeuristic.any fun check => !isRejectOnlyHeuristicCheck rt check

def NO_ADEQUACY_AUTHORITY_REASON : String :=
  "TASK_MISMATCH: no deterministic acceptance or judge adequacy authority; " ++
  "schema/length/no-refusal/marker checks are reject-only"

def FALLBACK_VERDICT_PREFIXES : List String := ["REFUSAL", "WEAK_OUTPUT", "TASK_MISMATCH"]

def recommendsFallback (failureReasons : List String) : Bool :=
  failureReasons.any fun reason => FALLBACK_VERDICT_PREFIXES.any (startsWith reason.toList)

/-! ## Response contract -/

section

variable (input : ModelQualityGateInput)

def rejectedByContract (failureReasons : List String) :
    ModelQualityGateResult where
  correlationId := input.correlationId
  passed := false
  failCategory := .failDeterministic
  qualityScore := .finite 0
  failureReasons := failureReasons
  fallbackRecommended := true

def schemaViolationReason (violation : SchemaError) : String :=
  "SCHEMA_VIOLATION: " ++
    (if violation.path.isEmpty then "<root>" else ".".intercalate violation.path) ++ ": " ++
    violation.message

def schemaViolationReasons (candidate : PyValue) (responseContract : PyDict) :
    Except GateError (List String) := do
  let errors ← rt.schemaErrors candidate responseContract
  .ok ((errors.mergeSort fun a b => decide (a.path ≤ b.path)).map schemaViolationReason)

/-- `_evaluate_response_contract`: the schema is the sole authority. -/
def evaluateResponseContract (responseContract : PyDict) :
    Except GateError ModelQualityGateResult :=
  let content := PyText.strip (stripThinkingTraces rt input.llmResponseContent.toList)
  if content.isEmpty then
    .ok (rejectedByContract input ["MALFORMED: empty response fails response_contract validation"])
  else
    match rt.jsonLoads (String.ofList content) with
    | .error (.uncaught message) => .error (.parser message)
    | .error (.invalid message) =>
      .ok (rejectedByContract input ["MALFORMED: response is not valid JSON: " ++ message])
    | .ok candidate => do
        let reasons ← schemaViolationReasons rt candidate responseContract
        if reasons.isEmpty then
          .ok { correlationId := input.correlationId, passed := true, failCategory := .pass
                qualityScore := .finite 1 }
        else .ok (rejectedByContract input reasons)

/-! ## Legacy checks -/

def TASK_MARKERS : List (String × List String) :=
  [("test", ["def test_", "@pytest.mark"]), ("document", ["args:", "returns:", "\"\"\""]),
   ("research", [])]

def MIN_LENGTHS : List (String × ℤ) := [("document", 100), ("test", 80), ("research", 60)]

def WEIGHT_LENGTH : ℚ := Double.nearest (2 / 5)

def WEIGHT_NO_REFUSAL : ℚ := Double.nearest (3 / 10)

def WEIGHT_MARKERS : ℚ := Double.nearest (3 / 10)

def legacyMarkers : List String :=
  if input.expectedMarkers.isEmpty then (TASK_MARKERS.lookup input.taskType).getD []
  else input.expectedMarkers

/-- `_run_legacy_checks`: they reject or diagnose, and never accept. -/
def runLegacyChecks : ModelQualityGateResult :=
  let content := stripThinkingTraces rt input.llmResponseContent.toList
  let minLength := (MIN_LENGTHS.lookup input.taskType).getD input.minResponseLength
  let long := decide (minLength ≤ content.length)
  let phrases := detected (rt.unicode.lower (content.take 200)) REFUSAL_PHRASES
  let markers := legacyMarkers input
  let lowered := rt.unicode.lower content
  let missing := markers.filter fun marker =>
    !PyText.containsText (PyText.lowerString rt.unicode marker) lowered
  let markerScore : ℚ :=
    if markers.isEmpty then 1
    else Double.div (markers.length - missing.length : ℕ) markers.length
  let reasons :=
    (if long then []
      else [s!"WEAK_OUTPUT: response length {content.length} below minimum {minLength}"]) ++
    (if phrases.isEmpty then []
      else ["REFUSAL: detected refusal phrases: " ++ ", ".intercalate phrases]) ++
    (if missing.isEmpty then []
      else ["TASK_MISMATCH: missing expected markers: " ++ ", ".intercalate missing])
  let failureReasons := if reasons.isEmpty then [NO_ADEQUACY_AUTHORITY_REASON] else reasons
  let score := Double.add
    (Double.add (Double.mul (if long then 1 else 0) WEIGHT_LENGTH)
      (Double.mul (if phrases.isEmpty then 1 else 0) WEIGHT_NO_REFUSAL))
    (Double.mul markerScore WEIGHT_MARKERS)
  { correlationId := input.correlationId
    passed := false
    failCategory := .failHeuristic
    qualityScore := .finite (PyNumber.round 3 score)
    failureReasons
    fallbackRecommended := recommendsFallback failureReasons }

end

/-! ## Contract checks -/

/-- The checks that hold for one request: those of its task class and its own. -/
@[ext]
structure DefinitionOfDone where
  deterministic : List String
  heuristic : List String

def mergedDod (input : ModelQualityGateInput) : DefinitionOfDone :=
  match input.qualityContractMode with
  | .replaceTaskClass => { deterministic := input.acceptanceCriteria, heuristic := [] }
  | .extendTaskClass =>
    { deterministic := input.dodDeterministic ++ input.acceptanceCriteria
      heuristic := input.dodHeuristic }

def DefinitionOfDone.isEmpty (dod : DefinitionOfDone) : Bool :=
  dod.deterministic.isEmpty && dod.heuristic.isEmpty

structure CheckOutcome where
  deterministicFailures : List String
  heuristicFailures : List String
  skippedDeterministic : List String

def runContractChecks (content : List Char) (dod : DefinitionOfDone) :
    Except GateError CheckOutcome := do
  let (failures, skipped) ← evaluateDeterministicChecks rt content dod.deterministic
  let (heuristics, unsupported) ← evaluateHeuristicChecks rt content dod.heuristic
  .ok { deterministicFailures := failures ++ unsupported, heuristicFailures := heuristics
        skippedDeterministic := skipped }

/-- The floor of the verifiable path: an empty response fails, and fails once. -/
def withEmptyFloor (authority : Bool) (content : List Char) (outcome : CheckOutcome) :
    CheckOutcome :=
  if authority && (PyText.strip content).isEmpty &&
      !outcome.deterministicFailures.contains EMPTY_RESPONSE_FLOOR_REASON then
    { outcome with
      deterministicFailures := EMPTY_RESPONSE_FLOOR_REASON :: outcome.deterministicFailures }
  else outcome

def evaluatedDeterministicTotal (dodDeterministic : List String) (outcome : CheckOutcome) : ℕ :=
  max (dodDeterministic.length - outcome.skippedDeterministic.length)
    outcome.deterministicFailures.length

def ACCEPTANCE_VERSION : String := "delegation-deterministic-acceptance.v1"

def deterministicAcceptanceScore (total failures : ℕ) : UnitScore :=
  if total = 0 then UnitScore.zero else (passedFraction total failures).rounded

/-- The evidence fields of a result on the verifiable path. -/
structure AcceptanceEvidence where
  scoreSource : String
  acceptanceVersion : String
  corpusHash : String
  validatorOrArtifactHash : String
  acceptanceCommand : String
  actualScore : UnitScore
  pass_ : Bool
  failureCases : List String
  skippedChecks : List String

def deterministicAcceptanceEvidence (taskType : String) (content : List Char)
    (dodDeterministic : List String) (outcome : CheckOutcome) : AcceptanceEvidence :=
  let total := evaluatedDeterministicTotal dodDeterministic outcome
  { scoreSource := SCORE_SOURCE_DETERMINISTIC_ACCEPTANCE
    acceptanceVersion := ACCEPTANCE_VERSION
    corpusHash := rt.sha256Hex (rt.dumpsStable
      [("acceptance_version", .str ACCEPTANCE_VERSION),
       ("score_source", .str SCORE_SOURCE_DETERMINISTIC_ACCEPTANCE),
       ("task_type", .str taskType),
       ("checks", .list (dodDeterministic.map .str))])
    validatorOrArtifactHash := rt.sha256Hex (String.ofList content)
    acceptanceCommand :=
      "uv run python -m omnimarket.nodes.node_delegation_quality_gate_reducer " ++
      "--score-source=" ++ SCORE_SOURCE_DETERMINISTIC_ACCEPTANCE ++ " --task-type=" ++ taskType
    actualScore := deterministicAcceptanceScore total outcome.deterministicFailures.length
    pass_ := decide (0 < total) && outcome.deterministicFailures.isEmpty
    failureCases := outcome.deterministicFailures
    skippedChecks := outcome.skippedDeterministic }

/-! ## Verdict -/

/-- The part of a result that the verdict decides. -/
structure GateVerdict where
  passed : Bool
  failCategory : QualityGateCategory
  qualityScore : UnitScore
  failureReasons : List String
  fallbackRecommended : Bool

def GateVerdict.result (verdict : GateVerdict) (correlationId : UUID) :
    Option AcceptanceEvidence → ModelQualityGateResult
  | none =>
    { correlationId
      passed := verdict.passed
      failCategory := verdict.failCategory
      qualityScore := .finite verdict.qualityScore.value
      failureReasons := verdict.failureReasons
      fallbackRecommended := verdict.fallbackRecommended }
  | some evidence =>
    { correlationId
      passed := verdict.passed
      failCategory := verdict.failCategory
      qualityScore := .finite verdict.qualityScore.value
      failureReasons := verdict.failureReasons
      fallbackRecommended := verdict.fallbackRecommended
      scoreSource := evidence.scoreSource
      acceptanceVersion := evidence.acceptanceVersion
      corpusHash := evidence.corpusHash
      validatorOrArtifactHash := evidence.validatorOrArtifactHash
      acceptanceCommand := evidence.acceptanceCommand
      actualScore := some evidence.actualScore.value
      pass_ := some evidence.pass_
      failureCases := evidence.failureCases
      skippedChecks := evidence.skippedChecks
      actualScore_bounds := by
        rintro score ⟨⟩
        exact ⟨evidence.actualScore.nonneg, evidence.actualScore.le_one⟩ }

/-- The end of `delta` on the verifiable path, once the floor has passed. -/
def verifiableVerdict (graded fraction : UnitScore) (judgeAdequacyScore : Option UnitScore)
    (judgeVerdict : Option EnumDelegationJudgeVerdict) : GateVerdict :=
  let qualityScore := (judgeAdequacyScore.map (combinedQualityScore fraction)).getD graded
  if judgeVerdict = some .fail then
    { passed := false, failCategory := .failHeuristic, qualityScore
      failureReasons := [JUDGE_FAIL_REASON], fallbackRecommended := true }
  else
    { passed := true, failCategory := .pass, qualityScore, failureReasons := []
      fallbackRecommended := false }

/-- The end of `delta` without deterministic authority. -/
def heuristicVerdict (dod : DefinitionOfDone) (graded : UnitScore)
    (heuristicFailures : List String) : GateVerdict :=
  if !heuristicFailures.isEmpty then
    { passed := false, failCategory := .failHeuristic, qualityScore := graded
      failureReasons := heuristicFailures
      fallbackRecommended := recommendsFallback heuristicFailures }
  else if !hasAdequacyAuthority rt dod.deterministic dod.heuristic then
    { passed := false, failCategory := .failHeuristic, qualityScore := graded
      failureReasons := [NO_ADEQUACY_AUTHORITY_REASON], fallbackRecommended := true }
  else
    { passed := true, failCategory := .pass, qualityScore := graded, failureReasons := []
      fallbackRecommended := false }

def gradedScoreOf (dod : DefinitionOfDone) (outcome : CheckOutcome) : UnitScore :=
  gradedQualityScore (evaluatedDeterministicTotal dod.deterministic outcome)
    outcome.deterministicFailures.length dod.heuristic.length outcome.heuristicFailures.length

def deterministicFraction (dod : DefinitionOfDone) (outcome : CheckOutcome) : UnitScore :=
  passedFraction (evaluatedDeterministicTotal dod.deterministic outcome)
    outcome.deterministicFailures.length

def contractVerdict (authority : Bool) (dod : DefinitionOfDone) (outcome : CheckOutcome)
    (judgeAdequacyScore : Option UnitScore) (judgeVerdict : Option EnumDelegationJudgeVerdict) :
    GateVerdict :=
  let graded := gradedScoreOf dod outcome
  -- The deterministic band is a hard floor: it blocks before any judge combine.
  if !outcome.deterministicFailures.isEmpty then
    { passed := false, failCategory := .failDeterministic, qualityScore := graded
      failureReasons := outcome.deterministicFailures ++ outcome.heuristicFailures
      fallbackRecommended := true }
  else if authority then
    verifiableVerdict graded (deterministicFraction dod outcome) judgeAdequacyScore judgeVerdict
  else heuristicVerdict rt dod graded outcome.heuristicFailures

/-- The evidence of the verifiable path; a combined score replaces the deterministic one
once the floor has passed. -/
def contractEvidence (input : ModelQualityGateInput) (content : List Char)
    (dod : DefinitionOfDone) (outcome : CheckOutcome) (judgeAdequacyScore : Option UnitScore) :
    AcceptanceEvidence :=
  let evidence :=
    deterministicAcceptanceEvidence rt input.taskType content dod.deterministic outcome
  match judgeAdequacyScore with
  | none => evidence
  | some score =>
    if outcome.deterministicFailures.isEmpty then
      { evidence with
        scoreSource := SCORE_SOURCE_COMBINED
        actualScore := combinedQualityScore (deterministicFraction dod outcome) score }
    else evidence

/-- `delta`. The judge score is resolved upstream and lies in `[0, 1]`. -/
def delta (input : ModelQualityGateInput) (judgeAdequacyScore : Option UnitScore := none)
    (judgeVerdict : Option EnumDelegationJudgeVerdict := none)
    (responseContract : Option PyDict := none) : Except GateError ModelQualityGateResult :=
  match responseContract with
  | some responseContract => evaluateResponseContract rt input responseContract
  | none =>
    let dod := mergedDod input
    if dod.isEmpty then .ok (runLegacyChecks rt input)
    else do
      let content := stripThinkingTraces rt input.llmResponseContent.toList
      let checked ← runContractChecks rt content dod
      let authority := isVerifiableDeterministicAcceptance rt input.taskType dod.deterministic
      let outcome := withEmptyFloor authority content checked
      let verdict := contractVerdict rt authority dod outcome judgeAdequacyScore judgeVerdict
      .ok (verdict.result input.correlationId
        (if authority then
          some (contractEvidence rt input content dod outcome judgeAdequacyScore)
        else none))

end OmniMarket.QualityGate
