import OmniMarket.Lib.PyText
import OmniMarket.Wire

/-!
# The compliance loop

One iteration of the schema-compliance loop: the schema check of a candidate
output, the repair prompt for its errors and the budget verdict. The JSON
library and the schema registry are parameters.
-/

namespace OmniMarket

inductive JsonError where
  /-- `json.JSONDecodeError`, which the validator catches. -/
  | decode (message : String)
  /-- Any other exception, which nobody catches. -/
  | uncaught (message : String)

/-- What the loop uses of the standard library and of the schema registry. -/
structure ComplianceRuntime where
  /-- `json.loads`. -/
  loads : String → Except JsonError PyValue
  /-- `json.dumps(schema, indent=2)`. -/
  dumpsIndented : PyDict → String
  /-- `json.dumps(value, sort_keys=True)`. -/
  dumpsSorted : PyDict → String
  /-- `str(value)`. -/
  str : PyValue → String
  /-- `_get_schema(key)`. -/
  getSchema : String → Option PyDict
  /-- `repr(key)`. -/
  reprKey : String → String

/-! ## Schema check -/

/-- One entry of the validation errors, without the `input` that nothing reads. -/
structure ValidationError where
  type : String
  loc : List PyValue
  msg : String

/-- `type(value).__name__`. -/
def typeName : PyValue → String
  | .none => "NoneType"
  | .bool _ => "bool"
  | .int _ => "int"
  | .float _ => "float"
  | .str _ => "str"
  | .list _ => "list"
  | .dict _ => "dict"

/-- `isinstance(value, _JSON_TYPE_MAP[expected])`, apart from booleans, which are
no numbers here; an unknown name accepts everything. -/
def matchesTypeName (value : PyValue) (expected : String) : Bool :=
  match expected, value with
  | "string", .str _ => true
  | "integer", .int _ => true
  | "number", .int _ => true
  | "number", .float _ => true
  | "boolean", .bool _ => true
  | "array", .list _ => true
  | "object", .dict _ => true
  | "null", .none => true
  | expected, _ =>
    !(["string", "integer", "number", "boolean", "array", "object", "null"].contains expected)

mutual

def matchesJsonType (value : PyValue) : PyValue → Bool
  | .list expected => matchesAnyJsonType value expected
  | .str expected => matchesTypeName value expected
  | _ => true

def matchesAnyJsonType (value : PyValue) : List PyValue → Bool
  | [] => false
  | expected :: rest => matchesJsonType value expected || matchesAnyJsonType value rest

end

/-- Lists and mappings cannot be looked up in a mapping. -/
def hashable : PyValue → Bool
  | .list _ => false
  | .dict _ => false
  | _ => true

/-- `key in candidate`, for a candidate with string keys. -/
def hasKey (candidate : PyDict) (key : PyValue) : Bool :=
  match key with
  | .str name => (candidate.get? name).isSome
  | _ => false

def missingErrors (candidate : PyDict) (required : List PyValue) :
    Except JsonError (List ValidationError) :=
  if required.all hashable then
    .ok ((required.filter fun name => !hasKey candidate name).map fun name =>
      { type := "missing", loc := [name], msg := "Field required" })
  else .error (.uncaught "unhashable type")

def propertyError (runtime : ComplianceRuntime) (candidate : PyDict)
    (property : String × PyValue) : Option ValidationError :=
  match candidate.get? property.1, property.2.asDict? with
  | some actual, some fieldSchema =>
    let expected := fieldSchema.get "type"
    if expected.isNone || matchesJsonType actual expected then none
    else some
      { type := "type_error"
        loc := [.str property.1]
        msg := "Expected JSON " ++ runtime.str expected ++ ", got " ++ typeName actual }
  | _, _ => none

def checkRequiredAndTypes (runtime : ComplianceRuntime) (candidate : PyValue)
    (targetSchema : PyDict) : Except JsonError (List ValidationError) :=
  match candidate.asDict? with
  | none =>
    .ok [{ type := "type_error", loc := [.str "__root__"],
           msg := "Expected JSON object, got " ++ typeName candidate }]
  | some candidate =>
    match ((targetSchema.get? "properties").getD (.dict [])).asDict? with
    -- A malformed schema is left to the caller.
    | none => .ok []
    | some properties => do
        let required := (targetSchema.get "required").asList?.getD []
        let missing ← missingErrors candidate required
        pure (missing ++ properties.filterMap (propertyError runtime candidate))

def validateAgainstSchema (runtime : ComplianceRuntime) (candidateOutput : String)
    (targetSchema : PyDict) : Except JsonError (List ValidationError) :=
  match runtime.loads candidateOutput with
  | .error (.decode message) =>
    .ok [{ type := "json_invalid", loc := [.str "__root__"],
           msg := "Output is not valid JSON: " ++ message }]
  | .error raised => .error raised
  | .ok parsed => checkRequiredAndTypes runtime parsed targetSchema

/-! ## Repair prompt -/

structure ModelSchemaRepairResult where
  repairPrompt : String
  errorSummary : String
  repairable : Bool

section

variable (runtime : ComplianceRuntime)

def formatError (error : ValidationError) : String :=
  "  - field '" ++ " -> ".intercalate (error.loc.map runtime.str) ++ "': " ++ error.msg ++
    " (type: " ++ error.type ++ ")"

def buildErrorSummary (errors : List ValidationError) : String :=
  if errors.isEmpty then "No validation errors reported."
  else
    "\n".intercalate
      ((toString errors.length ++ " validation error(s) found:") ::
        errors.map (formatError runtime))

def escapeMarkdownFence (value : String) : String :=
  String.ofList (PyText.replaceText "```".toList "\\`\\`\\`".toList 0 value.toList)

def buildRepairPrompt (malformedOutput originalPrompt : String) (targetSchema : PyDict)
    (errorSummary : String) : String :=
  "\n".intercalate
    ["Your previous response did not conform to the required JSON schema.",
     "You must produce a corrected response that strictly validates.",
     "",
     "## Original Prompt",
     "",
     originalPrompt,
     "",
     "## Your Previous (Invalid) Response",
     "",
     "```",
     escapeMarkdownFence malformedOutput,
     "```",
     "",
     "## What Went Wrong",
     "",
     errorSummary,
     "",
     "## Required Schema",
     "",
     "Your response MUST be valid JSON that matches this schema exactly:",
     "",
     "```json",
     runtime.dumpsIndented targetSchema,
     "```",
     "",
     "## Instructions",
     "",
     "1. Output ONLY valid JSON — no prose, no markdown fences, no explanation.",
     "2. Include every required field listed in the schema.",
     "3. Do not include fields not defined in the schema.",
     "4. Correct each field listed under 'What Went Wrong' above.",
     "5. If a field value is unknown, use an appropriate empty/default value",
     "   (empty string for str, 0 for int/float, [] for arrays, \x7b\x7d for objects).",
     "",
     "Respond with corrected JSON only:"]

def schemaRepair (malformedOutput originalPrompt : String) (errors : List ValidationError)
    (targetSchema : PyDict) : ModelSchemaRepairResult :=
  let errorSummary := buildErrorSummary runtime errors
  { repairPrompt :=
      buildRepairPrompt runtime malformedOutput originalPrompt targetSchema errorSummary
    errorSummary
    repairable := decide (0 < errors.length) }

end

/-! ## Budget policy -/

inductive EnumTaskPriority where
  | low
  | normal
  | high
  | critical
deriving DecidableEq

def EnumTaskPriority.value : EnumTaskPriority → String
  | .low => "LOW"
  | .normal => "NORMAL"
  | .high => "HIGH"
  | .critical => "CRITICAL"

inductive EnumBudgetAction where
  | continue_
  | warn
  | throttle
  | abort
deriving DecidableEq

structure ModelBudgetUsage where
  tokens : ℕ
  costUsd : ℚ
  elapsedTimeS : ℚ

structure ModelBudgetPolicyResult where
  action : EnumBudgetAction
  reason : String
  dimensionsExceeded : List String

/-- The hard-abort ceiling: critical tasks may burst to 120 percent. -/
def abortMultiplier (priority : EnumTaskPriority) : ℚ :=
  if priority = .critical then 6 / 5 else 1

def abortMultiplierText (priority : EnumTaskPriority) : String :=
  if priority = .critical then "1.2" else "1.0"

def WARN_THRESHOLD : ℚ := 4 / 5

/-- The exact quotients. Those of the source are doubles, which compare with the thresholds alike
below `2 ^ 53` tokens. -/
def usageRatios (usage : ModelBudgetUsage) (limits : ModelBudgetLimits) : List (String × ℚ) :=
  [("tokens", usage.tokens / limits.maxTokens),
   ("cost_usd", usage.costUsd / limits.maxCostUsd),
   ("elapsed_time_s", usage.elapsedTimeS / limits.maxTimeS)]

def dimensionsWhere (ratios : List (String × ℚ)) (chosen : ℚ → Bool) : List String :=
  (ratios.filter fun entry => chosen entry.2).map (·.1)

def budgetPolicy (usage : ModelBudgetUsage) (limits : ModelBudgetLimits)
    (priority : EnumTaskPriority := .normal) : ModelBudgetPolicyResult :=
  let ratios := usageRatios usage limits
  let ceiling := abortMultiplier priority
  let aborted := dimensionsWhere ratios fun ratio => decide (ceiling < ratio)
  let throttled := dimensionsWhere ratios fun ratio => decide (1 ≤ ratio ∧ ratio ≤ ceiling)
  let warned := dimensionsWhere ratios fun ratio =>
    decide (WARN_THRESHOLD ≤ ratio ∧ ratio < 1)
  if !aborted.isEmpty then
    { action := .abort
      reason := "Hard limit exceeded on: " ++ ", ".intercalate aborted ++ ". Task priority=" ++
        priority.value ++ ", abort multiplier=" ++ abortMultiplierText priority ++ "."
      dimensionsExceeded := aborted ++ throttled ++ warned }
  else if !throttled.isEmpty then
    { action := .throttle
      reason := "At or above limit on: " ++ ", ".intercalate throttled ++ ". Task priority=" ++
        priority.value ++ "."
      dimensionsExceeded := throttled ++ warned }
  else if !warned.isEmpty then
    { action := .warn
      reason := "Approaching limit (>80%) on: " ++ ", ".intercalate warned ++
        ". Task priority=" ++ priority.value ++ "."
      dimensionsExceeded := warned }
  else
    { action := .continue_
      reason := "All dimensions within budget."
      dimensionsExceeded := [] }

structure ModelComplianceLoopResult where
  compliant : Bool
  validatedOutput : String
  tokensToCompliance : ℕ
  complianceAttempts : ℕ
  repairPrompt : String
  budgetAction : EnumBudgetAction
  abortReason : String

def evaluate (runtime : ComplianceRuntime) (candidateOutput schemaKey originalPrompt : String)
    (attemptNumber cumulativeTokens attemptTokens : ℕ) (limits : ModelBudgetLimits)
    (elapsedTimeS : ℚ := 0) (costUsd : ℚ := 0) (priority : EnumTaskPriority := .normal) :
    Except JsonError ModelComplianceLoopResult :=
  let runningTokens := cumulativeTokens + attemptTokens
  let stop (reason : String) : ModelComplianceLoopResult :=
    { compliant := false, validatedOutput := "", tokensToCompliance := runningTokens
      complianceAttempts := attemptNumber, repairPrompt := "", budgetAction := .abort
      abortReason := reason }
  match runtime.getSchema schemaKey with
  | none => .ok (stop ("Unknown output schema key: " ++ runtime.reprKey schemaKey))
  | some targetSchema =>
    match validateAgainstSchema runtime candidateOutput targetSchema with
    | .error raised => .error raised
    | .ok [] =>
      .ok { compliant := true, validatedOutput := candidateOutput
            tokensToCompliance := runningTokens, complianceAttempts := attemptNumber
            repairPrompt := "", budgetAction := .continue_, abortReason := "" }
    | .ok errors =>
      let repair := schemaRepair runtime candidateOutput originalPrompt errors targetSchema
      let budget := budgetPolicy
        { tokens := runningTokens, costUsd, elapsedTimeS } limits priority
      if budget.action = .abort || !repair.repairable then
        .ok (stop (if budget.action = .abort then budget.reason
          else "Schema-repair classified errors as non-repairable: " ++ repair.errorSummary))
      else
        .ok { compliant := false, validatedOutput := "", tokensToCompliance := runningTokens
              complianceAttempts := attemptNumber, repairPrompt := repair.repairPrompt
              budgetAction := budget.action, abortReason := "" }

/-! ## What an iteration decides -/

theorem buildRepairPrompt_ne_empty (runtime : ComplianceRuntime)
    (malformedOutput originalPrompt errorSummary : String) (targetSchema : PyDict) :
    buildRepairPrompt runtime malformedOutput originalPrompt targetSchema errorSummary ≠ "" := by
  intro empty
  unfold buildRepairPrompt at empty
  rw [String.intercalate_cons_cons] at empty
  have headEmpty := (String.append_eq_empty_iff.mp (String.append_eq_empty_iff.mp empty).1).1
  exact absurd headEmpty (by decide)

theorem tokenRatio_exceeds_iff (tokens : ℕ) (limits : ModelBudgetLimits) :
    (1 : ℚ) < tokens / limits.maxTokens ↔ limits.maxTokens < tokens := by
  have positive : (0 : ℚ) < limits.maxTokens := by exact_mod_cast limits.maxTokens_pos
  rw [one_lt_div positive]
  exact Nat.cast_lt

theorem budgetPolicy_abort_iff (tokens : ℕ) (limits : ModelBudgetLimits) :
    (budgetPolicy { tokens, costUsd := 0, elapsedTimeS := 0 } limits).action = .abort ↔
      limits.maxTokens < tokens := by
  rw [← tokenRatio_exceeds_iff]
  unfold budgetPolicy
  by_cases exceeded : (1 : ℚ) < tokens / limits.maxTokens
  · simp [usageRatios, dimensionsWhere, abortMultiplier, exceeded]
  · have notAborted : (dimensionsWhere
        (usageRatios { tokens, costUsd := 0, elapsedTimeS := 0 } limits)
        fun ratio => decide (abortMultiplier .normal < ratio)) = [] := by
      simp [usageRatios, dimensionsWhere, abortMultiplier, exceeded]
    simp only [notAborted, exceeded, iff_false]
    simp only [List.isEmpty_nil, Bool.not_true, Bool.false_eq_true, if_false]
    split_ifs <;> simp

/-- The loop directive that sends the workflow back for a repair. -/
def ModelComplianceLoopResult.asksRepair (result : ModelComplianceLoopResult) : Bool :=
  !(result.compliant || result.repairPrompt == "")

def SchemaRejects (runtime : ComplianceRuntime) (candidateOutput schemaKey : String) : Prop :=
  ∃ targetSchema head tail, runtime.getSchema schemaKey = some targetSchema ∧
    validateAgainstSchema runtime candidateOutput targetSchema = .ok (head :: tail)

variable {runtime : ComplianceRuntime} {candidateOutput schemaKey originalPrompt : String}
  {attemptNumber cumulativeTokens attemptTokens : ℕ} {limits : ModelBudgetLimits}
variable {result : ModelComplianceLoopResult}

section

variable (evaluated : evaluate runtime candidateOutput schemaKey originalPrompt attemptNumber cumulativeTokens attemptTokens limits = .ok result)

include evaluated

theorem evaluate_spec : result.tokensToCompliance = cumulativeTokens + attemptTokens ∧
    (result.asksRepair = true ↔ SchemaRejects runtime candidateOutput schemaKey ∧
      cumulativeTokens + attemptTokens ≤ limits.maxTokens) := by
  unfold evaluate at evaluated
  match registered : runtime.getSchema schemaKey with
  | none =>
    simp only [registered, Except.ok.injEq] at evaluated
    subst evaluated
    exact ⟨rfl, by simp [ModelComplianceLoopResult.asksRepair, SchemaRejects, registered]⟩
  | some targetSchema =>
    simp only [registered] at evaluated
    match validated : validateAgainstSchema runtime candidateOutput targetSchema with
    | .error raised => simp [validated] at evaluated
    | .ok [] =>
      simp only [validated, Except.ok.injEq] at evaluated
      subst evaluated
      refine ⟨rfl, ?_⟩
      simp [ModelComplianceLoopResult.asksRepair, SchemaRejects, registered, validated]
    | .ok (head :: tail) =>
      have rejects : SchemaRejects runtime candidateOutput schemaKey :=
        ⟨targetSchema, head, tail, registered, validated⟩
      have aborts := budgetPolicy_abort_iff (cumulativeTokens + attemptTokens) limits
      simp only [validated] at evaluated
      split at evaluated
      · rename_i stopped
        have exceeded : limits.maxTokens < cumulativeTokens + attemptTokens := by
          simpa [schemaRepair, aborts] using stopped
        cases evaluated
        exact ⟨rfl, by simp [ModelComplianceLoopResult.asksRepair, exceeded]⟩
      · rename_i goesOn
        have within : cumulativeTokens + attemptTokens ≤ limits.maxTokens := by
          simpa [schemaRepair, aborts] using goesOn
        cases evaluated
        have nonempty := buildRepairPrompt_ne_empty runtime candidateOutput originalPrompt
          (buildErrorSummary runtime (head :: tail)) targetSchema
        refine ⟨rfl, ?_⟩
        simpa [ModelComplianceLoopResult.asksRepair, schemaRepair, nonempty, rejects]
          using within

end

theorem evaluate_raises {raised : JsonError}
    (raises : evaluate runtime candidateOutput schemaKey originalPrompt attemptNumber
      cumulativeTokens attemptTokens limits = .error raised) :
    ¬ SchemaRejects runtime candidateOutput schemaKey := by
  rintro ⟨targetSchema, head, tail, registered, validated⟩
  unfold evaluate at raises
  simp only [registered, validated] at raises
  split at raises
  · cases raises
  · cases raises

end OmniMarket
