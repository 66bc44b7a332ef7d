import OmniMarket.Lib.GreedyGroups
import OmniMarket.Lib.OrderedDict
import OmniMarket.Lib.PyText
import OmniMarket.Lib.PyValue

/-!
# The finding aggregator

Raw findings are taken in the order of their sources. A finding without a required field is
skipped; any other is converted field by field, joins the first cluster of its file and rule whose
message is similar enough, or starts a cluster. The clusters become the merged findings, with a
score from the weights of their models.

Floating-point numbers are what their operations are: the model is over any type with the
operations that the handler uses.
-/

namespace OmniMarket.FindingAggregator

open GreedyGroups PyText

structure FloatOps (F : Type) where
  zero : F
  one : F
  ofNat : ℕ → F
  add : F → F → F
  sub : F → F → F
  div : F → F → F
  /-- `sum(values)`. -/
  sum : List F → F
  lt : F → F → Bool
  le : F → F → Bool

structure FindingText where
  unicode : UnicodeTable
  /-- `str(value)` of a value that is no string; `none` is a `ValueError`. -/
  str : PyValue → Option String
  /-- `int(text)`; `none` is a `ValueError`. -/
  int : String → Option ℤ

/-! ## Models -/

structure ModelFindingAggregatorConfig (F : Type) where
  jaccardThreshold : F
  modelWeights : OrderedDict String F
  severityPromotesOnConflict : Bool

structure ModelSourceFindings where
  modelName : NonEmptyString
  findings : List PyDict

structure ModelFindingAggregatorInput (F : Type) where
  correlationId : Uuid
  sources : List ModelSourceFindings
  someSource : sources ≠ []
  config : ModelFindingAggregatorConfig F

inductive EnumAggregatedVerdict where
  | clean
  | risksNoted
  | blockingIssue

structure ModelAggregatedFinding (F : Type) where
  ruleId : String
  filePath : String
  lineStart : ℤ
  lineEnd : Option ℤ
  severity : String
  normalizedMessage : String
  sourceModels : List String
  weightedScore : F
  mergedCount : ℕ

structure ModelFindingAggregatorOutput (F : Type) where
  correlationId : Uuid
  verdict : EnumAggregatedVerdict
  mergedFindings : List (ModelAggregatedFinding F)
  totalInputFindings : ℕ
  totalMergedFindings : ℕ
  totalDuplicatesRemoved : ℕ
  sourceModelCount : ℕ

section

variable {F : Type} (ops : FloatOps F) (text : FindingText)

/-! ## Fields of a finding -/

structure FindingFields where
  ruleId : String
  filePath : String
  lineStart : ℤ
  lineEnd : Option ℤ
  severity : String
  normalizedMessage : String

/-- `str(value)`. -/
def strOf : PyValue → Option String
  | .str value => some value
  | value => text.str value

/-- `int(str(value))`. -/
def intOf (value : PyValue) : Option ℤ := (strOf text value).bind text.int

def requiredFields : List String :=
  ["rule_id", "file_path", "line_start", "severity", "normalized_message"]

def hasRequired (raw : PyDict) : Bool := requiredFields.all fun field => (raw.get? field).isSome

/-- `int(str(raw["line_end"])) if raw.get("line_end") is not None else None`. -/
def lineEndOf (raw : PyDict) : Option (Option ℤ) :=
  if (raw.get "line_end").isNone then some none else (intOf text (raw.get "line_end")).map some

/-- The conversions of a finding with its required fields; `none` is a `ValueError`. -/
def convertFields (raw : PyDict) : Option FindingFields := do
  let ruleId ← strOf text (raw.get "rule_id")
  let filePath ← strOf text (raw.get "file_path")
  let lineStart ← intOf text (raw.get "line_start")
  let lineEnd ← lineEndOf text raw
  let severity ← strOf text (raw.get "severity")
  let normalizedMessage ← strOf text (raw.get "normalized_message")
  some ⟨ruleId, filePath, lineStart, lineEnd,
    String.ofList (lowerString text.unicode severity), normalizedMessage⟩

/-- `_extract_finding_fields`; the outer `none` is a `ValueError`. -/
def extractFindingFields (raw : PyDict) : Option (Option FindingFields) :=
  if hasRequired raw then (convertFields text raw).map some else some none

/-! ## Severities and tokens -/

def severityOrder : List (String × ℕ) := [("hint", 0), ("info", 1), ("warning", 2), ("error", 3)]

/-- `_SEVERITY_ORDER.get(severity, 0)`. -/
def severityRank (severity : String) : ℕ := (severityOrder.lookup severity).getD 0

def higherSeverity (a b : String) : String := if severityRank b ≤ severityRank a then a else b

def tokenize (message : String) : List (List Char) :=
  (splitWords (lowerString text.unicode message)).dedup

def jaccardSimilarity (a b : List (List Char)) : F :=
  if a.isEmpty && b.isEmpty then ops.one
  else if a.isEmpty || b.isEmpty then ops.zero
  else ops.div (ops.ofNat (a.filter (· ∈ b)).length) (ops.ofNat (a ∪ b).length)

/-! ## Clusters -/

structure FindingCluster where
  ruleId : String
  filePath : String
  lineStart : ℤ
  lineEnd : Option ℤ
  severity : String
  normalizedMessage : String
  tokens : List (List Char)
  sourceModels : List String
  mergedCount : ℕ

/-- `_FindingCluster(fields, model_name)`. -/
def newCluster (fields : FindingFields) (modelName : String) : FindingCluster where
  ruleId := fields.ruleId
  filePath := fields.filePath
  lineStart := fields.lineStart
  lineEnd := fields.lineEnd
  severity := fields.severity
  normalizedMessage := fields.normalizedMessage
  tokens := tokenize text fields.normalizedMessage
  sourceModels := [modelName]
  mergedCount := 1

def FindingCluster.matchesFields (cluster : FindingCluster) (fields : FindingFields)
    (tokens : List (List Char)) (threshold : F) : Bool :=
  if fields.filePath ≠ cluster.filePath then false
  else if fields.ruleId ≠ cluster.ruleId then false
  else ops.le threshold (jaccardSimilarity ops cluster.tokens tokens)

def FindingCluster.merge (cluster : FindingCluster) (fields : FindingFields) (modelName : String)
    (severityPromotes : Bool) : FindingCluster :=
  { cluster with
    mergedCount := cluster.mergedCount + 1
    sourceModels :=
      if modelName ∈ cluster.sourceModels then cluster.sourceModels
      else cluster.sourceModels ++ [modelName]
    severity :=
      if severityPromotes then higherSeverity cluster.severity fields.severity
      else cluster.severity }

/-- A finding with the model that reported it. -/
abbrev Attributed := String × FindingFields

def mergeFinding (config : ModelFindingAggregatorConfig F) (clusters : List FindingCluster)
    (finding : Attributed) : List FindingCluster :=
  let tokens := tokenize text finding.2.normalizedMessage
  settle (fun cluster => cluster.matchesFields ops finding.2 tokens config.jaccardThreshold)
    (fun cluster => cluster.merge finding.2 finding.1 config.severityPromotesOnConflict)
    (newCluster text finding.2 finding.1) clusters

structure Progress where
  clusters : List FindingCluster := []
  totalInput : ℕ := 0
  skipped : ℕ := 0

/-- The loop over the raw findings; `none` is an exception. -/
def aggregate (config : ModelFindingAggregatorConfig F) (progress : Progress) :
    List (String × PyDict) → Option Progress
  | [] => some progress
  | (modelName, raw) :: rest =>
    match extractFindingFields text raw with
    | none => none
    | some none =>
      aggregate config
        { progress with
          totalInput := progress.totalInput + 1
          skipped := progress.skipped + 1 } rest
    | some (some fields) =>
      aggregate config
        { progress with
          totalInput := progress.totalInput + 1
          clusters := mergeFinding ops text config progress.clusters (modelName, fields) } rest

def rawFindings (sources : List ModelSourceFindings) : List (String × PyDict) :=
  sources.flatMap fun source => source.findings.map fun raw => (source.modelName.value, raw)

/-! ## Weights -/

/-- `max(0.0, value)`. -/
def maxZero (value : F) : F := if ops.lt ops.zero value then value else ops.zero

/-- `min(1.0, value)`. -/
def minOne (value : F) : F := if ops.lt value ops.one then value else ops.one

/-- `{name: value for …}` over names in order. -/
def assignAll (value : String → F) (dict : OrderedDict String F) (names : List String) :
    OrderedDict String F :=
  names.foldl (fun dict name => dict.set name (value name)) dict

def computeModelWeights (sources : List ModelSourceFindings)
    (configuredWeights : OrderedDict String F) : OrderedDict String F :=
  let modelNames := sources.map fun source => source.modelName.value
  let n := modelNames.length
  let equal := ops.div ops.one (ops.ofNat n)
  if configuredWeights.entries.isEmpty then assignAll (fun _ => equal) .empty modelNames
  else
    let configured := modelNames.filter fun name => (configuredWeights.get? name).isSome
    let unconfigured := modelNames.filter fun name => (configuredWeights.get? name).isNone
    let weightOf := fun name => (configuredWeights.get? name).getD ops.zero
    let totalConfigured := configured.foldl (fun total name => ops.add total (weightOf name))
      ops.zero
    let weights := assignAll weightOf .empty configured
    let remaining := maxZero ops (ops.sub ops.one totalConfigured)
    let perModel :=
      if ops.lt ops.zero remaining then ops.div remaining (ops.ofNat unconfigured.length)
      else equal
    let weights := assignAll (fun _ => perModel) weights unconfigured
    let total := ops.sum weights.values
    if ops.lt ops.zero total then weights.mapValues fun weight => ops.div weight total else weights

def computeWeightedScore (sourceModels : List String) (modelWeights : OrderedDict String F) : F :=
  minOne ops (ops.sum (sourceModels.map fun name => (modelWeights.get? name).getD ops.zero))

/-! ## The result -/

/-- `ModelAggregatedFinding(...)` of a cluster; `none` is a `ValidationError`. -/
def aggregatedFinding (modelWeights : OrderedDict String F) (cluster : FindingCluster) :
    Option (ModelAggregatedFinding F) :=
  let score := computeWeightedScore ops cluster.sourceModels modelWeights
  if cluster.ruleId ≠ "" ∧ cluster.filePath ≠ "" ∧ 0 < cluster.lineStart ∧
      cluster.normalizedMessage ≠ "" ∧ cluster.sourceModels ≠ [] ∧
      ops.le ops.zero score = true ∧ ops.le score ops.one = true ∧ 1 ≤ cluster.mergedCount then
    some
      { ruleId := cluster.ruleId
        filePath := cluster.filePath
        lineStart := cluster.lineStart
        lineEnd := cluster.lineEnd
        severity := cluster.severity
        normalizedMessage := cluster.normalizedMessage
        sourceModels := cluster.sourceModels
        weightedScore := score
        mergedCount := cluster.mergedCount }
  else none

def determineVerdict (findings : List (ModelAggregatedFinding F)) : EnumAggregatedVerdict :=
  if findings.isEmpty then .clean
  else if findings.any fun finding => finding.severity = "error" then .blockingIssue
  else .risksNoted

/-- `HandlerFindingAggregator.handle`; `none` is an exception. -/
def handle (request : ModelFindingAggregatorInput F) :
    Option (ModelFindingAggregatorOutput F) := do
  let modelWeights := computeModelWeights ops request.sources request.config.modelWeights
  let progress ← aggregate ops text request.config {} (rawFindings request.sources)
  let mergedFindings ← progress.clusters.mapM (aggregatedFinding ops modelWeights)
  some
    { correlationId := request.correlationId
      verdict := determineVerdict mergedFindings
      mergedFindings := mergedFindings
      totalInputFindings := progress.totalInput
      totalMergedFindings := mergedFindings.length
      totalDuplicatesRemoved := progress.totalInput - mergedFindings.length - progress.skipped
      sourceModelCount := request.sources.length }

end

end OmniMarket.FindingAggregator
