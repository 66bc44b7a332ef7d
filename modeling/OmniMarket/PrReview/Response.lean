import OmniMarket.Lib.PyValue
import OmniMarket.Lib.Regex
import Mathlib

/-!
# Answers of the models

What a reviewer's and a judge's text parse to. `json.loads`, `str`, `str.upper` and the text of a
validation error are parameters.
-/

namespace OmniMarket.PrReview

open Regex Regex.Pattern

structure ReviewEnv where
  unicode : UnicodeTable
  /-- `text.upper()`. -/
  upper : String → String
  /-- `str(v)`. -/
  str : PyValue → String
  loads : String → Loaded
  /-- The text of a `ValidationError` of a model over these values. -/
  validationText : String → List PyValue → String

variable (env : ReviewEnv)

/-! ## Findings -/

inductive EnumFindingCategory
  | security
  | logicError
  | integration
  | scopeViolation
  | contractBreach
  | style
  | informational
deriving DecidableEq

def EnumFindingCategory.value : EnumFindingCategory → String
  | .security => "security"
  | .logicError => "logic_error"
  | .integration => "integration"
  | .scopeViolation => "scope_violation"
  | .contractBreach => "contract_breach"
  | .style => "style"
  | .informational => "informational"

inductive EnumFindingSeverity
  | critical
  | major
  | minor
  | nit
deriving DecidableEq

def EnumFindingSeverity.value : EnumFindingSeverity → String
  | .critical => "critical"
  | .major => "major"
  | .minor => "minor"
  | .nit => "nit"

inductive EnumReviewConfidence
  | high
  | medium
  | low
deriving DecidableEq

def CATEGORY_MAP : List (String × EnumFindingCategory) :=
  [("security", .security), ("logic_error", .logicError), ("logic_errors", .logicError),
    ("correctness", .logicError), ("integration", .integration),
    ("scope_violation", .scopeViolation), ("scope_violations", .scopeViolation),
    ("contract_breach", .contractBreach), ("style", .style), ("informational", .informational),
    ("architecture", .integration), ("performance", .logicError),
    ("completeness", .scopeViolation), ("feasibility", .integration),
    ("testing", .scopeViolation)]

def SEVERITY_MAP : List (String × EnumFindingSeverity) :=
  [("critical", .critical), ("major", .major), ("minor", .minor), ("nit", .nit)]

def CONFIDENCE_MAP : List (String × EnumReviewConfidence) :=
  [("high", .high), ("medium", .medium), ("low", .low)]

structure ModelReviewFinding where
  id : String
  category : EnumFindingCategory
  severity : EnumFindingSeverity
  title : String
  description : String
  filePath : Option String
  codeSnippet : Option String
  confidence : EnumReviewConfidence
  sourceModel : String
  detectionMethod : String
deriving DecidableEq

inductive EnumParseStatus
  | success
  | formatFailure
deriving DecidableEq

structure ModelParseResult where
  status : EnumParseStatus
  findings : List ModelReviewFinding
  errorMessage : String
  rawLength : ℕ
deriving DecidableEq

/-! ## The array in an answer -/

def lineFeed : Pattern := one false (CharSet.single '\n')

def FENCE_RE : Pattern :=
  sequence [literal false "```", optional (literal false "json"),
    star true (one false CharSet.space), optional lineFeed,
    group (star false (one false CharSet.any)), optional lineFeed,
    star true (one false CharSet.space), literal false "```"]

def stripMarkdownFences (text : String) : String :=
  let text := PyText.stripString text
  match (FENCE_RE.findGroups env.unicode text.toList).head? with
  | some groups => PyText.stripString (String.ofList (groups.headD []))
  | none => text

def closedBracket (depth : ℤ) (inString escapeNext : Bool) : List Char → Option (List Char)
  | [] => none
  | ch :: rest =>
    if escapeNext then (closedBracket depth inString false rest).map (ch :: ·)
    else if ch == '\\' && inString then (closedBracket depth inString true rest).map (ch :: ·)
    else if ch == '"' then (closedBracket depth (!inString) false rest).map (ch :: ·)
    else if inString then (closedBracket depth true false rest).map (ch :: ·)
    else if ch == '[' then (closedBracket (depth + 1) false false rest).map (ch :: ·)
    else if ch == ']' then
      if depth - 1 = 0 then some [ch]
      else (closedBracket (depth - 1) false false rest).map (ch :: ·)
    else (closedBracket depth false false rest).map (ch :: ·)

def extractBracketed (text : String) : Except String (Option (List PyValue)) :=
  match closedBracket 0 false false (text.toList.dropWhile (· != '[')) with
  | none => .ok none
  | some bracketed =>
    match env.loads (String.ofList bracketed) with
    | .value value => .ok value.asList?
    | .malformed _ => .ok none
    | .raised raised => .error raised

def extractJsonArray (text : String) : Except String (Option (List PyValue)) :=
  let text := stripMarkdownFences env text
  match env.loads text with
  | .value (.list items) => .ok (some items)
  | .value (.dict entries) => .ok ((PyDict.get? entries "findings").bind PyValue.asList?)
  | .value _ => .ok none
  | .malformed _ => extractBracketed env text
  | .raised raised => .error raised

/-! ## Normalization -/

/-- `text[:n]`. -/
def prefixText (n : ℕ) (text : String) : String := String.ofList (text.toList.take n)

/-- `first or second` of two values. -/
def valueOr (first second : PyValue) : PyValue := if first.truthy then first else second

/-- A field of type `str | None`. -/
def optionalText (model : String) (fields : List PyValue) :
    PyValue → Except String (Option String)
  | .str text => .ok (some text)
  | .none => .ok none
  | _ => .error (env.validationText model fields)

/-- `str(raw.get(key, fallback)).lower()` looked up in a table. -/
def lookupField {α : Type} (table : List (String × α)) (fallback : α) (raw : PyDict)
    (key defaultText : String) : α :=
  let text := env.str ((raw.get? key).getD (.str defaultText))
  (table.lookup (String.ofList (PyText.lowerString env.unicode text))).getD fallback

def titleOf (raw : PyDict) (desc : String) : String :=
  match (raw.get? "title").getD (.str (prefixText 80 desc)) with
  | .str title => if PyText.stripString title = "" then prefixText 80 desc else title
  | _ => prefixText 80 desc

def normalizeFinding (id : String) (raw : PyDict) (sourceModel : String) :
    Except String (Option ModelReviewFinding) :=
  match (raw.get? "description").getD (.str "") with
  | .str desc =>
    if PyText.stripString desc = "" then .ok none
    else do
      let location := valueOr (raw.get "location") (raw.get "file_path")
      let snippet := valueOr (raw.get "evidence") (raw.get "code_snippet")
      let filePath ← optionalText env "ModelFindingEvidence" [location, snippet] location
      let codeSnippet ← optionalText env "ModelFindingEvidence" [location, snippet] snippet
      let detection :=
        valueOr (valueOr ((raw.get? "detection_method").getD (.str ""))
          ((raw.get? "detection").getD (.str ""))) (.str "")
      return some
        { id := id
          category := lookupField env CATEGORY_MAP .informational raw "category" "informational"
          severity := lookupField env SEVERITY_MAP .minor raw "severity" "minor"
          title := prefixText 120 (titleOf raw desc)
          description := prefixText 500 desc
          filePath := filePath
          codeSnippet := codeSnippet
          confidence := lookupField env CONFIDENCE_MAP .medium raw "confidence" "medium"
          sourceModel := sourceModel
          detectionMethod := env.str detection }
  | _ => .ok none

def normalizeItems (newId : ℕ → String) (sourceModel : String) (index : ℕ) :
    List PyValue → Except String (List ModelReviewFinding)
  | [] => .ok []
  | .dict raw :: rest => do
      let finding ← normalizeFinding env (newId index) raw sourceModel
      let findings ← normalizeItems newId sourceModel (index + 1) rest
      return finding.toList ++ findings
  | _ :: rest => normalizeItems newId sourceModel (index + 1) rest

def parseModelResponse (newId : ℕ → String) (rawText sourceModel : String) :
    Except String ModelParseResult :=
  if PyText.stripString rawText = "" then
    .ok { status := .success, findings := [], errorMessage := "", rawLength := 0 }
  else do
    match ← extractJsonArray env rawText with
    | none =>
      return {
        status := .formatFailure
        findings := []
        errorMessage := "Could not extract JSON array from response"
        rawLength := rawText.length }
    | some rawArray =>
      let findings ← normalizeItems env newId sourceModel 0 rawArray
      return {
        status := .success
        findings := findings
        errorMessage := ""
        rawLength := rawText.length }

/-! ## The judge -/

structure ModelJudgeParseResult where
  passed : Bool
  reasoning : String

def typeName : PyValue → String
  | .none => "NoneType"
  | .bool _ => "bool"
  | .int _ => "int"
  | .float _ => "float"
  | .str _ => "str"
  | .list _ => "list"
  | .dict _ => "dict"

def dropFence (cleaned : String) : String :=
  if "```".toList.isPrefixOf cleaned.toList then
    let lines := PyText.splitLines cleaned.toList
    let closed := (lines.getLast?.map fun line => "```".toList.isPrefixOf line).getD false
    let kept := if closed then lines.tail.dropLast else lines.tail
    String.ofList (['\n'].intercalate kept)
  else cleaned

def malformedJudge (parseError : String) : ModelJudgeParseResult where
  passed := false
  reasoning := "Judge model returned malformed JSON (parse error: " ++ parseError ++
    "). Treating as FAIL."

/-- `parse_judge_response`: only an explicit PASS passes. -/
def parseJudgeResponse (raw : String) : Except String ModelJudgeParseResult :=
  match env.loads (dropFence (PyText.stripString raw)) with
  | .malformed parseError => .ok (malformedJudge parseError)
  | .raised raised => .error raised
  | .value (.dict data) =>
    let verdict := env.upper (env.str ((PyDict.get? data "verdict").getD (.str "")))
    let reasoning :=
      env.str ((PyDict.get? data "reasoning").getD (.str "No reasoning provided."))
    if verdict ≠ "PASS" ∧ verdict ≠ "FAIL" then
      .ok { passed := false
            reasoning := "Judge returned unknown verdict " ++
              PyText.reprString env.unicode verdict ++ ". Treating as FAIL." }
    else if reasoning = "" then
      .error (env.validationText "ModelJudgeParseResult" [.bool (verdict == "PASS"), .str ""])
    else .ok { passed := verdict == "PASS", reasoning := reasoning }
  | .value other =>
    .ok (malformedJudge ("'" ++ typeName other ++ "' object has no attribute 'get'"))

end OmniMarket.PrReview
