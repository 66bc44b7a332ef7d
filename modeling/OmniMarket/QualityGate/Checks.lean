import OmniMarket.Lib.Regex
import OmniMarket.Lib.PyValue
import OmniMarket.Lib.Search

/-!
# Quality-gate checks

The single checks of the quality gate. Each takes the response without its thinking
traces and returns the reason for which it fails, if any. The Python, YAML and JSON
parsers, the hashes and the schema validator are parameters.
-/

namespace OmniMarket.QualityGate

open Regex Regex.Pattern

/-! ## Parameters -/

inductive ParserError where
  /-- The error that the check catches: `SyntaxError`, `YAMLError`, `JSONDecodeError`. -/
  | invalid (message : String)
  /-- Any other exception. -/
  | uncaught (message : String)

/-- What `delta` raises. -/
inductive GateError where
  | parser (message : String)
  /-- `int()` of a text with more digits than the interpreter converts. -/
  | digitLimit
  /-- The response contract is no JSON schema. -/
  | schema (message : String)

structure SchemaError where
  path : List String
  message : String

/-- What the gate uses of the standard library and of its packages. -/
structure GateRuntime where
  unicode : UnicodeTable
  /-- `ast.parse`. -/
  astParse : String → Except ParserError Unit
  /-- `yaml.safe_load`. -/
  yamlSafeLoad : String → Except ParserError Unit
  /-- `json.loads`. -/
  jsonLoads : String → Except ParserError PyValue
  /-- `json.dumps(value, sort_keys=True, separators=(",", ":"))`. -/
  dumpsStable : PyDict → String
  /-- `hashlib.sha256(text.encode()).hexdigest()`. -/
  sha256Hex : String → String
  /-- `validator.iter_errors(candidate)` after `check_schema`. -/
  schemaErrors : PyValue → PyDict → Except GateError (List SchemaError)

variable (rt : GateRuntime)

/-! ## Patterns -/

def THINKING_TRACE_RE : Pattern :=
  sequence
    [literal false "<think>", star false (one false CharSet.any), literal false "</think>",
     star true (one false CharSet.space)]

/-- From the opening fence to the line that follows its info string. -/
def fenceLineEnd : List Pattern :=
  [star true (one false (CharSet.except (CharSet.anyOf "\r\n"))), optional (literal false "\r"),
   literal false "\n"]

def fenceBody : List Pattern :=
  [group (star false (one false CharSet.any)), literal false "```"]

def MARKDOWN_FENCE_RE : Pattern :=
  sequence ([literal false "```"] ++ fenceLineEnd ++ fenceBody)

def langChar : CharSet := CharSet.either CharSet.letter (CharSet.anyOf "0123456789_-")

def MARKDOWN_FENCE_WITH_LANG_RE : Pattern :=
  sequence
    ([literal false "```", group (star true (one false langChar))] ++ fenceLineEnd ++ fenceBody)

def digits : Pattern := plus (one false CharSet.digit)

def nonzeroDigit : CharSet := CharSet.within '1' '9'

def MIN_LENGTH_CHECK_RE : Pattern :=
  sequence [start, literal false "min_length_chars_", group digits, finish]

def MAX_WORDS_PER_SENTENCE_RE : Pattern :=
  sequence
    [start, literal false "max_words_per_sentence_",
     group (seq (one false nonzeroDigit) (star true (one false CharSet.digit))), finish]

def spaces : Pattern := star true (one true CharSet.space)

def someSpaces : Pattern := plus (one true CharSet.space)

def LINE_CITATION_RE : Pattern :=
  oneOf
    [sequence [wordBoundary, literal true "line", someSpaces, digits, wordBoundary],
     sequence [wordBoundary, literal true "lines", someSpaces, digits,
       optional (seq (literal true "-") digits), wordBoundary],
     sequence [wordBoundary, literal true "L", digits, wordBoundary],
     sequence [literal true ":", one true nonzeroDigit, star true (one true CharSet.digit)]]

def wordStart (word : String) : Pattern := seq wordBoundary (literal true word)

def authorName : Pattern :=
  seq (one true (CharSet.within 'A' 'Z'))
    (plus (one true (CharSet.either CharSet.letter (CharSet.anyOf ".'-"))))

def authorYear : Pattern :=
  sequence
    [literal true "(", spaces, authorName,
     optional (sequence [someSpaces,
       oneOf [sequence [literal true "et", someSpaces, literal true "al",
                optional (literal true ".")],
              literal true "and", literal true "&"],
       someSpaces, authorName]),
     spaces, optional (literal true ","), spaces,
     sequence (List.replicate 4 (one true CharSet.digit)),
     optional (one true (CharSet.within 'a' 'z')), spaces, literal true ")"]

def SOURCE_CITATION_RE : Pattern :=
  oneOf
    [sequence [wordStart "reference", optional (literal true "s"), wordBoundary],
     sequence [wordStart "citation", optional (literal true "s"), wordBoundary],
     wordStart "bibliograph",
     sequence [wordStart "source", optional (literal true "s"), wordBoundary],
     sequence [wordStart "see", someSpaces,
       oneOf (["also", "section", "chapter", "appendix", "figure", "table", "eq"].map
         (literal true))],
     sequence [wordStart "according", someSpaces, literal true "to", wordBoundary],
     sequence [wordStart "as", someSpaces, literal true "shown", someSpaces, literal true "in",
       wordBoundary],
     sequence [wordStart "cf.", one true CharSet.space],
     sequence [wordStart "per", someSpaces, literal true "["],
     sequence [wordBoundary,
       oneOf (["theorem", "lemma", "corollary", "proposition", "proof", "equation", "figure",
         "table", "appendix", "chapter", "section", "page"].map (literal true)),
       someSpaces, one true CharSet.digit],
     sequence [literal true "[", spaces, digits, spaces, literal true "]"],
     authorYear,
     sequence [literal true "http", optional (literal true "s"), literal true "://",
       one true (CharSet.except CharSet.space)],
     sequence [wordStart "doi:", spaces, one true (CharSet.except CharSet.space)]]

def SENTENCE_RE : Pattern :=
  seq (plus (one false (CharSet.except (CharSet.anyOf ".!?")))) (one false (CharSet.anyOf ".!?"))

def LEADING_ERROR_RE : Pattern :=
  sequence [notAfter true CharSet.letter, literal true "error", spaces, literal true ":"]

/-! ## Text helpers -/

section

variable (content : List Char)

def stripThinkingTraces : List Char :=
  THINKING_TRACE_RE.removeAll rt.unicode content

/-- `"\n".join(lines)`. -/
def joinLines (lines : List (List Char)) : List Char := ['\n'].intercalate lines

section

variable (text : List Char)

def startsWith (opening : String) : Bool := opening.toList.isPrefixOf text

/-- The body of a response that is one fenced block, or the response itself. -/
def stripMarkdownCodeFence : List Char :=
  let stripped := PyText.strip content
  if !startsWith stripped "```" then content
  else
    let lines := PyText.splitLines stripped
    if 2 ≤ lines.length ∧ (lines.getLast?.map PyText.strip) = some "```".toList then
      joinLines (lines.drop 1).dropLast
    else content

def extractFencedCodeBlocks : List (List Char) :=
  (MARKDOWN_FENCE_RE.findGroups rt.unicode content).filterMap List.head?

def extractFencedCodeBlocksWithLang : List (String × String) :=
  (MARKDOWN_FENCE_WITH_LANG_RE.findGroups rt.unicode content).filterMap fun
    | [lang, body] => some (String.ofList (rt.unicode.lower lang), String.ofList body)
    | _ => none

def removeFencedCodeBlocks : List Char :=
  PyText.strip (MARKDOWN_FENCE_RE.removeAll rt.unicode content)

def containsString (needle : String) : Bool :=
  PyText.containsText needle.toList text

def detected (phrases : List String) : List String :=
  phrases.filter (containsString text)

def sentences : List (List Char) :=
  (SENTENCE_RE.findTexts rt.unicode content).map PyText.strip

/-- The digits that `int()` converts at most. -/
def MAX_STR_DIGITS : ℕ := 4300

/-- `int(text)` of a non-empty text of decimal digits. -/
def intOfDigits : Except GateError ℕ :=
  if MAX_STR_DIGITS < text.length then .error .digitLimit
  else .ok (text.foldl (fun value c => 10 * value + rt.unicode.decimalValue c) 0)

/-- The number in the name of a parametric check, when the name has that form. -/
def checkParameter (pattern : Pattern) (check : String) : Option (List Char) :=
  (pattern.match? rt.unicode check.toList).map fun found => found.groups.head?.getD []

/-! ## Structural checks -/

def checkOutputParses : Option String :=
  let stripped := PyText.strip content
  if stripped.isEmpty then some "MALFORMED: empty response fails output_parses"
  else if startsWith (rt.unicode.lower ((PyText.splitLines stripped).head?.getD []))
      "traceback" then
    some "MALFORMED: bare traceback fails output_parses"
  else none

/-- Whether the last character is one of `tokens`. -/
def endsWithAny (tokens : String) : Bool :=
  text.getLast?.elim false tokens.toList.contains

end

def checkSignaturePreserved : Option String :=
  if endsWithAny (PyText.rstrip content) "(,=[\x7b" then
    some "MALFORMED: response truncated mid-token fails signature_preserved"
  else none

end

def REFUSAL_PHRASES : List String :=
  ["i cannot", "i'm sorry", "as an ai", "traceback", "cannot be fulfilled",
   "cannot be completed", "unable to complete", "unable to fulfill", "unable to process",
   "not able to", "not possible", "i refuse", "i will not", "i won't", "i am unable",
   "i'm unable", "this is not something", "that is not something",
   "i don't have the ability", "i do not have the ability", "cannot assist", "can't assist"]

def REFUSAL_SHORT_WORD_THRESHOLD : ℕ := 5

def NEGATION_TOKENS : List String :=
  ["no", "nope", "nah", "n/a", "na", "none", "never", "nothing", "not", "cannot", "cant",
   "impossible", "unavailable", "unknown", "undefined", "null", "nil", "void", "false",
   "negative", "declined", "denied", "refused", "skip", "skipped"]

/-- The punctuation that is stripped off a word. -/
def SURROUNDING_PUNCTUATION : List Char := ".,;:!?\"'()[]\x7b\x7d`-".toList

def normalizedToken (word : List Char) : String :=
  String.ofList (PyText.stripChars SURROUNDING_PUNCTUATION (rt.unicode.lower word))

/-- A response of at most five words, each a negation or mere punctuation. -/
def contentFree (stripped : List Char) : Option String :=
  let words := PyText.splitWords stripped
  let tokens := words.map (normalizedToken rt)
  if 0 < words.length ∧ words.length ≤ REFUSAL_SHORT_WORD_THRESHOLD ∧
      tokens.all (fun token => token.isEmpty || NEGATION_TOKENS.contains token) then
    some ("REFUSAL: ultra-short content-free response (no task content): " ++
      PyText.reprString rt.unicode (" ".intercalate tokens))
  else none

section

variable (content : List Char)

def checkNoRefusal : Option String :=
  let stripped := PyText.strip content
  match contentFree rt stripped with
  | some reason => some reason
  | none =>
    let first200 := rt.unicode.lower (stripped.take 200)
    let phrases := detected first200 REFUSAL_PHRASES ++
      if LEADING_ERROR_RE.search rt.unicode first200 then ["error:"] else []
    if phrases.isEmpty then none
    else some ("REFUSAL: detected refusal phrases: " ++ ", ".intercalate phrases)

def checkMinLength (threshold : ℕ) : Option String :=
  if content.length < threshold then
    some s!"WEAK_OUTPUT: response length {content.length} below minimum {threshold}"
  else none

/-! ## Completeness of the answer -/

def TRUNCATION_TRAILING_TOKENS : String := "(,=[\x7b-:;"

def TERMINAL_PUNCTUATION : String := ".!?\"')]\x7d`"

/-- Function words that a complete answer does not end on. -/
def DANGLING_TRAILING_WORDS : List String :=
  ["a", "an", "the", "and", "or", "but", "nor", "so", "yet", "for", "of", "to", "in", "on",
   "at", "by", "with", "from", "as", "is", "are", "was", "were", "be", "been", "that", "which",
   "this", "these", "those", "if", "when", "while", "because", "into", "onto", "than", "then"]

def holdsArtifact (stripped : List Char) : Bool :=
  !(extractFencedCodeBlocks rt content).isEmpty || containsString stripped "\"\"\"" ||
    containsString stripped "'''"

def checkSemanticAdequacy : Option String :=
  let stripped := PyText.strip content
  if stripped.isEmpty then some "WEAK_OUTPUT: response is empty, fails semantic_adequacy"
  else if endsWithAny stripped TRUNCATION_TRAILING_TOKENS then
    some "WEAK_OUTPUT: response truncated mid-token, fails semantic_adequacy"
  else if holdsArtifact rt content stripped then none
  else if endsWithAny stripped TERMINAL_PUNCTUATION then none
  else
    let words := PyText.splitWords stripped
    let lastWord := normalizedToken rt (words.getLast?.getD [])
    if DANGLING_TRAILING_WORDS.contains lastWord then
      some ("WEAK_OUTPUT: response truncated mid-clause (ends on '" ++ lastWord ++
        "'), fails semantic_adequacy")
    else if words.length < 2 then
      some "WEAK_OUTPUT: response is a bare single-word fragment, fails semantic_adequacy"
    else none

/-! ## Artifacts -/

/-- The verdict of a parser on an artifact of a declared language. -/
def parseReason {α : Type} (language : String) :
    Except ParserError α → Except GateError (Option String)
  | .ok _ => .ok none
  | .error (.invalid message) =>
    .ok (some ("MALFORMED: response does not compile as " ++ language ++ ": " ++ message))
  | .error (.uncaught message) => .error (.parser message)

def YAML_FENCE_LANG_TAGS : List String := ["yaml", "yml"]

def JSON_FENCE_LANG_TAGS : List String := ["json"]

def checkBlock (block : String × String) : Except GateError (Option String) :=
  if YAML_FENCE_LANG_TAGS.contains block.1 then parseReason "YAML" (rt.yamlSafeLoad block.2)
  else if JSON_FENCE_LANG_TAGS.contains block.1 then parseReason "JSON" (rt.jsonLoads block.2)
  else parseReason "Python" (rt.astParse block.2)

def checkCompilesWithoutErrors : Except GateError (Option String) :=
  match extractFencedCodeBlocksWithLang rt content with
  | [] => parseReason "Python" (rt.astParse (String.ofList (stripMarkdownCodeFence content)))
  | blocks => blocks.findSomeM? (checkBlock rt)

def checkFinalArtifactOnly : Option String :=
  if !(extractFencedCodeBlocks rt content).isEmpty &&
      !(removeFencedCodeBlocks rt content).isEmpty then
    some "TASK_MISMATCH: response includes non-artifact prose outside code block"
  else none

def checkUsesPytestMarkUnit : Option String :=
  if containsString content "@pytest.mark.unit" then none
  else some "TASK_MISMATCH: missing @pytest.mark.unit"

def checkDocstringPresent : Option String :=
  if containsString content "\"\"\"" || containsString content "'''" then none
  else some "TASK_MISMATCH: missing docstring"

def EMPTY_RESPONSE_FLOOR_REASON : String := "MALFORMED: empty response"

def checkResponseNonEmpty : Option String :=
  if (PyText.strip content).isEmpty then some EMPTY_RESPONSE_FLOOR_REASON else none

def checkPlainTextOnly : Option String :=
  let lowered := PyText.lstrip (rt.unicode.lower content)
  if containsString content "```" || startsWith lowered "def " || startsWith lowered "class " then
    some "TASK_MISMATCH: expected plain text, found code"
  else none

def checkExactlyTwoSentences : Option String :=
  let count := (sentences rt content).length
  if count ≠ 2 then some s!"TASK_MISMATCH: expected exactly 2 sentences, found {count}"
  else none

/-- The one-based numbers of the sentences with more than `threshold` words. -/
def longSentences (threshold : ℕ) (found : List (List Char)) : List ℕ :=
  (found.zipIdx 1).filterMap fun (sentence, index) =>
    if threshold < (PyText.splitWords sentence).length then some index else none

def checkMaxWordsPerSentence (threshold : ℕ) : Option String :=
  let found := sentences rt content
  if found.isEmpty then some "TASK_MISMATCH: no sentences found"
  else
    let long := longSentences threshold found
    if long.isEmpty then none
    else some (s!"TASK_MISMATCH: sentences exceed {threshold} words: " ++
      ", ".intercalate (long.map toString))

/-! ## Markers -/

/-- Heuristic checks that look for any of their markers, with their category. -/
def HEURISTIC_CONTAINS_ANY_CHECKS : List (String × String × List String) :=
  [("follows_google_style", "TASK_MISMATCH", ["args:", "returns:"]),
   ("explains_tradeoffs", "TASK_MISMATCH", ["tradeoff", "trade-off", "risk", "benefit", "cost"]),
   ("follows_codebase_conventions", "TASK_MISMATCH",
     ["pytest", "ruff", "typing", "typed", "contract"]),
   ("no_obvious_regressions", "TASK_MISMATCH",
     ["regression", "backward", "compatib", "existing tests", "no break"]),
   ("covers_edge_cases", "TASK_MISMATCH", ["edge", "boundary", "empty", "none", "invalid"]),
   ("covers_error_paths", "TASK_MISMATCH",
     ["error", "exception", "raises", "failure", "fail", "false", "invalid", "none", "unknown",
      "empty"]),
   ("step_by_step_explanation", "TASK_MISMATCH", ["step", "1.", "first", "then"]),
   ("methodical_analysis", "TASK_MISMATCH", ["because", "therefore", "evidence", "risk"]),
   ("sub_tasks_verified", "TASK_MISMATCH", ["verified", "passed", "evidence", "check"]),
   ("structured_output", "TASK_MISMATCH",
     ["1.", "2.", "- ", "* ", "step", "phase", "first", "then"]),
   ("covers_dependencies", "TASK_MISMATCH",
     ["depend", "requires", "prerequisite", "after", "before", "blocks", "order", "sequence"])]

def checkContainsAny (checkName category : String) (markers : List String) : Option String :=
  if markers.any (containsString (rt.unicode.lower content)) then none
  else some (category ++ ": failed " ++ checkName)

def checkCoversArgsReturnsRaises : Option String :=
  let lowered := rt.unicode.lower content
  let missing := ["args:", "returns:"].filter fun marker => !containsString lowered marker
  if missing.isEmpty then none
  else some ("TASK_MISMATCH: missing documentation sections: " ++ ", ".intercalate missing)

def checkCitesSpecificLines : Option String :=
  if LINE_CITATION_RE.search rt.unicode content then none
  else some "TASK_MISMATCH: missing specific line citations"

def checkCitesSources : Option String :=
  if SOURCE_CITATION_RE.search rt.unicode content then none
  else some "TASK_MISMATCH: missing source citations or references"

def checkConcise : Option String :=
  if 250 < (PyText.splitWords content).length then some "WEAK_OUTPUT: response is not concise"
  else none

def ACCURACY_UNCERTAINTY_PHRASES : List String :=
  ["cannot verify", "can't verify", "unable to verify", "not verified", "unverified",
   "not sure", "i don't know", "i do not know", "may be inaccurate", "might be inaccurate",
   "could be inaccurate", "without evidence"]

def checkAccurate : Option String :=
  let phrases := detected (rt.unicode.lower content) ACCURACY_UNCERTAINTY_PHRASES
  if phrases.isEmpty then none
  else some ("TASK_MISMATCH: response explicitly disclaims accuracy: " ++ ", ".intercalate phrases)

/-! ## Deterministic band -/

/-- Checks without an executor: neither passed nor failed. -/
def UNEVALUATED_DETERMINISTIC_CHECKS : List String := ["passes_existing_tests"]

/-- The dispatch of `_evaluate_deterministic_checks` on one evaluated name. -/
def deterministicCheck (check : String) : Except GateError (Option String) :=
  match check with
  | "output_parses" => .ok (checkOutputParses rt content)
  | "signature_preserved" => .ok (checkSignaturePreserved content)
  | "compiles_without_errors" => checkCompilesWithoutErrors rt content
  | "final_artifact_only" => .ok (checkFinalArtifactOnly rt content)
  | "uses_pytest_mark_unit" => .ok (checkUsesPytestMarkUnit content)
  | "docstring_present" => .ok (checkDocstringPresent content)
  | "response_non_empty" => .ok (checkResponseNonEmpty content)
  | "task_completed" => .ok (checkResponseNonEmpty content)
  | "exactly_two_sentences" => .ok (checkExactlyTwoSentences rt content)
  | "plain_text_only" => .ok (checkPlainTextOnly rt content)
  | "no_refusal" => .ok (checkNoRefusal rt content)
  | other =>
    match checkParameter rt MAX_WORDS_PER_SENTENCE_RE other with
    | some parameter => do
        let threshold ← intOfDigits rt parameter
        .ok (checkMaxWordsPerSentence rt content threshold)
    | none => .ok (some ("MALFORMED: unsupported deterministic DoD check '" ++ other ++ "'"))

def evaluateDeterministicChecks (content : List Char) :
    List String → Except GateError (List String × List String)
  | [] => .ok ([], [])
  | check :: rest =>
    if UNEVALUATED_DETERMINISTIC_CHECKS.contains check then do
      let (failures, skipped) ← evaluateDeterministicChecks content rest
      .ok (failures, check :: skipped)
    else do
      let reason ← deterministicCheck rt content check
      let (failures, skipped) ← evaluateDeterministicChecks content rest
      .ok (reason.toList ++ failures, skipped)

/-! ## Heuristic band -/

def HEURISTIC_SIMPLE_CHECKS : List (String × (List Char → Option String)) :=
  [("no_refusal", checkNoRefusal rt),
   ("covers_args_returns_raises", checkCoversArgsReturnsRaises rt),
   ("cites_specific_lines", checkCitesSpecificLines rt),
   ("cites_sources", checkCitesSources rt),
   ("concise", checkConcise),
   ("accurate", checkAccurate rt),
   ("semantic_adequacy", checkSemanticAdequacy rt)]

def applyHeuristicCheck (check : String) (content : List Char) : Option String :=
  match (HEURISTIC_SIMPLE_CHECKS rt).lookup check with
  | some checker => checker content
  | none =>
    (HEURISTIC_CONTAINS_ANY_CHECKS.lookup check).bind fun (category, markers) =>
      checkContainsAny rt content check category markers

def heuristicKnown (check : String) : Bool :=
  ((HEURISTIC_SIMPLE_CHECKS rt).map (·.1)).contains check ||
    (HEURISTIC_CONTAINS_ANY_CHECKS.map (·.1)).contains check

/-- What one heuristic name contributes: a heuristic failure and a deterministic one. -/
def heuristicCheck (check : String) :
    Except GateError (Option String × Option String) :=
  match applyHeuristicCheck rt check content with
  | some reason => .ok (some reason, none)
  | none =>
    if heuristicKnown rt check then .ok (none, none)
    else
      match checkParameter rt MIN_LENGTH_CHECK_RE check with
      | some parameter => do
          let threshold ← intOfDigits rt parameter
          .ok (checkMinLength content threshold, none)
      | none =>
        .ok (none, some ("MALFORMED: unsupported heuristic DoD check '" ++ check ++ "'"))

end

/-- The heuristic failures, and the deterministic failures of the unknown names. -/
def evaluateHeuristicChecks (content : List Char) :
    List String → Except GateError (List String × List String)
  | [] => .ok ([], [])
  | check :: rest => do
      let (heuristic, deterministic) ← heuristicCheck rt content check
      let (heuristics, deterministics) ← evaluateHeuristicChecks content rest
      .ok (heuristic.toList ++ heuristics, deterministic.toList ++ deterministics)

end OmniMarket.QualityGate
