import Mathlib
import OmniMarket.Lib.OrderedDict
import OmniMarket.Lib.PyValue
import OmniMarket.Lib.Regex

/-!
# Receipts of durable evidence

The payloads under the receipt directory of a ticket: which receipts the supersession records
leave active, and which PR and commit a receipt binds. `json.loads`, `str` and the Unicode
database are parameters.
-/

namespace OmniMarket.DurableEvidence

section

open Regex Regex.Pattern

/-- What ends an evaluation without a result. -/
inductive GateRaise
  /-- The `TypeError` of a list or a dictionary in a key. -/
  | unhashableKey
  /-- The `ValidationError` of a citation. -/
  | invalidCitation
  /-- Another exception of `json.loads`. -/
  | loads
deriving DecidableEq

structure GateEnv where
  unicode : UnicodeTable
  /-- `text.upper()`. -/
  upper : String → String
  /-- `str(v)`. -/
  str : PyValue → String
  loads : String → Loaded
  /-- `EnumEvidenceClass.RUNTIME_OPS.value`. -/
  runtimeOpsClass : String
  /-- `load_runtime_ops_verb_allowlist()`. -/
  verbAllowlist : List String

variable (env : GateEnv)

/-! ## Supersession -/

/-- A value as a dictionary key: numbers are equal across types, and lists and dictionaries
have no hash. -/
def hashKey : PyValue → Option PyValue
  | .list _ => none
  | .dict _ => none
  | .bool value => some (.int (if value then 1 else 0))
  | .float (.finite value) =>
    if value.den = 1 then some (.int value.num) else some (.float (.finite value))
  | value => some value

abbrev ReceiptKey := PyValue × PyValue × PyValue

/-- `_key`: ticket, evidence item and check of a payload. -/
def receiptKey (payload : PyDict) : Option ReceiptKey := do
  let ticket ← hashKey (payload.get "ticket_id")
  let item ← hashKey (payload.get "evidence_item_id")
  let check ← hashKey (payload.get "check_type")
  return (ticket, item, check)

def isSupersession (payload : PyDict) : Bool := (payload.get? "supersedes").isSome

def SUPERSEDE_SEQ_RE : Pattern :=
  sequence [literal false ".supersede.", group (plus (one false CharSet.digit)),
    literal false ".yaml", finish]

/-- `int(digits)`. -/
def intOfDigits (digits : List Char) : ℕ :=
  digits.foldl (fun n c => 10 * n + env.unicode.decimalValue c) 0

/-- The ordinal in the name of a supersession record's file. -/
def supersedeSeq (record : PyDict) : Option ℕ := do
  let sourceName ← (record.get "__source_name__").asStr?
  let groups ← (SUPERSEDE_SEQ_RE.findGroups env.unicode sourceName.toList).head?
  return intOfDigits env (groups.headD [])

/-- `_order_key`: a numbered record is later than one without a number; the time that a record
claims only decides among the latter. -/
def orderKey (record : PyDict) : ℤ ×ₗ (ℤ ×ₗ String) :=
  let createdAt := env.str ((record.get? "created_at").getD (.str ""))
  match supersedeSeq env record with
  | some ordinal => toLex (1, toLex ((ordinal : ℤ), createdAt))
  | none => toLex (0, toLex (-1, createdAt))

def laterOf (best : Option PyDict) (record : PyDict) : Option PyDict :=
  match best with
  | none => some record
  | some held => if orderKey env held < orderKey env record then some record else some held

/-- `max(records, key=_order_key)`: the first of those with the greatest key. -/
def latestRecord (records : List PyDict) : Option PyDict := records.foldl (laterOf env) none

/-- The receipt that a latest record leaves, if it leaves one. -/
def replacementOf (latest : PyDict) : List PyDict :=
  if (latest.get "tombstone").truthy then []
  else
    match latest.get "replacement" with
    | .dict replacement => [replacement]
    | _ => []

def chainsOf (keyed : List (ReceiptKey × PyDict)) : OrderedDict ReceiptKey (List PyDict) :=
  OrderedDict.foldByKey Prod.fst (fun chain entry => chain.getD [] ++ [entry.2]) .empty
    (keyed.filter fun entry => isSupersession entry.2)

def resolveBase (latestByKey : OrderedDict ReceiptKey (Option PyDict))
    (entry : ReceiptKey × PyDict) : List PyDict :=
  match latestByKey.get? entry.1 with
  | some (some latest) => replacementOf latest
  | _ => [entry.2]

/-- `apply_supersessions`; `none` is the `TypeError` of a key without a hash. -/
def applySupersessions (receipts : List PyValue) : Option (List PyDict) := do
  let keyed ← (receipts.filterMap PyValue.asDict?).mapM fun payload =>
    (receiptKey payload).map fun key => (key, payload)
  let base := keyed.filter fun entry => !isSupersession entry.2
  let latestByKey := (chainsOf keyed).mapValues (latestRecord env)
  let handledKeys := base.map Prod.fst
  let rebound := latestByKey.entries.filter fun entry => !handledKeys.contains entry.1
  return base.flatMap (resolveBase latestByKey) ++
    rebound.flatMap fun entry => entry.2.elim [] replacementOf

/-! ## Citations -/

def hexDigit : CharSet :=
  .either (.within '0' '9') (.either (.within 'a' 'f') (.within 'A' 'F'))

/-- `_SHA_RE.match(text)`: seven to forty hexadecimal digits; `$` lets a line feed follow. -/
def isSha (text : String) : Bool :=
  let chars := text.toList
  let body := if chars.getLast? = some '\n' then chars.dropLast else chars
  decide (7 ≤ body.length ∧ body.length ≤ 40) && body.all (hexDigit env.unicode)

def notSlashOrSpace : CharSet := .except (.either .space (.single '/'))

def PR_URL_RE : Pattern :=
  sequence [literal false "https://github.com/", group (plus (one false notSlashOrSpace)),
    literal false "/", group (plus (one false notSlashOrSpace)), literal false "/pull/",
    group (plus (one false CharSet.digit))]

/-- `https://github.com/<owner>/<repo>/pull/<n>` as repository and number. -/
def parsePrUrl (prUrl : List Char) : Option (String × ℤ) :=
  match PR_URL_RE.match? env.unicode prUrl with
  | some matched =>
    match matched.groups with
    | [owner, repo, num] => some (String.ofList (owner ++ ['/'] ++ repo), intOfDigits env num)
    | _ => none
  | none => none

/-- `value == number` of a value and an integer. -/
def equalsInt (value : PyValue) (number : ℤ) : Bool :=
  hashKey value == some (.int number)

/-- `isinstance(value, int)`, which a `bool` is. -/
def asInt? : PyValue → Option ℤ
  | .int value => some value
  | .bool value => some (if value then 1 else 0)
  | _ => none

def extractRepoFromGithubJson (value : String) (prNumber : ℤ) : Except GateRaise (Option String) :=
  match env.loads value with
  | .raised _ => .error .loads
  | .malformed _ => .ok none
  | .value (.dict parsed) =>
    if equalsInt (PyDict.get parsed "number") prNumber then
      match (PyDict.get parsed "url").asStr? with
      | some url =>
        match parsePrUrl env url.toList with
        | some (repo, number) => .ok (if number = prNumber then some repo else none)
        | none => .ok none
      | none => .ok none
    else .ok none
  | .value _ => .ok none

def repoChar : CharSet := .either .letter (.either (.within '0' '9') (.anyOf "_.-"))

/-- `(?:^|\s)--repo(?:=|\s+)` and the repository after it. -/
def REPO_OPTION_RE : Pattern :=
  sequence [alt start (one false CharSet.space), literal false "--repo",
    alt (literal false "=") (plus (one false CharSet.space)),
    group (sequence [plus (one false repoChar), literal false "/", plus (one false repoChar)])]

def urlChar : CharSet := .except (.either .space (.anyOf "\"')"))

def PR_LINK_RE : Pattern :=
  sequence [literal false "https://github.com/", plus (one false urlChar), literal false "/",
    plus (one false urlChar), literal false "/pull/", plus (one false CharSet.digit),
    optional (seq (literal false "/") (star true (one false urlChar)))]

def extractRepoFromText (value : String) (prNumber : ℤ) : Option String :=
  match (REPO_OPTION_RE.findGroups env.unicode value.toList).head? with
  | some groups => some (String.ofList (groups.headD []))
  | none =>
    (((PR_LINK_RE.findTexts env.unicode value.toList).filterMap (parsePrUrl env)).find?
      fun parsed => parsed.2 = prNumber).map Prod.fst

/-- The repository that the fields of a receipt name, the first that does. -/
def extractReceiptRepo (receipt : PyDict) (prNumber : ℤ) :
    List String → Except GateRaise (Option String)
  | [] => .ok none
  | field :: rest =>
    match (receipt.get field).asStr? with
    | none => extractReceiptRepo receipt prNumber rest
    | some value => do
        match ← extractRepoFromGithubJson env value prNumber with
        | some repo => return some repo
        | none =>
          match extractRepoFromText env value prNumber with
          | some repo => return some repo
          | none => extractReceiptRepo receipt prNumber rest

def probeFields : List String := ["probe_stdout", "probe_command", "check_value"]

/-- The number of a PR as an f-string writes it. -/
def numberText : PyValue → String
  | .bool value => if value then "True" else "False"
  | .int value => toString value
  | _ => ""

structure ModelCitedMergeCommit where
  prUrl : String
  repo : String
  prNumber : ℤ
  citedSha : String
  evidenceItemId : String
  checkType : String
deriving DecidableEq

section

variable (citation : ModelCitedMergeCommit)

def ModelCitedMergeCommit.target : String × ℤ × String :=
  (citation.repo, citation.prNumber, citation.citedSha)

def ModelCitedMergeCommit.checkKey : String × String :=
  (citation.evidenceItemId, citation.checkType)

/-- The binding of a PASS receipt to a PR and a commit; `none` where the receipt carries no
complete one. -/
def bindingOf (receipt : PyDict) : Except GateRaise (Option ModelCitedMergeCommit) :=
  if receipt.get "status" = .str "PASS" then
    match (receipt.get "evidence_item_id").asStr?, (receipt.get "check_type").asStr?,
        asInt? (receipt.get "pr_number"), (receipt.get "commit_sha").asStr? with
    | some evidenceItemId, some checkType, some prNumber, some sha =>
      if isSha env sha then do
        match ← extractReceiptRepo env receipt prNumber probeFields with
        | some repo =>
          return some
            { prUrl := "https://github.com/" ++ repo ++ "/pull/" ++
                numberText (receipt.get "pr_number")
              repo := repo
              prNumber := prNumber
              citedSha := sha
              evidenceItemId := evidenceItemId
              checkType := checkType }
        | none => return none
      else .ok none
    | _, _, _, _ => .ok none
  else .ok none

/-- The field constraints of a citation. -/
def ModelCitedMergeCommit.valid : Bool :=
  decide (0 < citation.prNumber) && citation.evidenceItemId != "" && citation.checkType != ""

end

def cite (citations : List ModelCitedMergeCommit) (receipt : PyDict) :
    Except GateRaise (List ModelCitedMergeCommit) := do
  match ← bindingOf env receipt with
  | none => return citations
  | some binding =>
    if (citations.map ModelCitedMergeCommit.target).contains binding.target then
      return citations
    else if binding.valid then return citations ++ [binding]
    else .error .invalidCitation

def extractReceiptMergeCommits (receipts : List PyDict) :
    Except GateRaise (List ModelCitedMergeCommit) :=
  receipts.foldlM (cite env) []

end

/-!
# The read-back of runtime operations

`evaluate_runtime_ops_readback`: the receipts of a fix without a PR are checked against the
guardrails of their evidence class.
-/

section

variable (env : GateEnv)

def receiptClass (receipt : PyDict) : String := ((receipt.get "evidence_class").asStr?).getD ""

def strField (receipt : PyDict) (key : String) : String :=
  match (receipt.get key).asStr? with
  | some value => PyText.stripString value
  | none => ""

def isPass (receipt : PyDict) : Bool :=
  match (receipt.get "status").asStr? with
  | some status => env.upper status == "PASS"
  | none => false

def isRuntimeOps (receipt : PyDict) : Bool := receiptClass receipt == env.runtimeOpsClass

def isRuntimeOpsReceiptSet (receipts : List PyDict) : Bool :=
  receipts.any fun receipt => isPass env receipt && isRuntimeOps env receipt

/-- `prod` is one of the alphanumeric words of the target. -/
def isProdTarget (targetIdentity : String) : Bool :=
  let lowered := PyText.lowerString env.unicode targetIdentity
  let spaced := lowered.map fun c => if env.unicode.isAlnum c then c else ' '
  (PyText.splitWords spaced).contains "prod".toList

/-- `repr(sorted(items))`. -/
def reprSorted (items : List String) : String :=
  PyText.reprList env.unicode (items.eraseDups.insertionSort (· ≤ ·))

def guardrailFailure (receipt : PyDict) : Option String :=
  let runner := strField receipt "runner"
  let verifier := strField receipt "verifier"
  let verb := strField receipt "mutation_verb"
  let target := strField receipt "target_identity"
  if runner = "" ∨ verifier = "" ∨ runner = verifier then
    some ("RUNTIME_OPS receipt is self-attested (verifier == runner) or missing an identity — " ++
      "an independent verifier is required (OMN-14168, G1).")
  else if (receipt.get "pr_number").isNone = false ∨ strField receipt "pr_url" ≠ "" then
    some ("RUNTIME_OPS receipt carries a pr_number/pr_url — that work has a PR and must route " ++
      "through the merged-PR gate, not the runtime-ops class (OMN-14168, G2a).")
  else if receipt.get "no_source_change" ≠ .bool true then
    some ("RUNTIME_OPS receipt does not assert no_source_change=True — the class is bounded to " ++
      "genuine no-source-change ops (OMN-14168).")
  else if !env.verbAllowlist.contains verb then
    some ("RUNTIME_OPS mutation_verb " ++ PyText.reprString env.unicode verb ++
      " is not in the governed runtime-ops verb allowlist " ++ reprSorted env env.verbAllowlist ++
      ". A source change (git / image-digest promotion) produces a PR and must route through " ++
      "the merged-PR gate (OMN-14168, G2b).")
  else if strField receipt "probe_stdout" = "" then
    some ("RUNTIME_OPS readback probe_stdout is empty — an empty readback is indistinguishable " ++
      "from a probe that never ran (OMN-14168, G3).")
  else if strField receipt "prevention_followup" = "" then
    some ("RUNTIME_OPS receipt links no prevention_followup — every no-PR runtime-ops close " ++
      "must link a GitOps/declarative guardrail follow-up so the hatch cannot become a permanent " ++
      "bypass (OMN-14168, G5).")
  else if isProdTarget env target then
    some ("RUNTIME_OPS target_identity " ++ PyText.reprString env.unicode target ++
      " is a prod lane. The merged-PR waiver does NOT waive the OMN-13418 prod-promotion grant; " ++
      "a prod runtime-ops close must clear that gate separately and fails closed here " ++
      "(OMN-14168, G4).")
  else none

def keyOf (receipt : PyDict) : List (String × String) :=
  match (receipt.get "evidence_item_id").asStr?, (receipt.get "check_type").asStr? with
  | some evidenceItemId, some checkType => [(evidenceItemId, checkType)]
  | _, _ => []

/-- Whether the PASS receipts pass, the message, and the checks that they cover. The gate passes
no clock, so the read-back is not checked for freshness. -/
def evaluateRuntimeOpsReadback (passReceipts : List PyDict) :
    Bool × String × List (String × String) :=
  let runtimeOps := passReceipts.filter (isRuntimeOps env)
  let nonRuntime := passReceipts.filter fun receipt => !isRuntimeOps env receipt
  if runtimeOps.isEmpty then (false, "No RUNTIME_OPS PASS receipt present — nothing to verify.", [])
  else if !nonRuntime.isEmpty then
    (false,
      "Mis-declared receipt set: it mixes RUNTIME_OPS receipt(s) with " ++
        toString nonRuntime.length ++
        " non-runtime-ops PASS receipt(s). A runtime-ops close must be pure no-PR ops; work " ++
        "with a PR routes through the merged-PR gate (OMN-14168, G2a).", [])
  else
    match (runtimeOps.filterMap (guardrailFailure env)).head? with
    | some message => (false, message, [])
    | none =>
      (true,
        "All " ++ toString runtimeOps.length ++ " RUNTIME_OPS readback receipt(s) verified: " ++
          "independent verifier, no PR, allowlisted mutation verb, non-empty readback, " ++
          "prevention follow-up linked, non-prod target.",
        runtimeOps.flatMap keyOf)

end

end OmniMarket.DurableEvidence
