import OmniMarket.Lib.PyValue
import OmniMarket.Lib.Regex
import OmniMarket.Lib.Lines

/-!
# Companion requests and texts

What a companion is asked for, the texts it writes, and the fingerprint of its files.
-/

/-!
# Companion requests and plans

The data of the companion compute: a request with all state of the product PR and of the change
control repository, and the plan of files that is made of it.
-/

namespace OmniMarket.OccCompanion

structure ModelObservedProbe where
  command : String
  stdout : String
  exitCode : ℤ := 0

inductive EnumCompanionFileKind where
  | contract
  | downstreamReceipt
  | selfBindReceipt
  | supersedeReceipt
deriving DecidableEq

def EnumCompanionFileKind.value : EnumCompanionFileKind → String
  | .contract => "contract"
  | .downstreamReceipt => "downstream_receipt"
  | .selfBindReceipt => "self_bind_receipt"
  | .supersedeReceipt => "supersede_receipt"

structure ModelCompanionWedge where
  code : String
  failureMode : String
  alternative : String

structure ModelCompanionFile where
  path : String
  content : String
  kind : EnumCompanionFileKind
  ticketId : String
  isNetNew : Bool := true
  contractSha256 : String := ""
  contractEntrySha256 : String := ""
deriving DecidableEq

structure ModelOccContractState where
  ticketId : String
  «exists» : Bool := false
  merged : Bool := false
  existingEntryIds : List String := []
  wholeFileSha256 : String := ""
  rawContractText : String := ""

structure GitSha where
  value : String
  digits : ∀ c ∈ value.toList, c.isDigit ∨ 'a' ≤ c ∧ c ≤ 'f' ∨ 'A' ≤ c ∧ c ≤ 'F'
  low : 7 ≤ value.toList.length
  high : value.toList.length ≤ 40

structure ModelOccCompanionRequest where
  repo : String
  prNumber : ℕ
  prHeadSha : GitSha
  prTitle : String := ""
  prBody : String := ""
  prState : String := "open"
  prIsDraft : Bool := false
  prLabels : List String := []
  runner : String := "node_occ_companion_compute"
  verifier : String := "occ-evidence-source-autobind"
  runTimestamp : String
  productProbe : ModelObservedProbe
  occRepo : String := "OmniNode-ai/onex_change_control"
  occContractStates : List ModelOccContractState := []
  occPrNumber : Option ℕ := none
  occHeadSha : Option GitSha := none
  occProbe : Option ModelObservedProbe := none
  changedFiles : List String := []
  diffTotalLines : ℤ := 0
  downstreamCheckValue : Option String := none
  productRepoPrivate : Bool := false
  states_unique : (occContractStates.map (·.ticketId)).Nodup := by decide

structure ModelOccCompanionPlan where
  repo : String
  prNumber : ℕ
  tickets : List String := []
  branch : String
  noOp : Bool := false
  noOpReason : String := ""
  fastPath : Bool := false
  fastPathReason : String := ""
  companionFiles : List ModelCompanionFile := []
  productBodyStamped : String := ""
  evidenceSourceOccPr : Option ℕ := none
  wedges : List ModelCompanionWedge := []
  deterministicDigest : String := ""

/-! ## Environment -/

/-- What a receipt says: the arguments of its template. -/
structure ReceiptFields where
  ticketId : String
  evidenceId : String
  checkValue : String
  contractSha256 : String
  contractEntrySha256 : Option String
  runTimestamp : String
  commitSha : String
  runner : String
  verifier : String
  probeCommand : String
  probeStdout : String
  actualOutput : String
  exitCode : ℤ
  prNumber : ℕ
  branch : String
deriving DecidableEq

/-- The arguments of `ModelReceiptSupersession`. The replacement is the text of a receipt. -/
structure SupersessionFields where
  ticketId : String
  evidenceItemId : String
  supersedes : String
  reason : String
  superseder : String
  createdAt : String
  replacement : String

/-- Whether `parse_pr_occ_metadata_stamp` found an evidence source of the OCC kind. -/
inductive EvidenceSource where
  | occPr (number : Option ℕ)
  | other

/-- What the compute uses of the standard library, of PyYAML and of the core packages. -/
structure CompanionEnv where
  unicode : UnicodeTable
  /-- `hashlib.sha256(text.encode()).hexdigest()`. -/
  sha256 : String → String
  /-- `yaml.safe_load`; `none` is its error. -/
  safeLoad : String → Option PyValue
  /-- `compute_contract_entry_sha256`; `none` is `ContractEntryNotFoundError`. -/
  contractEntrySha256 : PyValue → String → Option String
  /-- `ModelDodReceipt.model_validate(yaml.safe_load(content))` passes. -/
  validReceipt : String → Bool
  /-- The dump of a `ModelReceiptSupersession`; `none` is a validation error. -/
  dumpSupersession : SupersessionFields → Option String
  /-- `_extract_ticket_ids(body, title)`. -/
  extractTicketIds : String → String → List String
  /-- `SKIP_TOKEN_PATTERN.search(body)`. -/
  skipToken : String → Bool
  /-- `parse_pr_occ_metadata_stamp(body).evidence_source`. -/
  evidenceSource : String → Option EvidenceSource
  /-- The body with the evidence source of an OCC PR and the tickets. -/
  stampBody : String → ℕ → List String → String
  /-- A ticket id is `OMN-` and digits. -/
  ticket_plain : ∀ body title, ∀ ticket ∈ extractTicketIds body title, '/' ∉ ticket.toList
  /-- A ticket that is cited twice is extracted once. -/
  tickets_nodup : ∀ body title, (extractTicketIds body title).Nodup

/-!
# Companion texts

The templates of the companion contract and of its receipts, and the patterns that the compute
tests paths and texts with.
-/

section

open Regex Regex.Pattern

/-! ## Contract -/

/-- The shell variable of the placeholder form. -/
def prNumberVariable : String := "$\x7bPR_NUMBER\x7d"

def repoVariable : String := "$\x7bREPO\x7d"

def downstreamItemPublicCheckValue : String :=
  "gh pr view " ++ prNumberVariable ++ " --repo " ++ repoVariable ++ " --json number,state"

def ciItemPublicCheckValue : String :=
  "gh pr view " ++ prNumberVariable ++ " --repo " ++ repoVariable ++ " --json files"

def receiptLocalCheckValue (ticketId evidenceId : String) : String :=
  "grep -q '^status: PASS$' $CONTRACT_REPO_DIR/drift/dod_receipts/" ++ ticketId ++ "/" ++
    evidenceId ++ "/command.yaml"

def computeContractTemplate (ticketId repo : String) (prNumber : ℕ)
    (evidenceId bindingCheckValue diffScopeCheckValue : String) : String :=
  "---\n" ++
  "schema_version: \"1.0.0\"\n" ++
  "ticket_id: \"" ++ ticketId ++ "\"\n" ++
  "title: \"Autobind OCC evidence for " ++ ticketId ++ "\"\n" ++
  "summary: >\n" ++
  "  OCC contract authored by node_occ_companion_compute (OMN-14285) for " ++ repo ++ " PR #" ++
    toString prNumber ++ ".\n" ++
  "is_seam_ticket: false\n" ++
  "interface_change: false\n" ++
  "interfaces_touched: []\n" ++
  "evidence_requirements:\n" ++
  "  - kind: \"ci\"\n" ++
  "    description: \"PR #" ++ toString prNumber ++ " CI checks green\"\n" ++
  "    command: \"gh pr checks " ++ prNumberVariable ++ " --repo " ++ repoVariable ++ "\"\n" ++
  "emergency_bypass:\n" ++
  "  enabled: false\n" ++
  "  justification: \"\"\n" ++
  "  follow_up_ticket_id: \"\"\n" ++
  "dod_evidence:\n" ++
  "  - id: \"" ++ evidenceId ++ "\"\n" ++
  "    description: \"PR #" ++ toString prNumber ++ " on " ++ repo ++
    " — Evidence-Source autobind.\"\n" ++
  "    source: \"generated\"\n" ++
  "    checks:\n" ++
  "      - check_type: \"command\"\n" ++
  "        check_value: \"" ++ bindingCheckValue ++ "\"\n" ++
  "      - check_type: \"command\"\n" ++
  "        check_value: \"" ++ diffScopeCheckValue ++ "\"\n"

def deployAssessmentEvidenceId : String := "dod-deploy-assessment"

def deployAssessmentCheckValue : String :=
  "gh pr diff " ++ prNumberVariable ++ " --repo " ++ repoVariable ++ " --name-only | " ++
    "grep -qiE 'nodes/|handlers/|runtime/|services/|docker|monitor_logs|deploy'"

def renderDeployAssessmentDodEvidenceItem (prNumber : ℕ) : String :=
  "  - id: \"" ++ deployAssessmentEvidenceId ++ "\"\n" ++
  "    description: \"Deploy-scope DoD so PR #" ++ toString prNumber ++
    " clears the deploy-gate (F-05).\"\n" ++
  "    source: \"generated\"\n" ++
  "    checks:\n" ++
  "      - check_type: \"command\"\n" ++
  "        check_value: \"" ++ deployAssessmentCheckValue ++ "\"\n"

def computeSelfBindEntryTemplate (selfBindEvidenceId ticketId : String) (occPrNumber : ℕ) :
    String :=
  "  - id: \"" ++ selfBindEvidenceId ++ "\"\n" ++
  "    description: \"Binds " ++ ticketId ++ " to OCC companion PR #" ++ toString occPrNumber ++
    " (self-bind).\"\n" ++
  "    source: \"generated\"\n" ++
  "    checks:\n" ++
  "      - check_type: \"command\"\n" ++
  "        check_value: \"gh pr view " ++ prNumberVariable ++ " --repo " ++ repoVariable ++
    " --json number,state\"\n"

/-- `value or default` of an optional text. -/
def orDefault (value : Option String) (other : String) : String :=
  PyText.textOrElse value other

/-- `render_compute_companion_contract`. The self-bind item comes with the number of its PR. -/
def renderComputeCompanionContract (ticketId repo : String) (prNumber : ℕ) (evidenceId : String)
    (selfBind : Option (String × ℕ)) (emitDeployAssessment : Bool)
    (bindingCheckValue diffScopeCheckValue : Option String) : String :=
  computeContractTemplate ticketId repo prNumber evidenceId
      (orDefault bindingCheckValue downstreamItemPublicCheckValue)
      (orDefault diffScopeCheckValue ciItemPublicCheckValue) ++
    (if emitDeployAssessment then renderDeployAssessmentDodEvidenceItem prNumber else "") ++
    (match selfBind with
    | none => ""
    | some (selfBindEvidenceId, occPrNumber) =>
      computeSelfBindEntryTemplate selfBindEvidenceId ticketId occPrNumber)

/-- `render_compute_receipt`: without an entry hash the line of the hash is left out. -/
def renderComputeReceipt (receipt : ReceiptFields) : String :=
  "---\n" ++
  "schema_version: \"1.0.0\"\n" ++
  "ticket_id: \"" ++ receipt.ticketId ++ "\"\n" ++
  "evidence_item_id: \"" ++ receipt.evidenceId ++ "\"\n" ++
  "check_type: \"command\"\n" ++
  "check_value: |-\n" ++
  "  " ++ receipt.checkValue ++ "\n" ++
  "contract_sha256: \"sha256:" ++ receipt.contractSha256 ++ "\"\n" ++
  (match receipt.contractEntrySha256 with
  | none => ""
  | some entry => "contract_entry_sha256: \"" ++ entry ++ "\"\n") ++
  "status: PASS\n" ++
  "run_timestamp: \"" ++ receipt.runTimestamp ++ "\"\n" ++
  "commit_sha: \"" ++ receipt.commitSha ++ "\"\n" ++
  "runner: \"" ++ receipt.runner ++ "\"\n" ++
  "verifier: \"" ++ receipt.verifier ++ "\"\n" ++
  "probe_command: \"" ++ receipt.probeCommand ++ "\"\n" ++
  "probe_stdout: |\n" ++
  "  " ++ receipt.probeStdout ++ "\n" ++
  "actual_output: \"" ++ receipt.actualOutput ++ "\"\n" ++
  "exit_code: " ++ toString receipt.exitCode ++ "\n" ++
  "pr_number: " ++ toString receipt.prNumber ++ "\n" ++
  "branch: \"" ++ receipt.branch ++ "\"\n"

/-! ## Patterns -/

/-- `[\w.\-]`. -/
def wordDotDash : CharSet := CharSet.either (fun unicode c => isWordChar unicode c)
  (CharSet.anyOf ".-")

/-- `.`. -/
def dot : CharSet := CharSet.except (CharSet.single '\n')

/-- `_DO_NOT_MERGE_RE`. -/
def doNotMergePattern : Pattern :=
  let gap := optional (one true (CharSet.either CharSet.space (CharSet.anyOf "-_")))
  oneOf
    [sequence [literal true "do", gap, literal true "not", gap, literal true "merge"],
      sequence [wordBoundary, literal true "DNM", wordBoundary],
      sequence [wordBoundary, literal true "WIP", wordBoundary],
      sequence [literal true "[", star true (one true CharSet.space), literal true "draft"]]

/-- `(^|/)`. -/
def segmentStart : Pattern := alt start (literal true "/")

/-- `_RUNTIME_DENYLIST_RE`. -/
def runtimeDenylistPattern : Pattern :=
  alt (sequence [segmentStart, alt (literal true "nodes/") (literal true "migrations/")])
    (sequence [literal true ".py", finish])

/-- `_TRIVIAL_INFRA_ALLOWLIST_RE`. -/
def trivialInfraAllowlistPattern : Pattern :=
  let names := one true wordDotDash
  let yaml := sequence [literal true "y", optional (literal true "a"), literal true "ml"]
  sequence
    [segmentStart,
      oneOf
        [sequence [literal true "Dockerfile", star true names],
          sequence [plus names, literal true ".dockerfile"],
          sequence [literal true "requirements", star true names, literal true ".txt"],
          literal true ".python-version",
          sequence [star true names, literal true "musl", star true names],
          sequence [literal true "deploy/", plus (one true dot), literal true ".",
            alt yaml (literal true "sh")],
          sequence [literal true ".github/workflows/", plus (one true dot), literal true ".",
            yaml]],
      finish]

/-- `_glob_to_regex` without its anchors. -/
def globPattern : List Char → Pattern
  | [] => .empty
  | '*' :: '*' :: rest => seq (star true (one false dot)) (globPattern rest)
  | '*' :: rest => seq (star true (one false (CharSet.except (CharSet.single '/'))))
      (globPattern rest)
  | '?' :: rest => seq (one false (CharSet.except (CharSet.single '/'))) (globPattern rest)
  | c :: rest => seq (one false (CharSet.single c)) (globPattern rest)

def deploySensitivePathPatterns : List String :=
  ["docker/Dockerfile*", "docker/docker-compose*.yml", "docker/docker-compose*.yaml",
    "docker/**/*.Dockerfile", "Dockerfile*", "src/omnibase_infra/nodes/*/handlers/*.py",
    "src/omnibase_infra/nodes/*/handlers/*/*.py", "src/omnibase_infra/nodes/*/contract.yaml",
    "src/omnibase_infra/nodes/*/*/contract.yaml", "src/omnibase_infra/runtime/**/*.py",
    "scripts/monitor_logs.py", "src/omnimarket/nodes/*/handlers/*.py",
    "src/omnimarket/nodes/*/contract.yaml", "src/omnimarket/nodes/*/runtime/**/*.py",
    "src/omnimarket/services/**/*.py", "src/*/nodes/*.py", "src/*/nodes/**/*.py",
    "src/*/runtime/*.py", "src/*/runtime/**/*.py", "src/*/handlers/*.py",
    "src/*/handlers/**/*.py", "src/*/services/*.py", "src/*/services/**/*.py",
    "src/*/docker/*.py", "src/*/docker/**/*.py", "src/**/contract.yaml"]

def findDeploySensitivePaths (unicode : UnicodeTable) (changedFiles : List String) :
    List String :=
  changedFiles.filter fun file =>
    deploySensitivePathPatterns.any fun glob =>
      ((sequence [start, globPattern glob.toList, finish]).match? unicode file.toList).isSome

def classifyTrivialInfraFastpath (unicode : UnicodeTable) (changedFiles : List String)
    (totalDiffLines : ℤ) : Bool × String :=
  let denylisted := changedFiles.filter fun file =>
    runtimeDenylistPattern.search unicode file.toList
  let nonAllowlisted := changedFiles.filter fun file =>
    !trivialInfraAllowlistPattern.search unicode file.toList
  if changedFiles = [] then (false, "no changed_files provided — cannot prove triviality")
  else if denylisted ≠ [] then
    (false, "runtime-touching files present: " ++ PyText.reprList unicode denylisted)
  else if nonAllowlisted ≠ [] then
    (false, "files outside the non-runtime infra allowlist: " ++
      PyText.reprList unicode nonAllowlisted)
  else if 2 < changedFiles.length then
    (false, toString changedFiles.length ++ " files exceeds trivial threshold")
  else if 4 < totalDiffLines then
    (false, toString totalDiffLines ++ " diff lines exceeds trivial threshold")
  else
    (true, "trivial non-runtime infra edit (" ++ toString changedFiles.length ++ " file(s), " ++
      toString totalDiffLines ++ " diff line(s)) — OCC companion skipped")

end

/-!
# Fingerprint of companion files

`deterministic_fingerprint` hashes the companion files with the lines of observed facts projected
out. The projection goes line by line: a line whose first text is the key of an observed fact is
dropped, and below the key of `probe_stdout` everything that is blank or deeper is.
-/

section

open PyText

/-! ## Projection -/

def observedKeys : List String := ["run_timestamp", "probe_command", "exit_code", "created_at"]

/-- `len(line) - len(line.lstrip())`. -/
def indentOf (line : List Char) : ℕ := (line.takeWhile isSpace).length

/-- `line.strip() == ""`. -/
def blankLine (line : List Char) : Bool := line.all isSpace

/-- `line.lstrip().startswith(f"{key}:")`. -/
def startsWithKey (line : List Char) (key : String) : Bool :=
  (key.toList ++ [':']).isPrefixOf (lstrip line)

/-- The indentation of the open `probe_stdout` block, if one is open. -/
abbrev OpenBlock := Option ℕ

def insideBlock (block : OpenBlock) (line : List Char) : Bool :=
  block.elim false fun indent => blankLine line || decide (indent < indentOf line)

/-- Whether the projection keeps a line, outside of a block. -/
def keepsLine (line : List Char) : Bool :=
  !startsWithKey line "probe_stdout" && !observedKeys.any (startsWithKey line)

def blockAfter (block : OpenBlock) (line : List Char) : OpenBlock :=
  if insideBlock block line then block
  else if startsWithKey line "probe_stdout" then some (indentOf line)
  else none

/-- The loop of `_strip_observed_facts`. -/
def keptLines (block : OpenBlock) : List (List Char) → List (List Char)
  | [] => []
  | line :: rest =>
    if insideBlock block line || !keepsLine line then keptLines (blockAfter block line) rest
    else line :: keptLines (blockAfter block line) rest

def stripObservedFacts (content : String) : List Char :=
  ['\n'].intercalate (keptLines none (splitLines content.toList))

/-! ## Fingerprint -/

/-- `x.path` and `x.kind.value` are not behind those of the other file. -/
def fileLe (file other : ModelCompanionFile) : Bool :=
  decide (file.path < other.path) ||
    (decide (file.path = other.path) && decide (file.kind.value ≤ other.kind.value))

/-- `sorted(files, key=lambda x: (x.path, x.kind.value))`. -/
def sortFiles (files : List ModelCompanionFile) : List ModelCompanionFile := files.mergeSort fileLe

/-- What the fingerprint reads of a file. -/
def fileParts (file : ModelCompanionFile) : List (List Char) :=
  [file.path.toList, file.kind.value.toList, file.ticketId.toList, file.contractSha256.toList,
    file.contractEntrySha256.toList, stripObservedFacts file.content]

def partSeparator : List Char := ['\n', '\x00', '\n']

def fingerprintText (files : List ModelCompanionFile) : String :=
  String.ofList (partSeparator.intercalate ((sortFiles files).flatMap fileParts))

def deterministicFingerprint (env : CompanionEnv) (files : List ModelCompanionFile) : String :=
  env.sha256 (fingerprintText files)

end

end OmniMarket.OccCompanion
