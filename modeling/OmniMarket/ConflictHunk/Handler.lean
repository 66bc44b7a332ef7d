import OmniMarket.Lib.OrderedDict
import OmniMarket.Lib.PyText

/-!
# The conflict-hunk handler

`HandlerConflictHunk` asks a model for the resolution of each file with conflict markers, writes
what passes its checks, and commits and pushes the result. The model's answers, the Python
parser and the answers of the git and test commands are parameters, `HunkEnv` and `GitAnswers`.
Logging, the routing policy and the command lines are left out.
-/

namespace OmniMarket.ConflictHunk

/-- The files of the worktree and their texts, in the order of `sorted(rglob("*"))`. -/
abbrev Worktree := OrderedDict String String

/-- What the handler consults while it resolves. -/
structure HunkEnv where
  unicode : UnicodeTable
  /-- The model's text for a file and its hunk context, and whether a fallback gave it. -/
  llmCall : String → String → String × Bool
  /-- The message of the `SyntaxError` of `ast.parse`. -/
  syntaxError : String → Option String
  /-- The scan for markers cannot read the file. -/
  scanRaises : String → Bool := fun _ => false
  /-- Reading the file as UTF-8 raises. -/
  readRaises : String → Bool := fun _ => false
  writeRaises : String → Bool := fun _ => false

def conflictMarker : List Char := "<<<<<<<".toList

def endMarker : List Char := ">>>>>>>".toList

def maxNetChangedLines : ℕ := 50

def hunkContextLines : ℕ := 50

def allowedPathPrefixes : List String := ["src/", "tests/"]

def protectedHeads : List String := ["main", "master", "develop"]

/-! ## Scanning -/

def hasConflictMarker (text : String) : Bool := PyText.containsText conflictMarker text.toList

def findConflictFiles (env : HunkEnv) (tree : Worktree) : List String :=
  tree.keys.filter fun path =>
    !env.scanRaises path && ((tree.get? path).map hasConflictMarker).getD false

def checkAllowlist (env : HunkEnv) (paths : List String) : Option String :=
  (paths.find? fun path => !allowedPathPrefixes.any fun lead => lead.toList.isPrefixOf path.toList).map
    fun path => "file outside allowlist: " ++ PyText.reprString env.unicode path ++
      ". Only src/** and tests/** are permitted."

/-! ## The context of the hunks -/

/-- Where the scan of the lines is: inside a conflict, and the bounds found so far. -/
structure HunkScan where
  inConflict : Bool := false
  starts : List ℕ := []
  ends : List ℕ := []

def scanLine (scan : HunkScan) (numbered : List Char × ℕ) : HunkScan :=
  if conflictMarker.isPrefixOf numbered.1 && !scan.inConflict then
    { scan with inConflict := true, starts := scan.starts ++ [numbered.2] }
  else if endMarker.isPrefixOf numbered.1 && scan.inConflict then
    { scan with inConflict := false, ends := scan.ends ++ [numbered.2] }
  else scan

def extractHunkContext (text : String) (contextLines : ℕ) : String :=
  let lines := PyText.splitLines text.toList
  let scan := lines.zipIdx.foldl scanLine {}
  if scan.starts.isEmpty then text
  else
    let kept := lines.zipIdx.filter fun numbered =>
      (scan.starts.zip scan.ends).any fun bounds =>
        bounds.1 - contextLines ≤ numbered.2 && numbered.2 < bounds.2 + contextLines + 1
    "\n".intercalate (kept.map fun numbered => String.ofList numbered.1)

def netLineDelta (original resolved : String) : ℕ :=
  (((PyText.splitLines resolved.toList).length : ℤ) -
    (PyText.splitLines original.toList).length).natAbs

/-- `fp.suffix == ".py"`. -/
def isPython (path : String) : Bool :=
  let name := (path.toList.splitOnP (· = '/')).getLastD []
  ".py".toList.isSuffixOf name && 3 < name.length

/-! ## Resolving the files -/

inductive FileOutcome where
  | raised
  | refused (message : String)
  | unchanged
  | resolved (text : String)

/-- The model's answer for the file. -/
def answerFor (env : HunkEnv) (path original : String) : String × Bool :=
  env.llmCall path (extractHunkContext original hunkContextLines)

def refusalOf (env : HunkEnv) (path original resolved : String) : Option String :=
  let rel := PyText.reprString env.unicode path
  if hasConflictMarker resolved then
    some ("LLM resolution for " ++ rel ++ " still contains conflict markers")
  else
    match (if isPython path then env.syntaxError resolved else none) with
    | some exc => some ("LLM resolution for " ++ rel ++ " has invalid Python syntax: " ++ exc)
    | none =>
      let netDelta := netLineDelta original resolved
      if maxNetChangedLines < netDelta then
        some ("patch for " ++ rel ++ " exceeds " ++ toString maxNetChangedLines ++
          " net changed lines (got " ++ toString netDelta ++ "). Refusing to apply.")
      else none

def fileOutcome (env : HunkEnv) (path original : String) : FileOutcome :=
  if env.readRaises path then .raised
  else
    let resolved := (answerFor env path original).1
    if resolved = "" then
      .refused ("LLM returned empty resolution for " ++ PyText.reprString env.unicode path)
    -- an answer equal to the original is skipped before it is checked
    else if resolved = original then .unchanged
    else
      match refusalOf env path original resolved with
      | some message => .refused message
      | none => if env.writeRaises path then .raised else .resolved resolved

/-- `(resolved_files, used_fallback, error)`. -/
structure Resolution where
  resolvedFiles : List String := []
  usedFallback : Bool := false
  error : Option String := none

/-- The loop over the files; `none` when an exception leaves it. -/
def applyLlmResolutions (env : HunkEnv) (tree : Worktree) (soFar : Resolution) :
    List String → Worktree × Option Resolution
  | [] => (tree, some soFar)
  | path :: rest =>
    let original := (tree.get? path).getD ""
    let usedFallback := soFar.usedFallback || (answerFor env path original).2
    match fileOutcome env path original with
    | .raised => (tree, none)
    | .refused message =>
      (tree, some { resolvedFiles := [], usedFallback := usedFallback, error := some message })
    | .unchanged =>
      applyLlmResolutions env tree { soFar with usedFallback := usedFallback } rest
    | .resolved text =>
      applyLlmResolutions env (tree.set path text)
        { resolvedFiles := soFar.resolvedFiles ++ [path]
          usedFallback := usedFallback
          error := none } rest

/-! ## The handler -/

structure ModelConflictHunkCommand where
  prNumber : ℤ
  repo : String
  headRefName : String
  correlationId : String
  runId : String

structure ModelConflictResolvedEvent where
  correlationId : String
  prNumber : ℤ
  repo : String
  headRefName : String
  resolvedFiles : List String := []
  resolutionCommitted : Bool
  isNoop : Bool := false
  commitSha : Option String := none
  usedFallback : Bool := false
  error : Option String := none
  success : Bool

/-- The return code and the texts of a command. -/
structure CommandResult where
  rc : ℤ := 0
  stdout : String := ""
  stderr : String := ""

/-- What the handler learns from the environment and its commands. -/
structure GitAnswers where
  /-- The source clone, or the message that it cannot be located. -/
  sourceClone : Except String String
  cloneExists : Bool := true
  fetch : CommandResult := {}
  worktreeAdd : CommandResult := {}
  checkoutBranch : CommandResult := {}
  diffNames : CommandResult := {}
  pytest : CommandResult := {}
  add : CommandResult := {}
  commit : CommandResult := {}
  revParse : CommandResult := {}
  push : CommandResult := {}

def failEvent (request : ModelConflictHunkCommand) (error : String) : ModelConflictResolvedEvent where
  correlationId := request.correlationId
  prNumber := request.prNumber
  repo := request.repo
  headRefName := request.headRefName
  resolutionCommitted := false
  error := some error
  success := false

def unexpectedFiles (git : GitAnswers) (resolvedFiles : List String) : List String :=
  let lines := (PyText.splitLines git.diffNames.stdout.toList).map fun line =>
    String.ofList (PyText.strip line)
  let touched := (lines.filter fun file => file ≠ "").eraseDups
  (touched.filter fun file => !resolvedFiles.contains file).mergeSort fun a b => decide (a ≤ b)

/-- `text[-2000:]`. -/
def lastPart (text : String) : String :=
  String.ofList (text.toList.drop (text.toList.length - 2000))

def commitResolution (env : HunkEnv) (git : GitAnswers) (resolvedFiles : List String) :
    Except String (Option String) :=
  let unexpected := unexpectedFiles git resolvedFiles
  if !unexpected.isEmpty then
    .error ("post-mutation scope check failed: unexpected files modified: " ++
      PyText.reprList env.unicode unexpected)
  else if git.pytest.rc ≠ 0 then
    .error ("pytest gate failed (exit " ++ toString git.pytest.rc ++ "):\n" ++
      lastPart git.pytest.stdout ++ "\n" ++ lastPart git.pytest.stderr)
  else if git.add.rc ≠ 0 then .error ("git add failed: " ++ git.add.stderr)
  else if git.commit.rc ≠ 0 then .error ("git commit failed: " ++ git.commit.stderr)
  else if git.revParse.rc = 0 then .ok (some (PyText.stripString git.revParse.stdout))
  else .ok none

def pushResolution (git : GitAnswers) : Option String :=
  if git.push.rc ≠ 0 then some ("git push --force-with-lease failed: " ++ git.push.stderr) else none

/-- What stops the handler before it looks at the files. -/
def prepare (env : HunkEnv) (git : GitAnswers) (request : ModelConflictHunkCommand) :
    Option String :=
  let head := request.headRefName
  if protectedHeads.contains head then
    some ("protected_head_ref: refusing to resolve conflicts on " ++
      PyText.reprString env.unicode head)
  else
    match git.sourceClone with
    | .error message => some message
    | .ok clone =>
      if !git.cloneExists then
        some ("Source clone not found at " ++ clone ++ ". " ++
          "Set ONEX_CONFLICT_SOURCE_CLONE_ROOT to directory containing full repo clones.")
      else if git.fetch.rc ≠ 0 then
        some ("git fetch " ++ head ++ " failed: " ++ git.fetch.stderr)
      else if git.worktreeAdd.rc ≠ 0 then
        some ("git worktree add failed: " ++ git.worktreeAdd.stderr)
      else if git.checkoutBranch.rc ≠ 0 then
        some ("git checkout -B " ++ head ++ " failed: " ++ git.checkoutBranch.stderr)
      else none

def finish (env : HunkEnv) (git : GitAnswers) (request : ModelConflictHunkCommand)
    (resolution : Resolution) : ModelConflictResolvedEvent :=
  if resolution.resolvedFiles.isEmpty then
    -- every answer left its file as it was
    { failEvent request "" with
      isNoop := true
      usedFallback := resolution.usedFallback
      error := none
      success := true }
  else
    match commitResolution env git resolution.resolvedFiles with
    | .error message => failEvent request message
    | .ok commitSha =>
      match pushResolution git with
      | some message => failEvent request message
      | none =>
        { failEvent request "" with
          resolvedFiles := resolution.resolvedFiles
          resolutionCommitted := true
          commitSha := commitSha
          usedFallback := resolution.usedFallback
          error := none
          success := true }

/-- `_resolve`: the worktree as the resolutions leave it, and the event; `none` when an exception
leaves the handler. -/
def resolve (env : HunkEnv) (git : GitAnswers) (tree : Worktree)
    (request : ModelConflictHunkCommand) : Worktree × Option ModelConflictResolvedEvent :=
  match prepare env git request with
  | some message => (tree, some (failEvent request message))
  | none =>
    let conflictFiles := findConflictFiles env tree
    if conflictFiles.isEmpty then
      (tree, some (failEvent request "No conflict markers found in worktree. Nothing to resolve."))
    else
      match checkAllowlist env conflictFiles with
      | some message => (tree, some (failEvent request message))
      | none =>
        match applyLlmResolutions env tree {} conflictFiles with
        | (resolved, none) => (resolved, none)
        | (resolved, some resolution) =>
          match resolution.error with
          | some message => (resolved, some (failEvent request message))
          | none => (resolved, some (finish env git request resolution))

end OmniMarket.ConflictHunk
