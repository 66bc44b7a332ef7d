import OmniMarket.PrReview.Response
import OmniMarket.Lib.OrderedDict

/-!
# The state machine of a PR review

The request, the threads, the phases and the verdict. Readings of the clock are left out.
-/

namespace OmniMarket.PrReview
variable {judgeModelUsed : String}

/-! ## Models -/

inductive EnumFsmPhase
  | init
  | fetchDiff
  | review
  | postThreads
  | watch
  | judgeVerify
  | report
  | done
  | failed
deriving DecidableEq

def EnumFsmPhase.value : EnumFsmPhase → String
  | .init => "init"
  | .fetchDiff => "fetch_diff"
  | .review => "review"
  | .postThreads => "post_threads"
  | .watch => "watch"
  | .judgeVerify => "judge_verify"
  | .report => "report"
  | .done => "done"
  | .failed => "failed"

structure ReviewRequest where
  correlationId : String
  prNumber : ℕ
  repo : String
  reviewerModels : List String
  judgeModel : String
  dryRun : Bool
  maxFindingsPerPr : ℕ
  prNumberPositive : 1 ≤ prNumber
  someReviewer : reviewerModels ≠ []
  reviewersNotBlank : ∀ modelKey ∈ reviewerModels, PyText.stripString modelKey ≠ ""
  judgeNotBlank : PyText.stripString judgeModel ≠ ""
  maxFindingsPositive : 1 ≤ maxFindingsPerPr

structure ReviewFinding where
  id : String
  category : EnumFindingCategory
  severity : EnumFindingSeverity
  title : String
  description : String
  suggestion : Option String
  filePath : Option String
  lineStart : Option ℕ
  lineEnd : Option ℕ
  confidence : EnumReviewConfidence
  sourceModel : String

def ReviewFinding.fromModelReviewFinding (finding : ModelReviewFinding) : ReviewFinding where
  id := finding.id
  category := finding.category
  severity := finding.severity
  title := finding.title
  description := finding.description
  suggestion := none
  filePath := finding.filePath
  lineStart := none
  lineEnd := none
  confidence := finding.confidence
  sourceModel := finding.sourceModel

inductive EnumThreadStatus
  | pending
  | posted
  | resolved
  | verifiedPass
  | verifiedFail
  | escalated
deriving DecidableEq

structure ThreadState where
  findingId : String
  githubThreadId : Option ℤ
  status : EnumThreadStatus
  verifyAttempts : ℕ
  judgeReasoning : Option String

inductive EnumPrVerdict
  | clean
  | risksNoted
  | blockingIssue

structure ReviewVerdict where
  correlationId : String
  prNumber : ℕ
  repo : String
  verdict : EnumPrVerdict
  totalFindings : ℕ
  threadsPosted : ℕ
  threadsVerifiedPass : ℕ
  threadsVerifiedFail : ℕ
  threadsPending : ℕ
  judgeModelUsed : String
  summary : String

/-! ## Phases -/

def MAX_CONSECUTIVE_FAILURES : ℕ := 3

def isTerminal (phase : EnumFsmPhase) : Bool := phase == .done || phase == .failed

def nextPhase : EnumFsmPhase → Except String EnumFsmPhase
  | .init => .ok .fetchDiff
  | .fetchDiff => .ok .review
  | .review => .ok .postThreads
  | .postThreads => .ok .watch
  | .watch => .ok .judgeVerify
  | .judgeVerify => .ok .report
  | .report => .ok .done
  | .done => .error "No next phase from terminal state: done"
  | .failed => .error "No next phase from terminal state: failed"

structure ModelPrReviewBotState where
  correlationId : String
  prNumber : ℕ
  repo : String
  currentPhase : EnumFsmPhase
  consecutiveFailures : ℕ
  maxConsecutiveFailures : ℕ
  dryRun : Bool
  judgeModel : String
  findings : List ReviewFinding
  threadStates : List ThreadState
  errorMessage : Option String

structure ModelPhaseTransitionEvent where
  correlationId : String
  prNumber : ℕ
  repo : String
  fromPhase : EnumFsmPhase
  toPhase : EnumFsmPhase
  success : Bool
  errorMessage : Option String

def startState (request : ReviewRequest) : ModelPrReviewBotState where
  correlationId := request.correlationId
  prNumber := request.prNumber
  repo := request.repo
  currentPhase := .init
  consecutiveFailures := 0
  maxConsecutiveFailures := MAX_CONSECUTIVE_FAILURES
  dryRun := request.dryRun
  judgeModel := request.judgeModel
  findings := []
  threadStates := []
  errorMessage := none

/-- `error_message or text` of an optional message. -/
def messageOr (errorMessage : Option String) (text : String) : String :=
  match errorMessage with
  | some message => if message = "" then text else message
  | none => text

section

variable (state : ModelPrReviewBotState)

def transition (toPhase : EnumFsmPhase) (success : Bool) (errorMessage : Option String) :
    ModelPhaseTransitionEvent where
  correlationId := state.correlationId
  prNumber := state.prNumber
  repo := state.repo
  fromPhase := state.currentPhase
  toPhase := toPhase
  success := success
  errorMessage := errorMessage

/-- `advance` of a phase that failed: the third failure in a row ends the run. -/
def advanceFailure (errorMessage : Option String) :
    ModelPrReviewBotState × ModelPhaseTransitionEvent :=
  let newFailures := state.consecutiveFailures + 1
  let (toPhase, err) :=
    if newFailures ≥ state.maxConsecutiveFailures then
      (EnumFsmPhase.failed,
        some (messageOr errorMessage
          ("Circuit breaker: " ++ toString newFailures ++ " consecutive failures")))
    else (state.currentPhase, errorMessage)
  ({ state with
      currentPhase := toPhase
      consecutiveFailures := newFailures
      errorMessage := err },
    transition state toPhase false err)

/-- `advance` of a phase that succeeded, with what it folds in. -/
def advanceSuccess (findings : Option (List ReviewFinding))
    (threadStates : Option (List ThreadState)) :
    Except String (ModelPrReviewBotState × ModelPhaseTransitionEvent) := do
  let toPhase ← nextPhase state.currentPhase
  return (
    { state with
      currentPhase := toPhase
      consecutiveFailures := 0
      errorMessage := none
      findings := findings.getD state.findings
      threadStates := threadStates.getD state.threadStates },
    transition state toPhase true none)

def advance (state : ModelPrReviewBotState) (phaseSuccess : Bool)
    (errorMessage : Option String) (findings : Option (List ReviewFinding))
    (threadStates : Option (List ThreadState)) :
    Except String (ModelPrReviewBotState × ModelPhaseTransitionEvent) :=
  if isTerminal state.currentPhase then
    .error ("Cannot advance from terminal phase: " ++ state.currentPhase.value)
  else if phaseSuccess then advanceSuccess state findings threadStates
  else .ok (advanceFailure state errorMessage)

def countStatus (threads : List ThreadState) (status : EnumThreadStatus) : ℕ :=
  threads.countP fun thread => thread.status == status

def makeVerdict (judgeModelUsed : String) : ReviewVerdict :=
  let judgeUsed := if judgeModelUsed = "" then state.judgeModel else judgeModelUsed
  if state.currentPhase = .failed then
    { correlationId := state.correlationId
      prNumber := state.prNumber
      repo := state.repo
      verdict := .blockingIssue
      totalFindings := state.findings.length
      threadsPosted := 0
      threadsVerifiedPass := 0
      threadsVerifiedFail := 0
      threadsPending := 0
      judgeModelUsed := judgeUsed
      summary := "FSM terminated in FAILED: " ++ messageOr state.errorMessage "unknown error" }
  else
    let threads := state.threadStates
    let threadsFail := countStatus threads .verifiedFail
    let verdict :=
      if threadsFail > 0 then EnumPrVerdict.blockingIssue
      else if state.findings ≠ [] then EnumPrVerdict.risksNoted
      else EnumPrVerdict.clean
    { correlationId := state.correlationId
      prNumber := state.prNumber
      repo := state.repo
      verdict := verdict
      totalFindings := state.findings.length
      threadsPosted := threads.countP fun thread => thread.status != .pending
      threadsVerifiedPass := countStatus threads .verifiedPass
      threadsVerifiedFail := threadsFail
      threadsPending := countStatus threads .pending
      judgeModelUsed := judgeUsed
      summary := "" }

end

/-! ## Facts -/

@[simp] theorem countStatus_pos {threads : List ThreadState} {status : EnumThreadStatus} :
    0 < countStatus threads status ↔ ∃ thread ∈ threads, thread.status = status := by
  simp [countStatus, List.countP_pos_iff]

variable {state : ModelPrReviewBotState}

theorem makeVerdict_clean (ended : state.currentPhase ≠ .failed) :
    (makeVerdict state judgeModelUsed).verdict = .clean ↔
      (∀ thread ∈ state.threadStates, thread.status ≠ .verifiedFail) ∧ state.findings = [] := by
  rw [makeVerdict, if_neg ended]
  by_cases failed : ∃ thread ∈ state.threadStates, thread.status = .verifiedFail
  · simp [countStatus_pos.2 failed, failed]
  · have none_failed : countStatus state.threadStates .verifiedFail = 0 :=
      Nat.eq_zero_of_not_pos (mt countStatus_pos.1 failed)
    push Not at failed
    simp only [none_failed, gt_iff_lt, lt_irrefl, if_false, ite_not]
    split
    · next none_found => exact iff_of_true rfl ⟨failed, none_found⟩
    · next found => exact iff_of_false (by simp) fun clean => found clean.2

theorem makeVerdict_blocks (failed : ∃ thread ∈ state.threadStates, thread.status = .verifiedFail) :
    (makeVerdict state judgeModelUsed).verdict = .blockingIssue := by
  rw [makeVerdict]
  split
  · rfl
  · simp [countStatus_pos.2 failed]

theorem makeVerdict_failed (failed : state.currentPhase = .failed) :
    (makeVerdict state judgeModelUsed).verdict = .blockingIssue := by
  rw [makeVerdict, if_pos failed]

theorem advance_success {toPhase : EnumFsmPhase} {errorMessage : Option String}
    {findings : Option (List ReviewFinding)} {threadStates : Option (List ThreadState)}
    (next : nextPhase state.currentPhase = .ok toPhase) :
    advance state true errorMessage findings threadStates =
      .ok ({ state with
        currentPhase := toPhase
        consecutiveFailures := 0
        errorMessage := none
        findings := findings.getD state.findings
        threadStates := threadStates.getD state.threadStates },
        transition state toPhase true none) := by
  have goesOn : isTerminal state.currentPhase = false := by
    revert next
    cases state.currentPhase <;> simp [nextPhase, isTerminal]
  rw [advance, goesOn, if_neg Bool.false_ne_true, if_pos rfl, advanceSuccess, next]
  rfl

/-!
# The PR review orchestrator

`HandlerPrReviewOrchestrator.handle`. The models, the effects and the nodes that only build a
prompt or observe the findings are functions that may raise, with the text of the exception.
-/

section

def MAX_VERIFY_ATTEMPTS : ℕ := 3

structure ModelPromptBuilderOutput where
  systemPrompt : String
  userPrompt : String

structure ModelGithubDiffCommand where
  correlationId : String
  repo : String
  prNumber : ℕ

inductive EnumGithubReviewOperation
  | postThreads
  | watchThreads
  | postReport
deriving DecidableEq

structure ModelGithubReviewCommand where
  correlationId : String
  operation : EnumGithubReviewOperation
  repo : String
  prNumber : ℕ
  dryRun : Bool
  maxFindingsPerPr : ℕ
  findings : List ReviewFinding
  threadStates : List ThreadState
  verdict : Option ReviewVerdict

structure AggregatorFinding where
  ruleId : String
  filePath : String
  lineStart : ℕ
  severity : String
  normalizedMessage : String

structure ModelPrReviewCompletedEvent where
  finalPhase : EnumFsmPhase
  verdict : ReviewVerdict

/-- How the surroundings of the orchestrator behave in a run. -/
structure Behaviour where
  diffEffect : ModelGithubDiffCommand → Except String String
  /-- `_resolve_adapter`, for the reviewers and for the judge of each thread. -/
  resolveAdapter : Option ℕ → Except String Unit
  buildPrompt : String → Except String ModelPromptBuilderOutput
  /-- The reviewer at a position, by its model key. -/
  reviewer : ℕ → String → ModelPromptBuilderOutput → Except String String
  /-- `uuid4()` for an item of a reviewer's answer. -/
  newId : ℕ → ℕ → String
  aggregate : List (String × List AggregatorFinding) → Except String Unit
  reviewEffect : ModelGithubReviewCommand → Except String (List ThreadState)
  /-- The judge of the thread at a position, by its model key. -/
  judge : ℕ → String → ModelPromptBuilderOutput → Except String String

variable (env : ReviewEnv) (behaviour : Behaviour) (command : ReviewRequest)

/-! ## Review -/

def resolveDiff : Except String String :=
  if command.repo = "" then
    .error (env.validationText "ModelGithubDiffCommand" [.str command.repo])
  else
    behaviour.diffEffect
      { correlationId := command.correlationId
        repo := command.repo
        prNumber := command.prNumber }

/-- The answer of the reviewer at a position, parsed; `none` for a reviewer that raised. -/
def reviewOne (prompt : ModelPromptBuilderOutput) (index : ℕ) (modelKey : String) :
    Except String (Option ModelParseResult) :=
  match behaviour.reviewer index modelKey prompt with
  | .error _ => .ok none
  | .ok raw => (parseModelResponse env (behaviour.newId index) raw modelKey).map some

/-- The findings of the reviewers from a position on. -/
def fanOutReview (prompt : ModelPromptBuilderOutput) (index : ℕ) :
    List String → Except String (List ReviewFinding)
  | [] => .ok []
  | modelKey :: rest => do
      let parsed ← reviewOne env behaviour prompt index modelKey
      let findings ← fanOutReview prompt (index + 1) rest
      return (parsed.elim [] ModelParseResult.findings).map ReviewFinding.fromModelReviewFinding ++
        findings

def findingToAggregatorDict (finding : ReviewFinding) : AggregatorFinding where
  ruleId := finding.category.value
  filePath := match finding.filePath with
    | some path => if path = "" then "<unknown>" else path
    | none => "<unknown>"
  lineStart := max 1 (finding.lineStart.getD 1)
  severity := finding.severity.value
  normalizedMessage := finding.title ++ ": " ++ finding.description

section

variable (findings : List ReviewFinding)

def aggregate : Except String Unit :=
  if findings = [] then .ok ()
  else
    behaviour.aggregate
      (OrderedDict.foldByKey ReviewFinding.sourceModel
        (fun held finding => held.getD [] ++ [findingToAggregatorDict finding]) .empty
        findings).entries

/-! ## Threads -/

def reviewCommand (operation : EnumGithubReviewOperation) (findings : List ReviewFinding)
    (threadStates : List ThreadState) (verdict : Option ReviewVerdict) :
    ModelGithubReviewCommand where
  correlationId := command.correlationId
  operation := operation
  repo := command.repo
  prNumber := command.prNumber
  dryRun := command.dryRun
  maxFindingsPerPr := if operation = .postThreads then command.maxFindingsPerPr else 20
  findings := findings
  threadStates := threadStates
  verdict := verdict

def postThreads : Except String (List ThreadState) :=
  behaviour.reviewEffect (reviewCommand command .postThreads findings [] none)

def watchThreads (threadStates : List ThreadState) : Except String (List ThreadState) :=
  if threadStates = [] then .ok threadStates
  else behaviour.reviewEffect (reviewCommand command .watchThreads [] threadStates none)

def postReport (threadStates : List ThreadState) (verdict : ReviewVerdict) : Except String Unit :=
  (behaviour.reviewEffect (reviewCommand command .postReport findings threadStates
    (some verdict))).map fun _ => ()

/-! ## Judge -/

def JUDGE_SYSTEM_PROMPT : String :=
  "You are a senior code review judge. Determine whether an author's response adequately " ++
  "addresses a code review finding.\n\n" ++
  "Respond ONLY with valid JSON in this exact format:\n" ++
  "\x7b\"verdict\": \"PASS\" | \"FAIL\", \"reasoning\": \"<one or two sentences>\"\x7d\n\n" ++
  "PASS when the reply explains a concrete fix that addresses the finding and the diff confirms " ++
  "it (or the finding was a false positive convincingly explained).\n" ++
  "FAIL when the reply is vague/dismissive, the code is unchanged, or the explanation is " ++
  "technically incorrect. Do not add commentary outside the JSON.\n"

/-- A text that is there and not empty, or nothing. -/
def whenText (text : Option String) (render : String → String) : String :=
  match text with
  | some text => if text = "" then "" else render text
  | none => ""

def buildJudgePrompt (finding : ReviewFinding) (conversation : Option String) : String :=
  let lineInfo :=
    match finding.lineStart with
    | some lineStart =>
      ", lines " ++ toString lineStart ++ "-" ++ toString (finding.lineEnd.getD lineStart)
    | none => ""
  let findingBlock :=
    "## Finding\nTitle: " ++ finding.title ++ "\nSeverity: " ++ finding.severity.value ++
      "\nCategory: " ++ finding.category.value ++ "\nDescription: " ++ finding.description ++ "\n" ++
      whenText finding.suggestion (fun suggestion => "Suggested fix: " ++ suggestion ++ "\n") ++
      whenText finding.filePath (fun path => "File: " ++ path ++ lineInfo ++ "\n")
  let convo :=
    match conversation with
    | some text =>
      if text = "" then "(No author replies — thread was silently dismissed.)\n" else text
    | none => "(No author replies — thread was silently dismissed.)\n"
  findingBlock ++ "\n" ++ "## Author Thread Replies\n" ++ convo

def callJudge (index : ℕ) (finding : ReviewFinding) (thread : ThreadState) :
    Except String ModelJudgeParseResult := do
  behaviour.resolveAdapter (some index)
  let prompt : ModelPromptBuilderOutput :=
    { systemPrompt := JUDGE_SYSTEM_PROMPT
      userPrompt := buildJudgePrompt finding thread.judgeReasoning }
  match behaviour.judge index command.judgeModel prompt with
  | .error raised =>
    return {
      passed := false
      reasoning := "Judge model call failed: " ++ raised ++ ". Treating as FAIL." }
  | .ok raw => parseJudgeResponse env raw

/-- `findings_by_id.get(id)`: the last finding of that identifier. -/
def findingById (id : String) : Option ReviewFinding :=
  findings.reverse.find? fun finding => finding.id = id

def judgeThread (index : ℕ) (thread : ThreadState) :
    Except String (ThreadState × Option ModelJudgeParseResult) :=
  if thread.status ≠ .resolved then .ok (thread, none)
  else if thread.verifyAttempts ≥ MAX_VERIFY_ATTEMPTS then
    .ok ({ thread with
      status := .escalated
      judgeReasoning := some ("Escalated after " ++ toString MAX_VERIFY_ATTEMPTS ++
        " verification attempts. Human review required.") }, none)
  else
    match findingById findings thread.findingId with
    | none => .ok (thread, none)
    | some finding => do
        let verdict ← callJudge env behaviour command index finding thread
        return ({ thread with
          verifyAttempts := thread.verifyAttempts + 1
          judgeReasoning := some verdict.reasoning
          status := if verdict.passed then .verifiedPass else .verifiedFail }, some verdict)

end

def judgeVerify (findings : List ReviewFinding) (index : ℕ) :
    List ThreadState → Except String (List (ThreadState × Option ModelJudgeParseResult))
  | [] => .ok []
  | thread :: rest => do
      let judged ← judgeThread env behaviour command findings index thread
      let others ← judgeVerify findings (index + 1) rest
      return judged :: others

/-! ## Pipeline -/

/-- The state after a phase that succeeded. -/
def succeed (state : ModelPrReviewBotState) (findings : Option (List ReviewFinding))
    (threadStates : Option (List ThreadState)) : Except String ModelPrReviewBotState :=
  (advance state true none findings threadStates).map Prod.fst

/-- What the steps before the report leave. -/
structure Reviewed where
  state : ModelPrReviewBotState
  findings : List ReviewFinding
  judged : List (ThreadState × Option ModelJudgeParseResult)

section

variable (state : ModelPrReviewBotState)

/-- INIT to POST_THREADS: the state and the findings. -/
def collectFindings :
    Except String (ModelPrReviewBotState × List ReviewFinding) := do
  let state ← succeed state none none
  let diffContent ← resolveDiff env behaviour command
  let state ← succeed state none none
  behaviour.resolveAdapter none
  let prompt ← behaviour.buildPrompt diffContent
  let findings ← fanOutReview env behaviour prompt 0 command.reviewerModels
  aggregate behaviour findings
  let state ← succeed state (some findings) none
  return (state, findings)

def collectThreads (findings : List ReviewFinding) :
    Except String (ModelPrReviewBotState × List ThreadState) := do
  let threadStates ← postThreads behaviour command findings
  let state ← succeed state none (some threadStates)
  let threadStates ← watchThreads behaviour command threadStates
  let state ← succeed state none (some threadStates)
  return (state, threadStates)

/-- The steps before the report. -/
def reviewAndJudge : Except String Reviewed := do
  let (state, findings) ← collectFindings env behaviour command state
  let (state, threadStates) ← collectThreads behaviour command state findings
  let judged ← judgeVerify env behaviour command findings 0 threadStates
  let state ← succeed state none (some (judged.map Prod.fst))
  return { state, findings, judged }

def runPipeline : Except String ModelPrReviewBotState := do
  let reviewed ← reviewAndJudge env behaviour command state
  let reportVerdict := makeVerdict reviewed.state command.judgeModel
  postReport behaviour command reviewed.findings (reviewed.judged.map Prod.fst) reportVerdict
  succeed reviewed.state none none

end

/-- Failed advances until the machine has failed; `none` where the turns run out. -/
def failUntil (errorMessage : String) : ℕ → ModelPrReviewBotState →
    Except String (Option ModelPrReviewBotState)
  | 0, _ => .ok none
  | turns + 1, state =>
    if state.currentPhase = .failed then .ok (some state)
    else
      match advance state false (some errorMessage) none none with
      | .error raised => .error raised
      | .ok (next, _) => failUntil errorMessage turns next

def forceFailed (state : ModelPrReviewBotState) (errorMessage : String) :
    Except String (Option ModelPrReviewBotState) :=
  if isTerminal state.currentPhase then .ok (some state)
  else failUntil errorMessage (state.maxConsecutiveFailures + 1) state

/-- The completed event; an error is an exception of `handle`, and `none` a loop without end. -/
def handle : Except String (Option ModelPrReviewCompletedEvent) :=
  let state := startState command
  let ended : Except String (Option ModelPrReviewBotState) :=
    match runPipeline env behaviour command state with
    | .ok state => .ok (some state)
    | .error raised => forceFailed state raised
  ended.map fun state => state.map fun state =>
    { finalPhase := state.currentPhase
      verdict := makeVerdict state command.judgeModel }

end

end OmniMarket.PrReview
