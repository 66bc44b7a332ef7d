import Mathlib
import OmniMarket.Lib.Acting
import OmniMarket.PrLedger.Ledger
import OmniMarket.Lib.Regex

/-!
# What a PR sweep works on

The records that pass between the phases of one pass of the PR lifecycle orchestrator, the
state reducer's intents and the arm gate's decision. A PR's number is an integer, as in the
source: the effects and the ledger refuse one that is not positive.
-/

namespace OmniMarket.PrSweep

section

open OmniMarket.PrLedger (EnumPrLedgerEventKind EnumPrLedgerConclusion EnumOrchestratorAction
  EnumPrLifecyclePhase)

/-- What identifies a PR: its repository and its number. -/
abbrev PrKey := String × ℤ

/-! ## Start command -/

inductive EnumArmActionMode where
  | reportOnly
  | enforce
deriving DecidableEq

def EnumArmActionMode.value : EnumArmActionMode → String
  | .reportOnly => "report_only"
  | .enforce => "enforce"

structure ModelPrLifecycleStartCommand where
  correlationId : String
  runId : String
  dryRun : Bool := false
  inventoryOnly : Bool := false
  fixOnly : Bool := false
  mergeOnly : Bool := false
  repos : String := ""
  verify : Bool := false
  verifyTimeoutSeconds : ℕ := 30
  actionMode : EnumArmActionMode := .reportOnly
  mergeQueueMutationKillSwitch : Bool := true
  mergeWaveCap : ℕ := 3
  enableStallRemediation : Bool := false

/-! ## Inventory -/

structure PrRecord where
  prNumber : ℤ
  repo : String
  branch : String := ""
  headSha : Option String := none
  checksStatus : String := "unknown"
  failedCheckReasonCodes : List String := []
  coderabbitUnresolved : Option ℤ := none
  mergeStateStatus : Option String := none
  isDraft : Option Bool := none

def PrRecord.key (record : PrRecord) : PrKey := (record.repo, record.prNumber)

structure StuckQueuePr where
  repo : String
  prNumber : ℤ
  queueState : String := ""
  mergeGroupRunCount : Option ℤ := none
  headSha : Option String := none

structure InventoryResult where
  prs : List PrRecord := []
  totalCollected : ℕ := 0
  stuckQueuePrs : List StuckQueuePr := []

structure OrgWideOpenPrRemainderRef where
  repo : String
  prNumber : ℤ
  title : String := ""
  url : String := ""

structure OrgWideOpenPrs where
  openCount : ℕ
  sweepDone : Bool
  remainders : List OrgWideOpenPrRemainderRef

/-! ## Triage and the state reducer -/

inductive EnumPrCategory where
  | green
  | red
  | conflicted
  | occDependency
  | needsReview
  | unknown
deriving DecidableEq

def EnumPrCategory.value : EnumPrCategory → String
  | .green => "green"
  | .red => "red"
  | .conflicted => "conflicted"
  | .occDependency => "occ_dependency"
  | .needsReview => "needs_review"
  | .unknown => "unknown"

structure TriageRecord where
  prNumber : ℤ
  repo : String
  category : EnumPrCategory := .unknown
  ticketIds : List String := []
  blockReason : String := ""
deriving DecidableEq

def TriageRecord.key (record : TriageRecord) : PrKey := (record.repo, record.prNumber)

inductive EnumReducerIntent where
  | merge
  | fix
  | skip
deriving DecidableEq

structure ReducerIntent where
  prNumber : ℤ
  repo : String
  intent : EnumReducerIntent
  ticketIds : List String := []
  reason : String := ""

def ReducerIntent.key (intent : ReducerIntent) : PrKey := (intent.repo, intent.prNumber)

section Reducer

variable (command : ModelPrLifecycleStartCommand)

def intentFor (category : EnumPrCategory) : EnumReducerIntent :=
  if command.inventoryOnly then .skip
  else
    match category with
    | .green => if command.fixOnly then .skip else .merge
    | .occDependency => .skip
    | .red | .conflicted | .needsReview => if command.mergeOnly then .skip else .fix
    | .unknown => .skip

/-- `HandlerPrLifecycleStateReducer.handle`. -/
def reducerHandle (classified : List TriageRecord) : List ReducerIntent :=
  classified.map fun pr =>
    { prNumber := pr.prNumber
      repo := pr.repo
      intent := intentFor command pr.category
      ticketIds := pr.ticketIds
      reason := pr.blockReason }

end Reducer

def recordsWith (kind : EnumReducerIntent) (intents : List ReducerIntent)
    (classified : List TriageRecord) : List TriageRecord :=
  intents.flatMap fun intent => classified.filter fun tr =>
    tr.key == intent.key && intent.intent == kind

/-! ## The arm gate -/

structure ModelArmGatePolicy where
  actionMode : EnumArmActionMode := .reportOnly
  killSwitch : Bool := true
  waveCap : ℕ := 3
  enableStallRemediation : Bool := false

structure ModelArmCandidate where
  repo : String
  prNumber : ℤ
  isDraft : Option Bool := none
  coderabbitUnresolved : Option ℤ := none
  mergeStateStatus : Option String := none
  statusChecks : Option String := none
  occCompanionVerified : Option Bool := none

inductive EnumArmDecision where
  | arm
  | withhold
deriving DecidableEq

structure ModelArmGateDecision where
  repo : String
  prNumber : ℤ
  decision : EnumArmDecision
  withheldReasons : List String := []

def requiredMergeStateStatus : String := "CLEAN"

def requiredStatusChecks : String := "SUCCESS"

def reprBool : Option Bool → String
  | none => "None"
  | some true => "True"
  | some false => "False"

def reprInt : Option ℤ → String
  | none => "None"
  | some number => toString number

section ArmGate

variable (unicode : UnicodeTable)

def reprText : Option String → String
  | none => "None"
  | some text => PyText.reprString unicode text

variable (candidate : ModelArmCandidate) (policy : ModelArmGatePolicy)

def withheldReasons : List String :=
  (if policy.actionMode ≠ .enforce then
    ["action_mode=" ++ PyText.reprString unicode policy.actionMode.value ++ " (not enforce)"]
    else []) ++
  (if policy.killSwitch then ["kill_switch_engaged"] else []) ++
  (if candidate.isDraft ≠ some false then
    ["is_draft=" ++ reprBool candidate.isDraft ++ " (not confirmed False)"] else []) ++
  (if candidate.coderabbitUnresolved ≠ some 0 then
    ["coderabbit_unresolved=" ++ reprInt candidate.coderabbitUnresolved ++ " (not confirmed 0)"]
    else []) ++
  (if candidate.mergeStateStatus ≠ some requiredMergeStateStatus then
    ["merge_state_status=" ++ reprText unicode candidate.mergeStateStatus ++ " (not " ++
      PyText.reprString unicode requiredMergeStateStatus ++ ")"] else []) ++
  (if candidate.statusChecks ≠ some requiredStatusChecks then
    ["status_checks=" ++ reprText unicode candidate.statusChecks ++ " (not " ++
      PyText.reprString unicode requiredStatusChecks ++ ")"] else []) ++
  (if candidate.occCompanionVerified ≠ some true then
    ["occ_companion_verified=" ++ reprBool candidate.occCompanionVerified ++
      " (not confirmed True)"] else [])

/-- `HandlerPrArmGate.handle`. -/
def armGateHandle : ModelArmGateDecision where
  repo := candidate.repo
  prNumber := candidate.prNumber
  decision := if (withheldReasons unicode candidate policy).isEmpty then .arm else .withhold
  withheldReasons := withheldReasons unicode candidate policy

/-- The policy and the facts under which a PR may be armed. -/
structure Armable : Prop where
  enforced : policy.actionMode = .enforce
  disengaged : policy.killSwitch = false
  ready : candidate.isDraft = some false
  reviewed : candidate.coderabbitUnresolved = some 0
  clean : candidate.mergeStateStatus = some requiredMergeStateStatus
  passed : candidate.statusChecks = some requiredStatusChecks
  attested : candidate.occCompanionVerified = some true

theorem armGate_arms :
    (armGateHandle unicode candidate policy).decision = .arm ↔ Armable candidate policy := by
  have noReason : (armGateHandle unicode candidate policy).decision = .arm ↔
      withheldReasons unicode candidate policy = [] := by
    simp [armGateHandle]
  rw [noReason]
  constructor
  · intro none
    simp only [withheldReasons, List.append_eq_nil_iff, ite_eq_right_iff, List.cons_ne_nil,
      imp_false, not_not, Bool.not_eq_true, ne_eq] at none
    obtain ⟨⟨⟨⟨⟨⟨enforced, disengaged⟩, ready⟩, reviewed⟩, clean⟩, passed⟩, attested⟩ := none
    exact ⟨enforced, disengaged, ready, reviewed, clean, passed, attested⟩
  · intro armable
    simp [withheldReasons, armable.enforced, armable.disengaged, armable.ready,
      armable.reviewed, armable.clean, armable.passed, armable.attested]

end ArmGate

/-! ## Effects -/

structure ModelPrMergeCommand where
  correlationId : String
  prNumber : ℤ
  repo : String
  triageVerdict : String
  useMergeQueue : Bool
  dryRun : Bool

def ModelPrMergeCommand.key (command : ModelPrMergeCommand) : PrKey :=
  (command.repo, command.prNumber)

/-- What the merge handler returns, of which the orchestrator reads two fields. -/
structure ModelPrMergeResult where
  merged : Bool
  error : Option String := none

structure MergeResult where
  prsMerged : ℕ := 0
  prsFailed : ℕ := 0

structure ModelWorktreePruneCommand where
  correlationId : String
  ticketId : String
  repo : String
  branch : Option String
  prNumber : ℤ

def ModelWorktreePruneCommand.key (command : ModelWorktreePruneCommand) : PrKey :=
  (command.repo, command.prNumber)

structure ModelPrLifecycleFixCommand where
  correlationId : String
  prNumber : ℤ
  repo : String
  ticketId : Option String
  dryRun : Bool

structure FixResult where
  prsDispatched : ℕ := 0
  prsSkipped : ℕ := 0

/-- What the fix handler returns: an aggregate that is taken as it is, or a result whose effect
is read back. -/
inductive FixAnswer where
  | aggregate (result : FixResult)
  | result (fixApplied : Bool)

structure FixerDispatch where
  prNumber : ℤ
  repo : String
  stallCategory : String
  blockingReason : String

def stallCategoryForDispatch : EnumPrCategory → String
  | .red => "red"
  | .conflicted => "conflicted"
  | _ => "unknown"

/-! ## State and log -/

inductive EnumOrchestratorState where
  | idle
  | inventorying
  | triaging
  | verifying
  | merging
  | postMergeTail
  | fixing
  | complete
  | failed
deriving DecidableEq

def EnumOrchestratorState.value : EnumOrchestratorState → String
  | .idle => "IDLE"
  | .inventorying => "INVENTORYING"
  | .triaging => "TRIAGING"
  | .verifying => "VERIFYING"
  | .merging => "MERGING"
  | .postMergeTail => "POST_MERGE_TAIL"
  | .fixing => "FIXING"
  | .complete => "COMPLETE"
  | .failed => "FAILED"

def phaseForState : EnumOrchestratorState → EnumPrLifecyclePhase
  | .idle => .inventory
  | .inventorying => .inventory
  | .triaging => .triage
  | .verifying => .branchChecks
  | .fixing => .branchChecks
  | .merging => .mergeGroup
  | .postMergeTail => .postMergeTail
  | .complete => .terminal
  | .failed => .terminal

/-- A source event for the PR ledger; its run and correlation ids are the command's. -/
structure LedgerEvent where
  kind : EnumPrLedgerEventKind
  repo : String
  prNumber : ℤ
  headSha : Option String := none
  mergeGroupSha : Option String := none
  conclusion : Option EnumPrLedgerConclusion := none
  orchestratorAction : EnumOrchestratorAction
  phase : EnumPrLifecyclePhase

def LedgerEvent.key (event : LedgerEvent) : PrKey := (event.repo, event.prNumber)

end

/-!
# The pre-merge verification of a PR

The changed files of a PR select what is verified, and the outcome decides whether the PR is
blocked. The `gh` listing and the verification probe are the surroundings'.
-/

section

open Regex

inductive EnumVerificationTarget where
  | runtimeHealth
  | projectionRowCheck
  | projectionSinkCheck
  | apiRouteCheck
  | dbMigrationCheck
  | kafkaTopicCheck
  | skippedNoMapping
deriving DecidableEq

inductive EnumVerificationOutcome where
  | merged
  | verificationFailed
  | verificationUnavailable
  | verificationTimeout
  | verificationToolError
  | skippedNoMapping
  | skippedByPolicy
deriving DecidableEq

def EnumVerificationOutcome.value : EnumVerificationOutcome → String
  | .merged => "MERGED"
  | .verificationFailed => "VERIFICATION_FAILED"
  | .verificationUnavailable => "VERIFICATION_UNAVAILABLE"
  | .verificationTimeout => "VERIFICATION_TIMEOUT"
  | .verificationToolError => "VERIFICATION_TOOL_ERROR"
  | .skippedNoMapping => "SKIPPED_NO_MAPPING"
  | .skippedByPolicy => "SKIPPED_BY_POLICY"

def verificationOutcomes : List EnumVerificationOutcome :=
  [.merged, .verificationFailed, .verificationUnavailable, .verificationTimeout,
    .verificationToolError, .skippedNoMapping, .skippedByPolicy]

/-! ## Targets -/

/-- `.*`. -/
def anything : Pattern := .star true (.one false (CharSet.except (CharSet.single '\n')))

/-- `(^|.*/)`. -/
def anyDirectory : Pattern := .group (.alt .start (.seq anything (Pattern.literal false "/")))

/-- `(.*/)?`. -/
def someDirectory : Pattern :=
  Pattern.optional (.group (.seq anything (Pattern.literal false "/")))

/-- `[^/]+`. -/
def fileStem : Pattern := Pattern.plus (.one false (CharSet.except (CharSet.single '/')))

def runtimeHealthRules : List Pattern :=
  [.seq anyDirectory (Pattern.literal false "runtime/auto_wiring/"),
    .seq anyDirectory (Pattern.literal false "auto_wiring/"),
    Pattern.sequence [anyDirectory, Pattern.literal false "service_kernel.py", .finish],
    Pattern.sequence [anyDirectory, Pattern.literal false "handlers/handler_", fileStem,
      Pattern.literal false ".py", .finish]]

/-- `^src/(.*/)?` and a Python file whose name starts with `stem`. -/
def sourceFile (stem : String) : Pattern :=
  Pattern.sequence [.start, Pattern.literal false "src/", someDirectory,
    Pattern.literal false stem, anything, Pattern.literal false ".py", .finish]

def targetRules : List (Pattern × EnumVerificationTarget) :=
  [(sourceFile "projection", .projectionRowCheck),
    (sourceFile "projector", .projectionRowCheck),
    (sourceFile "handler", .projectionSinkCheck),
    (sourceFile "route", .apiRouteCheck),
    (sourceFile "api", .apiRouteCheck),
    (.seq .start (Pattern.literal false "pages/api/"), .apiRouteCheck),
    (.seq .start (Pattern.literal false "drizzle/"), .dbMigrationCheck),
    (.seq .start (Pattern.literal false "migrations/"), .dbMigrationCheck),
    (Pattern.sequence [anyDirectory, Pattern.literal false "topics.yaml", .finish],
      .kafkaTopicCheck),
    (Pattern.sequence [anyDirectory, Pattern.literal false "contract.yaml", .finish],
      .kafkaTopicCheck)]

section Mapping

variable (unicode : UnicodeTable)

def requiresRuntimeHealth (changedFiles : List String) : Bool :=
  changedFiles.any fun path =>
    runtimeHealthRules.any fun pattern => pattern.search unicode path.toList

def targetOfPath (path : String) : Option EnumVerificationTarget :=
  (targetRules.find? fun rule => rule.1.search unicode path.toList).map Prod.snd

def mapChangedFilesToTarget (changedFiles : List String) : EnumVerificationTarget :=
  if requiresRuntimeHealth unicode changedFiles then .runtimeHealth
  else (changedFiles.findSome? (targetOfPath unicode)).getD .skippedNoMapping

end Mapping

/-! ## Outcomes -/

/-- What `_pr_changed_files` makes of its attempts; `none` is `ChangedFilesUnavailableError`. -/
def prChangedFiles (attempt : ℕ → Option (List String)) : Option (List String) :=
  (attempt 1).or (attempt 2)

/-- A PR, what was verified of it and how that came out. -/
structure Verification where
  repo : String
  prNumber : ℤ
  target : EnumVerificationTarget
  changedFilesUnavailable : Bool
  outcome : EnumVerificationOutcome
deriving DecidableEq

def Verification.key (verification : Verification) : PrKey :=
  (verification.repo, verification.prNumber)

def indeterminateVerificationOutcomes : List EnumVerificationOutcome :=
  [.verificationUnavailable, .verificationTimeout, .verificationToolError]

def Verification.isCodePr (verification : Verification) : Bool :=
  verification.changedFilesUnavailable || verification.target != .skippedNoMapping

def Verification.shouldBlock (verification : Verification) : Bool :=
  verification.outcome == .verificationFailed ||
    (indeterminateVerificationOutcomes.contains verification.outcome && verification.isCodePr)

/-- The verification of one PR: `attempt` lists its changed files and `probe` verifies a
target. -/
def verificationOf (unicode : UnicodeTable) (dryRun : Bool) (pr : TriageRecord)
    (attempt : ℕ → Option (List String))
    (probe : EnumVerificationTarget → Except String EnumVerificationOutcome) : Verification :=
  match prChangedFiles attempt with
  | none => ⟨pr.repo, pr.prNumber, .skippedNoMapping, true, .verificationUnavailable⟩
  | some changedFiles =>
    let target := mapChangedFilesToTarget unicode changedFiles
    let outcome :=
      if dryRun then .skippedByPolicy
      else if target = .skippedNoMapping then .skippedNoMapping
      else
        match probe target with
        | .ok outcome => outcome
        -- A probe that raises is a tool error of this PR only.
        | .error _ => .verificationToolError
    ⟨pr.repo, pr.prNumber, target, false, outcome⟩

theorem verificationOf_key (unicode : UnicodeTable) (dryRun : Bool) (pr : TriageRecord)
    (attempt : ℕ → Option (List String))
    (probe : EnumVerificationTarget → Except String EnumVerificationOutcome) :
    (verificationOf unicode dryRun pr attempt probe).key = pr.key := by
  unfold verificationOf
  cases prChangedFiles attempt with
  | none => rfl
  | some changedFiles => rfl

/-- How often each outcome came out, every outcome included. -/
def renderVerificationBreakdown (outcomes : List EnumVerificationOutcome) :
    List (String × ℕ) :=
  verificationOutcomes.map fun outcome => (outcome.value, outcomes.count outcome)

end

end OmniMarket.PrSweep
