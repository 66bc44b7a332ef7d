import Mathlib.Data.Prod.Lex
import Mathlib.Order.Lex
import OmniMarket.PrSweep.Models

/-!
# One pass of the PR lifecycle orchestrator

`HandlerPrLifecycleOrchestrator._run_sweep`: inventory, triage, verification, merge, post-merge
tail and fix, with the state it reports from and the log of what it asked of others. What the
others answer is an argument; an answer to the calls of a loop depends on the turn of the loop.
A raised exception is its text. Nothing reads the answer of a prune. Log messages, the
repo-health fan-out and the delegation counters are left out.
-/

namespace OmniMarket.PrSweep

open OmniMarket.PrLedger (EnumPrLedgerConclusion EnumOrchestratorAction EnumPrLifecyclePhase)
open Acting

/-! ## Outage breaker -/

inductive EnumOutageBreakerState where
  | closed
  | opened
deriving DecidableEq

structure OutageCircuitBreaker where
  state : EnumOutageBreakerState := .closed
  maxProbeAttempts : ℕ := 3
  openCount : ℕ := 0
  consecutiveProbeFailures : ℕ := 0
  lastObservedOutage : Bool := false

def outageCode : String := "github_api_outage"

def OutageCircuitBreaker.observe (breaker : OutageCircuitBreaker) (reasonCodes : List String) :
    OutageCircuitBreaker :=
  let outage := reasonCodes.contains outageCode
  let breaker := { breaker with lastObservedOutage := outage }
  if outage && breaker.state == .closed then
    { breaker with
      state := .opened
      openCount := breaker.openCount + 1
      consecutiveProbeFailures := 0 }
  else breaker

def OutageCircuitBreaker.probeRecovery (breaker : OutageCircuitBreaker)
    (probe : Except String Bool) : OutageCircuitBreaker :=
  if breaker.state == .closed then breaker
  else if breaker.maxProbeAttempts ≤ breaker.consecutiveProbeFailures then breaker
  else
    match probe with
    | .ok true => { breaker with state := .closed, consecutiveProbeFailures := 0 }
    | _ => { breaker with consecutiveProbeFailures := breaker.consecutiveProbeFailures + 1 }

def collectSweepReasonCodes (inventory : InventoryResult) : List String :=
  inventory.prs.flatMap PrRecord.failedCheckReasonCodes

/-! ## Surroundings, log and state -/

/-- What the pass calls, as it answers. -/
structure Surroundings where
  unicode : UnicodeTable
  /-- `hashlib.sha256(text).hexdigest()`. -/
  sha256Hex : String → String
  /-- The text of a model's validation error. -/
  invalidText : String
  publishPhase : EnumOrchestratorState → Except String Unit
  inventory : List String → Except String InventoryResult
  census : Except String (Option OrgWideOpenPrs)
  recoveryProbe : Option (Except String Bool)
  remediateQueueStall : ℕ → Except String Unit
  triage : List PrRecord → Except String (List TriageRecord)
  /-- The reducer's ledger rows and the file of dependency edges. -/
  project : List ReducerIntent → Except String Unit
  /-- The changed files of the PR of a turn, as `gh` lists them at an attempt. -/
  listChangedFiles : ℕ → ℕ → Option (List String)
  verify : ℕ → EnumVerificationTarget → Except String EnumVerificationOutcome
  occReadback : ℕ → Except String Bool
  merge : ℕ → ModelPrMergeCommand → Except String ModelPrMergeResult
  pruneWired : Bool
  fixerDispatchTopic : Bool
  publishFixerDispatch : ℕ → Except String Unit
  fix : ℕ → ModelPrLifecycleFixCommand → Except String FixAnswer
  fixReadback : ℕ → Except String Bool

/-- One thing the pass did. -/
inductive Entry where
  | phaseRecorded (fromPhase toPhase : EnumPrLifecyclePhase)
  | phasePublished (fromState toState : EnumOrchestratorState)
  | ledger (event : LedgerEvent)
  | stallRemediated (repo : String) (prNumber : ℤ)
  | verified (verification : Verification)
  | armReadBack (repo : String) (prNumber : ℤ) (attested : Bool)
  /-- A call of the merge handler; without an answer it raised. -/
  | merge (command : ModelPrMergeCommand) (answer : Option ModelPrMergeResult)
  | prune (command : ModelWorktreePruneCommand)
  | fixerDispatch (payload : FixerDispatch)
  | fix (command : ModelPrLifecycleFixCommand)
  | fixReadBack (repo : String) (prNumber : ℤ) (attested : Bool)

structure SweepState where
  fsm : EnumOrchestratorState := .idle
  phase : EnumPrLifecyclePhase := .inventory
  prsInventoried : ℕ := 0
  prsMerged : ℕ := 0
  prsFixed : ℕ := 0
  prsSkipped : ℕ := 0
  prsVerified : ℕ := 0
  errorMessage : Option String := none
  orgWideOpen : Option OrgWideOpenPrs := none
  verificationOutcomes : OrderedDict PrKey EnumVerificationOutcome := .empty
  prsVerificationBlocked : ℕ := 0
  outageActive : Bool := false
  outageMutationsWithheld : ℕ := 0

abbrev Pass := Acting SweepState Entry String

structure ModelPrLifecycleResult where
  correlationId : String
  prsInventoried : ℕ
  prsMerged : ℕ
  prsFixed : ℕ
  prsSkipped : ℕ
  prsVerified : ℕ
  prsVerificationBlocked : ℕ
  verificationBreakdown : List (String × ℕ)
  finalState : String
  errorMessage : Option String
  orgWideOpenCount : ℕ
  orgWideOpenRemainders : List OrgWideOpenPrRemainderRef
  outageActive : Bool
  outageMutationsWithheld : ℕ

def finalStateNotDone : String := "NOT_DONE"

def applyOrgWideDoneGate (state : SweepState) : String × List OrgWideOpenPrRemainderRef :=
  if state.fsm ≠ .complete then (state.fsm.value, [])
  else
    match state.orgWideOpen with
    | none => (state.fsm.value, [])
    | some census =>
      if census.sweepDone then (state.fsm.value, [])
      else (finalStateNotDone, census.remainders)

section Pass

variable (command : ModelPrLifecycleStartCommand) (around : Surroundings)

def buildResult (state : SweepState) : ModelPrLifecycleResult :=
  let (finalState, remainders) := applyOrgWideDoneGate state
  { correlationId := command.correlationId
    prsInventoried := state.prsInventoried
    prsMerged := state.prsMerged
    prsFixed := state.prsFixed
    prsSkipped := state.prsSkipped
    prsVerified := state.prsVerified
    prsVerificationBlocked := state.prsVerificationBlocked
    verificationBreakdown := renderVerificationBreakdown state.verificationOutcomes.values
    finalState
    errorMessage := state.errorMessage
    orgWideOpenCount := (state.orgWideOpen.map OrgWideOpenPrs.openCount).getD 0
    orgWideOpenRemainders := remainders
    outageActive := state.outageActive
    outageMutationsWithheld := state.outageMutationsWithheld }

/-! ## Recording -/

def recordLedgerEvent (event : EnumPrLifecyclePhase → LedgerEvent) : Pass Unit :=
  note fun state =>
    if 1 ≤ (event state.phase).prNumber then [.ledger (event state.phase)] else []

def transitionPhase (toState : EnumOrchestratorState) : Pass Unit := do
  note fun state =>
    (if phaseForState toState = state.phase then []
      else [.phaseRecorded state.phase (phaseForState toState)]) ++
      [.phasePublished state.fsm toState]
  update fun state => { state with fsm := toState, phase := phaseForState toState }
  answer (around.publishPhase toState)

def syntheticMergeGroupSha (repo : String) (prNumber : ℤ) (attempt : ℕ) : String :=
  let seed :=
    command.runId ++ ":" ++ repo ++ ":" ++ toString prNumber ++ ":" ++ toString attempt
  "mg-" ++ String.ofList ((around.sha256Hex seed).toList.take 12) ++ "-" ++ toString attempt

/-! ## Inventory -/

/-- The terms of `command.repos`. -/
def reposFilter : List String :=
  ((command.repos.toList.splitOn ',').map fun term => String.ofList (PyText.strip term)).filter
    fun term => term != ""

section

variable (inventory : InventoryResult)

def outageBreaker : OutageCircuitBreaker :=
  let observed := OutageCircuitBreaker.observe {} (collectSweepReasonCodes inventory)
  match around.recoveryProbe with
  | some probe => if observed.state = .opened then observed.probeRecovery probe else observed
  | none => observed

def applyOutageBreaker : Pass Bool := do
  let outageActive := (outageBreaker around inventory).state == .opened
  update fun state => { state with outageActive }
  pure outageActive

def isStalled (entry : StuckQueuePr) : Bool :=
  entry.queueState == "AWAITING_CHECKS" && entry.mergeGroupRunCount == some 0

def remediateStalledQueuePr (position : ℕ) (entry : StuckQueuePr) : Pass Unit :=
  if isStalled entry then do
    note fun _ => [.stallRemediated entry.repo entry.prNumber]
    match around.remediateQueueStall position with
    | .error _ => pure ()
    | .ok _ =>
      recordLedgerEvent fun _ =>
        { kind := .rerunAttempted
          repo := entry.repo
          prNumber := entry.prNumber
          headSha := entry.headSha
          mergeGroupSha := some (syntheticMergeGroupSha command around entry.repo entry.prNumber 2)
          orchestratorAction := .requeue
          phase := .mergeGroup }
  else pure ()

def remediateStalledQueuePrs : Pass Unit :=
  if command.dryRun || command.inventoryOnly then pure ()
  else if command.actionMode ≠ .enforce ∨ command.mergeQueueMutationKillSwitch = true ∨
      command.enableStallRemediation = false then pure ()
  else forEach (remediateStalledQueuePr command around) 0 inventory.stuckQueuePrs

/-- Stalled PRs are left alone while the breaker is open. -/
def attendStalledQueuePrs (outageActive : Bool) : Pass Unit :=
  if outageActive then
    update fun state => { state with
      outageMutationsWithheld := state.outageMutationsWithheld + inventory.stuckQueuePrs.length }
  else remediateStalledQueuePrs command around inventory

end

def takeInventory : Pass (InventoryResult × Bool) := do
  transitionPhase around .inventorying
  let inventory ← answer (around.inventory (reposFilter command))
  update fun state => { state with prsInventoried := inventory.totalCollected }
  let census ← answer around.census
  update fun state => { state with orgWideOpen := census }
  forEach (fun _ pr => recordLedgerEvent fun phase =>
    { kind := .prInventoried
      repo := pr.repo
      prNumber := pr.prNumber
      headSha := pr.headSha
      orchestratorAction := .inventory
      phase }) 0 inventory.prs
  let outageActive ← applyOutageBreaker around inventory
  attendStalledQueuePrs command around inventory outageActive
  pure (inventory, outageActive)

/-! ## Verification -/

/-- How the verification at one position of the merge candidates comes out. -/
def verificationAt (position : ℕ) (pr : TriageRecord) : Verification :=
  verificationOf around.unicode command.dryRun pr (around.listChangedFiles position)
    (around.verify position)

def verifyOne (position : ℕ) (pr : TriageRecord) : Pass Unit := do
  let verification := verificationAt command around position pr
  note fun _ => [.verified verification]
  update fun state => { state with
    verificationOutcomes := state.verificationOutcomes.set pr.key verification.outcome }
  if verification.shouldBlock then do
    update fun state => { state with prsVerificationBlocked := state.prsVerificationBlocked + 1 }
    recordLedgerEvent fun phase =>
      { kind := .finalConclusion
        repo := pr.repo
        prNumber := pr.prNumber
        conclusion := some .failed
        orchestratorAction := .fix
        phase }
  else if verification.outcome = .merged then
    update fun state => { state with prsVerified := state.prsVerified + 1 }
  else pure ()

def cleared (mergePrs : List TriageRecord) : List TriageRecord :=
  (mergePrs.zipIdx.filter fun indexed =>
    !(verificationAt command around indexed.2 indexed.1).shouldBlock).map Prod.fst

def runVerification (mergePrs : List TriageRecord) : Pass (List TriageRecord) := do
  forEach (verifyOne command around) 0 mergePrs
  pure (cleared command around mergePrs)

def verifyPhase (mergePrs : List TriageRecord) : Pass (List TriageRecord) :=
  if command.verify && !mergePrs.isEmpty && !command.fixOnly then do
    transitionPhase around .verifying
    runVerification command around mergePrs
  else pure mergePrs

/-! ## Triage -/

/-- What the pass knows when it comes to merge and fix. -/
structure Ready where
  inventory : InventoryResult
  outageActive : Bool
  mergePrs : List TriageRecord
  fixPrs : List TriageRecord

def settleIntents (inventory : InventoryResult) (outageActive : Bool)
    (classified mergePrs : List TriageRecord) : Pass (Option Ready) :=
  let intents := reducerHandle command classified
  if command.dryRun then do
    update fun state => { state with prsSkipped := intents.length }
    pure none
  else do
    let skipped := intents.filter fun intent => intent.intent == .skip
    update fun state => { state with prsSkipped := skipped.length }
    forEach (fun _ intent => recordLedgerEvent fun phase =>
      { kind := .finalConclusion
        repo := intent.repo
        prNumber := intent.prNumber
        conclusion := some .skipped
        orchestratorAction := .skip
        phase }) 0 skipped
    pure (some ⟨inventory, outageActive, mergePrs, recordsWith .fix intents classified⟩)

def classify (inventory : InventoryResult) : Pass (List TriageRecord) := do
  transitionPhase around .triaging
  let classified ← answer (around.triage inventory.prs)
  answer (around.project (reducerHandle command classified))
  pure classified

def triagePhase (inventory : InventoryResult) (outageActive : Bool) : Pass (Option Ready) := do
  let classified ← classify command around inventory
  let mergePrs ← verifyPhase command around
    (recordsWith .merge (reducerHandle command classified) classified)
  settleIntents command inventory outageActive classified mergePrs

/-- All that comes before the first merge; an inventory-only pass ends with its inventory. -/
def prepare : Pass (Option Ready) := do
  let (inventory, outageActive) ← takeInventory command around
  if command.inventoryOnly then pure none else triagePhase command around inventory outageActive

/-! ## Merge -/

def armGatePolicy : ModelArmGatePolicy where
  actionMode := command.actionMode
  killSwitch := command.mergeQueueMutationKillSwitch
  waveCap := command.mergeWaveCap
  enableStallRemediation := command.enableStallRemediation

section

variable (inventory : InventoryResult)

def prLookup (key : PrKey) : Option PrRecord :=
  inventory.prs.reverse.find? fun record => record.key == key

def statusChecksForArm (checksStatus : String) : Option String :=
  match String.ofList (around.unicode.lower checksStatus.toList) with
  | "success" => some "SUCCESS"
  | "failure" => some "FAILURE"
  | "pending" => some "PENDING"
  | _ => none

/-- The candidate; its model refuses a negative count of unresolved threads. -/
def armCandidate (pr : TriageRecord) (record : Option PrRecord) (attested : Option Bool) :
    Except String ModelArmCandidate :=
  let unresolved := record.bind PrRecord.coderabbitUnresolved
  if unresolved.any (· < 0) then .error around.invalidText
  else .ok
    { repo := pr.repo
      prNumber := pr.prNumber
      isDraft := record.bind PrRecord.isDraft
      coderabbitUnresolved := unresolved
      mergeStateStatus := record.bind PrRecord.mergeStateStatus
      statusChecks := record.bind fun found => statusChecksForArm around found.checksStatus
      occCompanionVerified := attested }

/-- Whether the policy alone does not withhold every PR. -/
def mayArm : Bool :=
  command.actionMode == .enforce && !command.mergeQueueMutationKillSwitch

def readBackCompanion (position : ℕ) (pr : TriageRecord) : Pass (Option Bool) :=
  if mayArm command then do
    let attested ← answer (around.occReadback position)
    note fun _ => [.armReadBack pr.repo pr.prNumber attested]
    pure (some attested)
  else pure none

def evaluateArmGate (position : ℕ) (pr : TriageRecord) :
    Pass EnumArmDecision := do
  let attested ← readBackCompanion command around position pr
  let candidate ← answer (armCandidate around pr (prLookup inventory pr.key) attested)
  pure (armGateHandle around.unicode candidate (armGatePolicy command)).decision

def armEach (inventory : InventoryResult) : ℕ → List TriageRecord → Pass (List TriageRecord)
  | _, [] => pure []
  | position, pr :: rest => do
      let decision ← evaluateArmGate command around inventory position pr
      let armed ← armEach inventory (position + 1) rest
      pure (if decision = .arm then pr :: armed else armed)

/-- The armed PRs in the order of repository and number, cut to the wave. -/
def waveOf (armed : List TriageRecord) : List TriageRecord :=
  (armed.mergeSort fun first second => decide (toLex first.key ≤ toLex second.key)).take
    command.mergeWaveCap

def mergeCommandOf (pr : TriageRecord) : ModelPrMergeCommand where
  correlationId := command.correlationId
  prNumber := pr.prNumber
  repo := pr.repo
  triageVerdict := pr.category.value
  useMergeQueue := true
  dryRun := command.dryRun

def mergeCommandFor (pr : TriageRecord) : Except String ModelPrMergeCommand :=
  if 0 < pr.prNumber then .ok (mergeCommandOf command pr) else .error around.invalidText

def MergeResult.count (counts : MergeResult) : Except String ModelPrMergeResult → MergeResult
  | .error _ => { counts with prsFailed := counts.prsFailed + 1 }
  | .ok raw =>
    if raw.merged then { counts with prsMerged := counts.prsMerged + 1 }
    else if raw.error.any (· != "") then { counts with prsFailed := counts.prsFailed + 1 }
    else counts

def mergeEach : ℕ → List TriageRecord → MergeResult → Pass MergeResult
  | _, [], counts => pure counts
  | position, pr :: rest, counts => do
      let mergeCommand ← answer (mergeCommandFor command around pr)
      let raw := around.merge position mergeCommand
      note fun _ => [.merge mergeCommand raw.toOption]
      mergeEach (position + 1) rest (counts.count raw)

def callMergeFanout (ready : Ready) : Pass MergeResult := do
  let armed ← armEach command around ready.inventory 0 ready.mergePrs
  mergeEach command around 0 (waveOf command armed) {}

/-! ## Post-merge tail -/

def pruneCommandFor (tr : TriageRecord) (ticketId : String) :
    Option ModelWorktreePruneCommand :=
  if ticketId ≠ "" ∧ tr.repo ≠ "" ∧ 0 < tr.prNumber then
    some
      { correlationId := command.correlationId
        ticketId
        repo := tr.repo
        branch := (inventory.prs.reverse.find? fun record =>
          record.key == tr.key && record.branch != "").map PrRecord.branch
        prNumber := tr.prNumber }
  else none

def pruneMergedWorktrees (merged : List TriageRecord) : Pass Unit :=
  if around.pruneWired then
    forEach (fun _ tr => note fun _ =>
      (tr.ticketIds.filterMap (pruneCommandFor command inventory tr)).map Entry.prune) 0 merged
  else pure ()

end

def concludeMerged (tr : TriageRecord) : Pass Unit :=
  recordLedgerEvent fun phase =>
    { kind := .finalConclusion
      repo := tr.repo
      prNumber := tr.prNumber
      mergeGroupSha := some (syntheticMergeGroupSha command around tr.repo tr.prNumber 1)
      conclusion := some .merged
      orchestratorAction := .merge
      phase }

def postMergeTail (ready : Ready) (counts : MergeResult) : Pass Unit := do
  transitionPhase around .postMergeTail
  forEach (fun _ tr => concludeMerged command around tr) 0 ready.mergePrs
  if 0 < counts.prsMerged then pruneMergedWorktrees command around ready.inventory ready.mergePrs
  else pure ()

def mergeAndConclude (ready : Ready) : Pass Bool := do
  transitionPhase around .merging
  let counts ← callMergeFanout command around ready
  update fun state => { state with prsMerged := counts.prsMerged }
  postMergeTail command around ready counts
  pure command.mergeOnly

def withholdMerge (ready : Ready) : Pass Bool := do
  update fun state => { state with
    outageMutationsWithheld := state.outageMutationsWithheld + ready.mergePrs.length }
  pure false

def mergePhase (ready : Ready) : Pass Bool :=
  if ready.mergePrs.isEmpty || command.fixOnly then pure false
  else if ready.outageActive then withholdMerge ready
  else mergeAndConclude command around ready

/-! ## Fix -/

def dispatchFixer (position : ℕ) (pr : TriageRecord) : Pass Unit := do
  note fun _ => [.fixerDispatch
    { prNumber := pr.prNumber
      repo := pr.repo
      stallCategory := stallCategoryForDispatch pr.category
      blockingReason := pr.blockReason }]
  answer (around.publishFixerDispatch position)

def publishFixerDispatchStart (fixPrs : List TriageRecord) : Pass Unit :=
  if around.fixerDispatchTopic then forEach (dispatchFixer around) 0 fixPrs else pure ()

/-- One fix, with the exception it ended in; only an effect that is read back counts. -/
def fixOne (position : ℕ) (pr : TriageRecord) : Pass (Except String FixResult) :=
  if 0 < pr.prNumber then do
    let fixCommand : ModelPrLifecycleFixCommand :=
      { correlationId := command.correlationId
        prNumber := pr.prNumber
        repo := pr.repo
        ticketId := pr.ticketIds.head?
        dryRun := command.dryRun }
    note fun _ => [.fix fixCommand]
    match around.fix position fixCommand with
    | .error raised => pure (.error raised)
    | .ok (.aggregate result) => pure (.ok result)
    | .ok (.result fixApplied) =>
      if fixApplied && !command.dryRun then
        match around.fixReadback position with
        | .error raised => pure (.error raised)
        | .ok attested => do
            note fun _ => [.fixReadBack pr.repo pr.prNumber attested]
            pure (.ok (if attested then { prsDispatched := 1 } else { prsSkipped := 1 }))
      else pure (.ok { prsSkipped := 1 })
  else pure (.error around.invalidText)

def fixEach : ℕ → List TriageRecord → Pass (List (Except String FixResult))
  | _, [] => pure []
  | position, pr :: rest => do
      let result ← fixOne command around position pr
      let results ← fixEach (position + 1) rest
      pure (result :: results)

/-- The text of the exception group of a number of failed fixes. -/
def fixDispatchErrors (errors : ℕ) : String :=
  "fix dispatch errors (" ++ toString errors ++
    (if errors = 1 then " sub-exception)" else " sub-exceptions)")

def gathered (results : List (Except String FixResult)) : Except String (List FixResult) :=
  let returned := results.filterMap Except.toOption
  if returned.length = results.length then .ok returned
  else .error (fixDispatchErrors (results.length - returned.length))

def fixPhase (ready : Ready) : Pass Unit :=
  if ready.fixPrs.isEmpty || command.mergeOnly then pure ()
  else if ready.outageActive then
    update fun state => { state with
      outageMutationsWithheld := state.outageMutationsWithheld + ready.fixPrs.length }
  else do
    transitionPhase around .fixing
    publishFixerDispatchStart around ready.fixPrs
    let results ← fixEach command around 0 ready.fixPrs
    let results ← answer (gathered results)
    update fun state => { state with
      prsFixed := (results.map FixResult.prsDispatched).sum
      prsSkipped := state.prsSkipped + (results.map FixResult.prsSkipped).sum }
    forEach (fun _ tr => recordLedgerEvent fun phase =>
      { kind := .finalConclusion
        repo := tr.repo
        prNumber := tr.prNumber
        conclusion := some .failed
        orchestratorAction := .fix
        phase }) 0 ready.fixPrs

/-! ## The pass -/

def finishSweep : Option Ready → Pass Unit
  | none => transitionPhase around .complete
  | some ready => do
      let ended ← mergePhase command around ready
      if ended then transitionPhase around .complete
      else do
        fixPhase command around ready
        transitionPhase around .complete

def sweepPhases : Pass Unit := do
  let ready ← prepare command around
  finishSweep command around ready

def runSweep : Pass ModelPrLifecycleResult := do
  attempt (sweepPhases command around) fun raised => do
    update fun state => { state with errorMessage := some raised }
    transitionPhase around .failed
  look (buildResult command)

/-- The pass from a fresh state. -/
def sweep : Ended SweepState Entry String ModelPrLifecycleResult := runSweep command around {}

end Pass

def greenRecord : PrRecord where
  prNumber := 7
  repo := "acme/app"
  checksStatus := "success"
  coderabbitUnresolved := some 0
  mergeStateStatus := some "CLEAN"
  isDraft := some false

/-- Surroundings that answer everything asked of them, and find one PR. -/
def calmSurroundings : Surroundings where
  unicode := PyText.asciiTable
  sha256Hex text := text
  invalidText := "validation error"
  publishPhase _ := .ok ()
  inventory _ := .ok { prs := [greenRecord], totalCollected := 1 }
  census := .ok none
  recoveryProbe := none
  remediateQueueStall _ := .ok ()
  triage prs := .ok (prs.map fun pr =>
    { prNumber := pr.prNumber, repo := pr.repo, category := .green, ticketIds := ["OMN-1"] })
  project _ := .ok ()
  listChangedFiles _ _ := some []
  verify _ _ := .ok .merged
  occReadback _ := .ok true
  merge _ _ := .ok { merged := true }
  pruneWired := true
  fixerDispatchTopic := true
  publishFixerDispatch _ := .ok ()
  fix _ _ := .ok (.result true)
  fixReadback _ := .ok true

end OmniMarket.PrSweep
