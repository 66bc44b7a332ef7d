import OmniMarket.Redeploy.GrantResolver

/-!
# The redeploy orchestrator and the deploy effect

`handle` is `HandlerRedeployOrchestrator.handle` on a payload that its coercers have
validated: each event of the redeploy lifecycle leads to the next command on the bus. The
payload of a grant or gate event is bare, or carries the start request (and the gate
command) that the runtime echoes beside it. The clock and the envelope's correlation id are
arguments; a command's envelope repeats the correlation id of the command.

`deployHandle` is `HandlerDeployPublishMonitor.handle`. What it publishes is kept apart from
what it returns, since it can raise after publishing. The wait for the deploy agent is a
parameter; the signature of the published envelope is left out.
-/

namespace OmniMarket.Redeploy

variable {command : ModelProdPromotionGateCommand}

section

open PyText

/-! ## Events and commands -/

inductive StartPayload where
  | start (command : ModelRedeployStartCommand)
  | redeploy (command : ModelRedeployCommand)

structure GrantResolvedPayload where
  resolved : ModelProdPromotionGrantResolvedEvent
  start : Option ModelRedeployStartCommand := none

structure GateEvaluatedPayload where
  decision : ModelProdPromotionGateDecision
  start : Option ModelRedeployStartCommand := none
  command : Option ModelProdPromotionGateCommand := none

inductive RedeployEvent where
  | redeployStart (payload : StartPayload)
  | grantResolved (payload : GrantResolvedPayload)
  | gateEvaluated (payload : GateEvaluatedPayload)
  | imageBuilt (payload : ModelRuntimeImageBuilt)

inductive RedeployCommand where
  | grantResolve (command : ModelProdPromotionGrantResolveCommand)
  | gateEvaluate (command : ModelProdPromotionGateCommand)
  | deployPublish (command : ModelDeployPublishCommand)
  | completed (event : ModelRedeployCompletedEvent)

/-! ## The orchestrator -/

def dryRunPhasesSimulated : ℕ := 6

def coerceStart : StartPayload → ModelRedeployStartCommand
  | .start command => command
  | .redeploy command =>
    { correlationId := command.correlationId
      scope := .full
      gitRef := "origin/main"
      runtimeLane := command.runtimeLane
      imageRef := command.imageRef
      imageDigest := command.imageDigest
      promotionBatchId := command.promotionBatchId }

/-- `_coerce_grant_resolved`: a bare event is rebuilt into a minimal production start. -/
def coerceGrantResolved (payload : GrantResolvedPayload) :
    ModelProdPromotionGrantResolvedEvent × ModelRedeployStartCommand :=
  (payload.resolved,
    match payload.start with
    | some start => start
    | none =>
      { correlationId := payload.resolved.correlationId
        runtimeLane := .prod
        imageDigest := payload.resolved.grant.map fun grant => grant.approvedImageDigest.value
        promotionBatchId :=
          payload.resolved.grant.map fun grant => grant.approvedPromotionBatchId.value })

/-- `_coerce_gate_result`: a bare decision is rebuilt into a minimal start, whose lane is the
default one. -/
def coerceGateResult (payload : GateEvaluatedPayload) (correlationId : Uuid) :
    ModelProdPromotionGateDecision × ModelRedeployStartCommand ×
      Option ModelProdPromotionGateCommand :=
  (payload.decision,
    match payload.start with
    | some start => start
    | none =>
      { correlationId := correlationId
        imageDigest := payload.decision.imageDigest
        rollbackTarget := payload.decision.rollbackTarget },
    payload.command)

def emitDryRunCompleted (start : ModelRedeployStartCommand) : List RedeployCommand :=
  if start.runtimeLane = .prod then
    [.completed {
      correlationId := start.correlationId
      finalPhase := .blocked
      phasesCompleted := 0
      errorMessage := some ("dry-run: prod lane requires a live prod-promotion-gate " ++
        "evaluation against an out-of-band-resolved grant; a dry-run cannot resolve that " ++
        "grant, so no promotion is simulated and no gate bypass is possible.") }]
  else
    [.completed {
      correlationId := start.correlationId
      finalPhase := .done
      phasesCompleted := dryRunPhasesSimulated
      errorMessage := none }]

section

variable (now : PyDatetime)

section

variable (start : ModelRedeployStartCommand)

/-- `_emit_grant_resolve`. The grant on the start request is dropped. -/
def emitGrantResolve :
    List RedeployCommand :=
  [.grantResolve {
    correlationId := start.correlationId
    requestedImageDigest := start.imageDigest
    promotionBatchId := start.promotionBatchId
    requestedBy := start.requestedBy
    evaluatedAt := now }]

/-- The gate command of `_emit_gate_evaluate`. The class and the lineage keep their
defaults. -/
def gateCommandOf (grant : Option ModelProdPromotionGrant) (evaluatedAt : Option PyDatetime) :
    ModelProdPromotionGateCommand where
  correlationId := start.correlationId
  runtimeLane := start.runtimeLane
  requestedImageDigest := start.imageDigest
  promotionBatchId := start.promotionBatchId
  readinessProjection := start.readinessProjection
  occGateState := start.occGateState
  rollbackTarget := start.rollbackTarget
  previousImage := some start.previousImage
  requestedBy := start.requestedBy
  promotionGrant := grant
  evaluatedAt := evaluatedAt

def emitGateEvaluate (grant : Option ModelProdPromotionGrant) (evaluatedAt : Option PyDatetime) :
    List RedeployCommand :=
  [.gateEvaluate (gateCommandOf start grant evaluatedAt)]

/-- A production request resolves its grant first; other lanes go straight to the gate. -/
def routeStart : List RedeployCommand :=
  if start.runtimeLane = .prod then emitGrantResolve now start
  else emitGateEvaluate start none none

end

def onStart (payload : StartPayload) : List RedeployCommand :=
  let start := coerceStart payload
  if start.dryRun then emitDryRunCompleted start else routeStart now start

/-- The grant of a resolved event: none unless the resolution is `RESOLVED`. -/
def resolvedGrant (resolved : ModelProdPromotionGrantResolvedEvent) :
    Option ModelProdPromotionGrant :=
  if resolved.resolution = .resolved then resolved.grant else none

def onGrantResolved (payload : GrantResolvedPayload) : List RedeployCommand :=
  let (resolved, start) := coerceGrantResolved payload
  emitGateEvaluate start (resolvedGrant resolved) (some resolved.evaluatedAt)

def publishCommandOf (correlationId : Uuid) (decision : ModelProdPromotionGateDecision)
    (start : ModelRedeployStartCommand) (gateCommand : Option ModelProdPromotionGateCommand) :
    ModelDeployPublishCommand where
  correlationId := correlationId
  scope := start.scope
  gitRef := start.gitRef
  runtimeLane := start.runtimeLane
  buildSource := start.buildSource
  services := start.services
  imageRef := start.imageRef
  imageDigest := textOr decision.imageDigest start.imageDigest
  promotionBatchId :=
    match gateCommand with
    | some command => command.promotionBatchId
    | none => start.promotionBatchId
  promotionGrant := gateCommand.bind fun command => command.promotionGrant
  evaluatedAt := gateCommand.bind fun command => command.evaluatedAt
  requestedBy := start.requestedBy
  smokeTest := start.smokeTest
  rollbackTarget :=
    textOrElse decision.rollbackTarget (textOrElse start.rollbackTarget start.previousImage)

def onGateEvaluated (correlationId : Uuid) (payload : GateEvaluatedPayload) :
    List RedeployCommand :=
  let (decision, start, gateCommand) := coerceGateResult payload correlationId
  if !decision.allowed then
    [.completed {
      correlationId := correlationId
      finalPhase := .blocked
      phasesCompleted := 0
      errorMessage := some decision.reason.value }]
  else [.deployPublish (publishCommandOf correlationId decision start gateCommand)]

/-- The start request of a finished build. Its class and lineage have no field to go to. -/
def startOfImageBuilt (built : ModelRuntimeImageBuilt) : ModelRedeployStartCommand where
  correlationId := built.correlationId
  runtimeLane := built.runtimeLane
  imageDigest := some built.digest.value
  imageRef := built.imageRef
  promotionBatchId := built.promotionBatchId
  buildSource := built.buildSource
  requestedBy := "node_redeploy_orchestrator[image-built]"

def onImageBuilt (built : ModelRuntimeImageBuilt) : List RedeployCommand :=
  routeStart now (startOfImageBuilt built)

def handle (correlationId : Uuid) : RedeployEvent → List RedeployCommand
  | .grantResolved payload => onGrantResolved payload
  | .gateEvaluated payload => onGateEvaluated correlationId payload
  | .imageBuilt built => onImageBuilt now built
  | .redeployStart payload => onStart now payload

end

/-! ## The deploy effect -/

@[ext] structure ModelDeployRebuildCommand where
  correlationId : Uuid
  requestedBy : String
  scope : EnumRedeployScope
  runtimeLane : EnumRuntimeLane
  buildSource : EnumBuildSource
  services : List String
  gitRef : String
  imageRef : Option String
  imageDigest : Option String
  prodDigest : runtimeLane = .prod → textTruthy imageDigest = true

structure ModelDeployRefusedEvent where
  correlationId : Uuid
  runtimeLane : EnumRuntimeLane
  requestedImageDigest : Option String
  promotionBatchId : Option String
  grantId : Option String
  reason : EnumProdGrantReason
  detail : NonEmptyString

structure ModelRedeployRolledBackEvent where
  correlationId : Uuid
  runtimeLane : EnumRuntimeLane
  restoredImage : NonEmptyString
  failureReason : NonEmptyString
  failedPhase : EnumRedeployPhase

/-- A message on one of the contract's topics. -/
inductive DeployMessage where
  | rebuildRequested (command : ModelDeployRebuildCommand)
  | deployRefused (event : ModelDeployRefusedEvent)
  | rolledBack (event : ModelRedeployRolledBackEvent)

structure ModelHealthCheck where
  endpoint : String
  passed : Bool

/-- What the wait for the deploy agent came to, as far as the handler reads it. -/
structure ModelRedeployResult where
  success : Bool
  timedOut : Bool
  healthChecks : List ModelHealthCheck

structure DeployMetrics where
  rebuildSuccess : Bool := false
  timedOut : Bool := false
  rolledBack : Bool := false
  deployRefused : Bool := false

structure DeployOutcome where
  published : List DeployMessage
  answer : Except RedeployError (List DeployMessage × DeployMetrics)

def rollbackReason (result : ModelRedeployResult) (smokeTest : Bool) : Option NonEmptyString :=
  if result.timedOut then
    some ⟨"deploy agent timed out before completion; rolling back", by decide⟩
  else if !result.success then none
  else
    let failingHealth := result.healthChecks.filter fun check => !check.passed
    if failingHealth ≠ [] then
      some (NonEmptyString.append ⟨"post-deploy health check failed (", by decide⟩
        (", ".intercalate (failingHealth.map fun check => check.endpoint) ++ "); rolling back"))
    else if smokeTest then
      some ⟨"post-deploy smoke test failed (no live runtime proof); rolling back", by decide⟩
    else none

section

variable (command : ModelDeployPublishCommand)

/-- The rebuild command of `publish_and_monitor`, checked by its model. -/
def rebuildCommandOf :
    Except RedeployError ModelDeployRebuildCommand :=
  if prodDigest : command.runtimeLane = .prod → textTruthy command.imageDigest = true then
    .ok { correlationId := command.correlationId
          requestedBy := command.requestedBy
          scope := command.scope
          runtimeLane := command.runtimeLane
          buildSource := command.buildSource
          services := command.services
          gitRef := command.gitRef
          imageRef := command.imageRef
          imageDigest := command.imageDigest
          prodDigest := prodDigest }
  else
    .error (.validation "ModelDeployRebuildCommand" ("prod runtime_lane requires image_digest: " ++
      "production deploys the exact stability-proven digest"))

/-- `_refuse`: the refusal is the only message. -/
def refuseDeploy (refusal : EnumProdGrantReason × NonEmptyString) : DeployOutcome :=
  let refused : ModelDeployRefusedEvent :=
    { correlationId := command.correlationId
      runtimeLane := command.runtimeLane
      requestedImageDigest := command.imageDigest
      promotionBatchId := command.promotionBatchId
      grantId := command.promotionGrant.map fun grant => grant.grantId.value
      reason := refusal.1
      detail := refusal.2 }
  { published := [.deployRefused refused]
    answer := .ok ([.deployRefused refused], { deployRefused := true }) }

/-- What follows the wait: a rollback of a deploy that went live and failed its checks. -/
def settleDeploy (rebuild : ModelDeployRebuildCommand) (result : ModelRedeployResult) :
    DeployOutcome :=
  let metrics : DeployMetrics :=
    { rebuildSuccess := result.success, timedOut := result.timedOut }
  match rollbackReason result command.smokeTest with
  | none => ⟨[.rebuildRequested rebuild], .ok ([], metrics)⟩
  | some reason =>
    match NonEmptyString.validate? command.rollbackTarget with
    | none =>
      ⟨[.rebuildRequested rebuild],
        .error (.validation "ModelRedeployRolledBackEvent" "restored_image")⟩
    | some restored =>
      let rolledBack : ModelRedeployRolledBackEvent :=
        { correlationId := command.correlationId
          runtimeLane := command.runtimeLane
          restoredImage := restored
          failureReason := reason
          failedPhase := .verifyHealth }
      ⟨[.rebuildRequested rebuild, .rolledBack rolledBack],
        .ok ([.rolledBack rolledBack], { metrics with rolledBack := true })⟩

end

/-- `HandlerDeployPublishMonitor.handle`. -/
def deployHandle (text : RedeployText)
    (monitor : ModelDeployRebuildCommand → Except RedeployError ModelRedeployResult)
    (command : ModelDeployPublishCommand) : DeployOutcome :=
  match verifyProdDeployGrantBinding text command.runtimeLane command.imageDigest
      command.promotionBatchId command.promotionGrant command.evaluatedAt with
  | .error raised => ⟨[], .error raised⟩
  | .ok (some refusal) => refuseDeploy command refusal
  | .ok none =>
    match rebuildCommandOf command with
    | .error raised => ⟨[], .error raised⟩
    | .ok rebuild =>
      match monitor rebuild with
      | .error raised => ⟨[.rebuildRequested rebuild], .error raised⟩
      | .ok result => settleDeploy command rebuild result

end

/-!
# No production deploy off the gate

The gate decides with the grant that the resolver fetched; the deploy effect checks the
grant of the command a second time. The start request may carry a grant of its own, which
no step reads.
-/

section

open PyText

/-! ## At the deploy effect -/

section

variable {text : RedeployText}
  {monitor : ModelDeployRebuildCommand → Except RedeployError ModelRedeployResult}
  {command : ModelDeployPublishCommand} {rebuild : ModelDeployRebuildCommand}

variable {result : ModelRedeployResult}

theorem mem_settleDeploy {published : ModelDeployRebuildCommand}
    (sent : .rebuildRequested published ∈ (settleDeploy command rebuild result).published) :
    published = rebuild := by
  unfold settleDeploy at sent
  dsimp only at sent
  split at sent
  · simpa using sent
  · split at sent
    · simpa using sent
    · simpa using sent

variable {refused : ModelDeployRefusedEvent}

theorem refusal_not_settled :
    .deployRefused refused ∉ (settleDeploy command rebuild result).published := by
  unfold settleDeploy
  dsimp only
  split
  · simp
  · split <;> simp

theorem published_rebuild
    (sent : .rebuildRequested rebuild ∈ (deployHandle text monitor command).published) :
    verifyProdDeployGrantBinding text command.runtimeLane command.imageDigest
        command.promotionBatchId command.promotionGrant command.evaluatedAt = .ok none ∧
      rebuildCommandOf command = .ok rebuild := by
  unfold deployHandle at sent
  split at sent
  · cases sent
  · next refusal _ =>
    rw [show (refuseDeploy command refusal).published = [.deployRefused _] from rfl] at sent
    simp at sent
  next passed =>
    refine ⟨passed, ?_⟩
    split at sent
    · cases sent
    next built checked =>
      have same : rebuild = built := by
        split at sent
        · simpa using sent
        · exact mem_settleDeploy sent
      rw [same]
      exact checked

theorem not_refused_of_passes
    (passes : verifyProdDeployGrantBinding text command.runtimeLane command.imageDigest
      command.promotionBatchId command.promotionGrant command.evaluatedAt = .ok none) :
    .deployRefused refused ∉ (deployHandle text monitor command).published := by
  unfold deployHandle
  rw [passes]
  dsimp only
  split
  · simp
  · split
    · simp
    · exact refusal_not_settled

theorem rebuildCommandOf_fields (built : rebuildCommandOf command = .ok rebuild) :
    rebuild.runtimeLane = command.runtimeLane ∧ rebuild.imageDigest = command.imageDigest := by
  unfold rebuildCommandOf at built
  split at built
  · cases built
    exact ⟨rfl, rfl⟩
  · cases built

theorem prod_rebuild_bound
    (sent : .rebuildRequested rebuild ∈ (deployHandle text monitor command).published)
    (prod : rebuild.runtimeLane = .prod) :
    command.runtimeLane = .prod ∧ rebuild.imageDigest = command.imageDigest ∧
      ∃ grant, command.promotionGrant = some grant ∧
        GrantBinds grant command.imageDigest command.promotionBatchId command.evaluatedAt := by
  obtain ⟨passed, built⟩ := published_rebuild sent
  obtain ⟨lane, digest⟩ := rebuildCommandOf_fields built
  rw [prod] at lane
  exact ⟨lane.symm, digest, verifyBinding_passes_iff.1 passed lane.symm⟩

end

/-! ## From the gate to the effect -/

structure StartMatches (start : ModelRedeployStartCommand)
    (command : ModelProdPromotionGateCommand) : Prop where
  lane : start.runtimeLane = command.runtimeLane
  digest : start.imageDigest = command.requestedImageDigest
  batch : start.promotionBatchId = command.promotionBatchId

theorem textOr_self (text : Option String) : textOr text text = text := by
  unfold textOr
  split <;> rfl

variable {start : ModelRedeployStartCommand}

theorem allowed_passes_effect {text : RedeployText} (correlationId : Uuid)
    {decision : ModelProdPromotionGateDecision}
    (prod : command.runtimeLane = .prod) (allows : Allows (evaluateGate text command) decision)
    (same : StartMatches start command) :
    let publish := publishCommandOf correlationId decision start (some command)
    verifyProdDeployGrantBinding text publish.runtimeLane publish.imageDigest
      publish.promotionBatchId publish.promotionGrant publish.evaluatedAt = .ok none := by
  intro publish
  obtain ⟨satisfied, digest, _⟩ := evaluateGate_sound prod allows
  have carried : publish.imageDigest = command.requestedImageDigest := by
    show textOr decision.imageDigest start.imageDigest = _
    rw [digest, same.digest, textOr_self]
  rw [verifyBinding_passes_iff, carried]
  exact fun _ => satisfied.granted

/-! ## Where a grant comes from -/

/-- One delivery to the orchestrator: the clock, the envelope's correlation id, the event. -/
structure RedeployStep where
  now : PyDatetime
  correlationId : Uuid
  event : RedeployEvent

def RedeployStep.commands (step : RedeployStep) : List RedeployCommand :=
  handle step.now step.correlationId step.event

def runCommands (steps : List RedeployStep) : List RedeployCommand :=
  steps.flatMap RedeployStep.commands

def ResolvesTo (event : RedeployEvent) (grant : ModelProdPromotionGrant) : Prop :=
  ∃ payload, event = .grantResolved payload ∧ payload.resolved.resolution = .resolved ∧
    payload.resolved.grant = some grant

variable {grant : ModelProdPromotionGrant}

theorem resolvedGrant_eq_some {resolved : ModelProdPromotionGrantResolvedEvent} :
    resolvedGrant resolved = some grant ↔
      resolved.resolution = .resolved ∧ resolved.grant = some grant := by
  unfold resolvedGrant
  split <;> simp_all

theorem routeStart_gate {now : PyDatetime}
    (emitted : .gateEvaluate command ∈ routeStart now start) :
    command = gateCommandOf start none none ∧ start.runtimeLane ≠ .prod := by
  unfold routeStart at emitted
  split at emitted
  · simp [emitGrantResolve] at emitted
  · next lane =>
    refine ⟨?_, lane⟩
    simpa [emitGateEvaluate] using emitted

theorem handle_grant_resolved {now : PyDatetime} {correlationId : Uuid} {event : RedeployEvent}
    (emitted : .gateEvaluate command ∈ handle now correlationId event)
    (carried : command.promotionGrant = some grant) : ResolvesTo event grant := by
  cases event with
  | grantResolved payload =>
    have built : command = gateCommandOf _ (resolvedGrant payload.resolved) _ :=
      RedeployCommand.gateEvaluate.inj (List.mem_singleton.1 emitted)
    rw [built] at carried
    obtain ⟨resolved, granted⟩ := resolvedGrant_eq_some.1 carried
    exact ⟨payload, rfl, resolved, granted⟩
  | gateEvaluated payload =>
    unfold handle onGateEvaluated at emitted
    dsimp only at emitted
    split at emitted <;> simp at emitted
  | imageBuilt built =>
    obtain ⟨rfl, _⟩ := routeStart_gate emitted
    cases carried
  | redeployStart payload =>
    unfold handle onStart at emitted
    dsimp only at emitted
    split at emitted
    · unfold emitDryRunCompleted at emitted
      split at emitted <;> simp at emitted
    · obtain ⟨rfl, _⟩ := routeStart_gate emitted
      cases carried

theorem run_grant_resolved {steps : List RedeployStep}
    (emitted : .gateEvaluate command ∈ runCommands steps)
    (carried : command.promotionGrant = some grant) :
    ∃ step ∈ steps, .gateEvaluate command ∈ step.commands ∧ ResolvesTo step.event grant := by
  obtain ⟨step, delivered, sent⟩ := List.mem_flatMap.1 emitted
  exact ⟨step, delivered, sent, handle_grant_resolved sent carried⟩

/-! ## The grant of the start request -/

def ModelRedeployStartCommand.withGrant (start : ModelRedeployStartCommand)
    (grant : Option ModelProdPromotionGrant) : ModelRedeployStartCommand :=
  { start with promotionGrant := grant }

/-- The event with another grant on the start request that it carries or echoes. -/
def RedeployEvent.withStartGrant (grant : Option ModelProdPromotionGrant) :
    RedeployEvent → RedeployEvent
  | .redeployStart (.start command) => .redeployStart (.start (command.withGrant grant))
  | .redeployStart payload => .redeployStart payload
  | .grantResolved payload =>
    .grantResolved { payload with start := payload.start.map fun start => start.withGrant grant }
  | .gateEvaluated payload =>
    .gateEvaluated { payload with start := payload.start.map fun start => start.withGrant grant }
  | .imageBuilt payload => .imageBuilt payload

theorem handle_withStartGrant (now : PyDatetime) (correlationId : Uuid) (event : RedeployEvent)
    (grant : Option ModelProdPromotionGrant) :
    handle now correlationId (event.withStartGrant grant) = handle now correlationId event := by
  cases event with
  | redeployStart payload => cases payload <;> rfl
  | imageBuilt built => rfl
  | grantResolved payload =>
    obtain ⟨resolved, start⟩ := payload
    cases start <;> rfl
  | gateEvaluated payload =>
    obtain ⟨decision, start, command⟩ := payload
    cases start <;> rfl

/-! ## A promotion -/

/-- An interpreter whose texts no check reads. -/
def plainText : RedeployText where
  unicode := PyText.asciiTable
  isoformat _ := "2026-01-01T00:00:00+00:00"
  strDatetime _ := "2026-01-01 00:00:00+00:00"

def batchGrant : ModelProdPromotionGrant where
  grantId := ⟨"grant-1", by decide⟩
  approvedLane := .prod
  approvedImageDigest := ⟨"sha256:a", by decide⟩
  approvedPromotionBatchId := ⟨"batch-1", by decide⟩
  approvedBy := ⟨"approver", by decide⟩
  createdAt := ⟨0, some 0⟩
  expiresAt := ⟨10000000, some 0⟩

/-- The commit that the grant file was read at. -/
def batchSha : NonEmptyString := ⟨"c0ffee", by decide⟩

/-- A production request whose facts satisfy the gate. -/
def batchStart : ModelRedeployStartCommand where
  correlationId := 7
  runtimeLane := .prod
  imageDigest := some "sha256:a"
  promotionBatchId := some "batch-1"
  readinessProjection := some {
    readinessState := "READY"
    imageDigest := ⟨"sha256:a", by decide⟩
    promotionBatchId := ⟨"batch-1", by decide⟩ }
  occGateState := .merged
  rollbackTarget := some "sha256:0"

def batchGateCommand : ModelProdPromotionGateCommand :=
  gateCommandOf batchStart (some batchGrant) (some ⟨5000000, some 0⟩)

/-- The decision that lets it pass. -/
def batchDecision : ModelProdPromotionGateDecision where
  allowed := true
  imageDigest := some "sha256:a"
  rollbackTarget := some "sha256:0"
  reason := authorizedReason

theorem batchGateCommand_allowed : Allows (evaluateGate plainText batchGateCommand) batchDecision :=
  ⟨rfl, rfl⟩

theorem batchStart_matches : StartMatches batchStart batchGateCommand := ⟨rfl, rfl, rfl⟩

/-- No production deploy off the gate. What the effect publishes for production carries a
grant that binds its command; what the gate allows is published and not refused; a gate
command's grant is the one of a resolved event, whatever the start request carries. -/
theorem prod_deploys_are_granted : (∀ text monitor command rebuild,
      .rebuildRequested rebuild ∈ (deployHandle text monitor command).published →
      rebuild.runtimeLane = .prod →
      rebuild.imageDigest = command.imageDigest ∧
      ∃ grant moment, command.promotionGrant = some grant ∧
        grant.approvedLane = command.runtimeLane ∧
        some grant.approvedImageDigest.value = command.imageDigest ∧
        some grant.approvedPromotionBatchId.value = command.promotionBatchId ∧
        command.evaluatedAt = some moment ∧ moment.NotAfter grant.expiresAt) ∧
    (∀ text now correlationId command decision start,
      command.runtimeLane = .prod → Allows (evaluateGate text command) decision →
      StartMatches start command →
      ∃ publish, handle now correlationId (.gateEvaluated ⟨decision, some start, some command⟩) =
          [.deployPublish publish] ∧
        verifyProdDeployGrantBinding text publish.runtimeLane publish.imageDigest
          publish.promotionBatchId publish.promotionGrant publish.evaluatedAt = .ok none ∧
        ∀ monitor refused, .deployRefused refused ∉ (deployHandle text monitor publish).published) ∧
    (∀ steps command grant, .gateEvaluate command ∈ runCommands steps →
      command.promotionGrant = some grant →
      ∃ step ∈ steps, .gateEvaluate command ∈ step.commands ∧ ResolvesTo step.event grant) ∧
    (∀ now correlationId event grant,
      handle now correlationId (RedeployEvent.withStartGrant grant event) =
        handle now correlationId event) := by
  refine ⟨?_, ?_, ?_, handle_withStartGrant⟩
  · intro text monitor command rebuild sent prod
    obtain ⟨lane, digest, grant, carried, binds⟩ := prod_rebuild_bound sent prod
    obtain ⟨moment, stamped, live⟩ := binds.live
    exact ⟨digest, grant, moment, carried, binds.lane.trans lane.symm, binds.digest, binds.batch,
      stamped, live⟩
  · intro text now correlationId command decision start prod allows same
    have passes := allowed_passes_effect correlationId prod allows same
    refine ⟨publishCommandOf correlationId decision start (some command), ?_, passes, ?_⟩
    · show onGateEvaluated correlationId _ = _
      unfold onGateEvaluated
      dsimp only [coerceGateResult]
      rw [allows.2]
      rfl
    · intro monitor refused
      exact not_refused_of_passes passes
  · intro steps command grant emitted carried
    exact run_grant_resolved emitted carried

/-- The request above passes both gates. -/
theorem batch_deploy_granted :
    ∃ publish, handle ⟨6000000, some 0⟩ 7 (.gateEvaluated ⟨batchDecision, some batchStart,
        some batchGateCommand⟩) = [.deployPublish publish] ∧
      verifyProdDeployGrantBinding plainText publish.runtimeLane publish.imageDigest
        publish.promotionBatchId publish.promotionGrant publish.evaluatedAt = .ok none ∧
      ∀ monitor refused,
        .deployRefused refused ∉ (deployHandle plainText monitor publish).published :=
  prod_deploys_are_granted.2.1 plainText ⟨6000000, some 0⟩ 7 batchGateCommand batchDecision batchStart
    rfl batchGateCommand_allowed batchStart_matches

end

end OmniMarket.Redeploy
