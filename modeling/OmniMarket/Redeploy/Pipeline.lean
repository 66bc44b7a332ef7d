import OmniMarket.Redeploy.Orchestrator

/-!
# A promotion from the request to the effect

`promotionPipeline` feeds a start request to the orchestrator, its resolve command to the
grant resolver and each handler's payload to the next one. At each of the two hops back the
runtime may echo the start request beside the payload, and at the second also the gate
command.

A bare resolved event is rebuilt into a start without readiness facts, which the gate
blocks. A bare decision is rebuilt into a start of the default lane, which deploys an
allowed production decision to `dev`.
-/

namespace OmniMarket.Redeploy

section

open PyText

/-! ## The pipeline -/

structure Echoes where
  /-- The start request beside the resolved event. -/
  resolvedStart : Bool
  /-- The start request beside the decision. -/
  gateStart : Bool
  /-- The gate command beside the decision. -/
  gateCommand : Bool

def echoed {α : Type} (echo : Bool) (value : α) : Option α :=
  if echo then some value else none

/-- What the handlers of the pipeline are given besides their payloads. -/
structure PipelineEnv where
  text : RedeployText
  files : GrantFileRuntime
  fetched : ModelGrantFetch
  /-- The orchestrator's clock at the start request. -/
  now : PyDatetime
  /-- The correlation id of the envelopes. -/
  correlationId : Uuid

section

variable (env : PipelineEnv)

section

variable (start : ModelRedeployStartCommand)

def gateHop (echoes : Echoes) (command : ModelProdPromotionGateCommand) :
    Except RedeployError (List RedeployCommand) := do
  let decision ← evaluateGate env.text command
  return handle env.now env.correlationId (.gateEvaluated {
    decision := decision
    start := echoed echoes.gateStart start
    command := echoed echoes.gateCommand command })

def resolverHop (echoes : Echoes) (command : ModelProdPromotionGrantResolveCommand) :
    Except RedeployError (List RedeployCommand) := do
  let resolved ← resolverHandle env.files env.fetched command
  match handle env.now env.correlationId (.grantResolved {
      resolved := resolved, start := echoed echoes.resolvedStart start }) with
  | [.gateEvaluate gateCommand] => gateHop env start echoes gateCommand
  | commands => return commands

/-- The start request through the orchestrator, the resolver and the gate. -/
def promotionPipeline (echoes : Echoes) :
    Except RedeployError (List RedeployCommand) :=
  match handle env.now env.correlationId (.redeployStart (.start start)) with
  | [.grantResolve command] => resolverHop env start echoes command
  | commands => .ok commands

/-! ## What the request asks for -/

def Deploys (commands : List RedeployCommand) : Prop :=
  ∃ publish, commands = [.deployPublish publish] ∧ publish.runtimeLane = .prod ∧
    publish.imageDigest = start.imageDigest ∧
    publish.promotionBatchId = start.promotionBatchId ∧ publish.imageRef = start.imageRef ∧
    publish.scope = start.scope ∧ publish.gitRef = start.gitRef

def Blocks (commands : List RedeployCommand) : Prop :=
  ∃ event, commands = [.completed event] ∧ event.finalPhase = .blocked

structure RequestSatisfied : Prop where
  facts : PromotionFacts start.readinessProjection start.imageDigest start.promotionBatchId
    start.occGateState (textOr start.rollbackTarget (some start.previousImage))
  granted : ∃ grant, LiveGrant env.files env.fetched.raw start.imageDigest
    start.promotionBatchId env.now grant

def EndsAsRequested (echoes : Echoes) :
    Prop :=
  ∃ commands, promotionPipeline env start echoes = .ok commands ∧
    ((RequestSatisfied env start ∧ Deploys start commands) ∨
      (¬ RequestSatisfied env start ∧ Blocks commands))

/-- The resolver can read the grant file for the request. -/
def FileReadable : Prop :=
  GrantFileReadable env.files env.fetched.raw start.imageDigest start.promotionBatchId env.now

/-! ## Hop by hop -/

def resolveCommandOf :
    ModelProdPromotionGrantResolveCommand where
  correlationId := start.correlationId
  requestedImageDigest := start.imageDigest
  promotionBatchId := start.promotionBatchId
  requestedBy := start.requestedBy
  evaluatedAt := env.now

end

end

section

variable {env : PipelineEnv} {start : ModelRedeployStartCommand} {echoes : Echoes}

theorem promotionPipeline_eq (prod : start.runtimeLane = .prod) (live : start.dryRun = false) :
    promotionPipeline env start echoes =
      resolverHop env start echoes (resolveCommandOf env start) := by
  have routed : handle env.now env.correlationId (.redeployStart (.start start)) =
      [.grantResolve (resolveCommandOf env start)] := by
    show onStart env.now (.start start) = _
    unfold onStart routeStart
    dsimp only [coerceStart]
    rw [live, if_neg Bool.false_ne_true, if_pos prod]
    rfl
  unfold promotionPipeline
  rw [routed]

/-- The start request that the orchestrator goes on with after the resolver. -/
def startAfterResolver (start : ModelRedeployStartCommand) (echoes : Echoes)
    (resolved : ModelProdPromotionGrantResolvedEvent) : ModelRedeployStartCommand :=
  (coerceGrantResolved { resolved := resolved, start := echoed echoes.resolvedStart start }).2

variable {resolved : ModelProdPromotionGrantResolvedEvent}

theorem startAfterResolver_echoed (echo : echoes.resolvedStart = true) :
    startAfterResolver start echoes resolved = start := by
  unfold startAfterResolver
  rw [echo]
  rfl

theorem resolverHop_eq {command : ModelProdPromotionGrantResolveCommand}
    (answered : resolverHandle env.files env.fetched command = .ok resolved) :
    resolverHop env start echoes command =
      gateHop env start echoes (gateCommandOf (startAfterResolver start echoes resolved)
        (resolvedGrant resolved) (some resolved.evaluatedAt)) := by
  unfold resolverHop
  rw [answered, Raising.bind_ok]
  rfl

theorem resolverHandle_returns_iff :
    (∃ resolved, resolverHandle env.files env.fetched (resolveCommandOf env start) =
        .ok resolved) ↔ FileReadable env start := by
  unfold FileReadable
  rw [← resolveGrant_returns_iff]
  unfold resolverHandle
  constructor
  · rintro ⟨resolved, answered⟩
    obtain ⟨resolution, found, _⟩ := Raising.bind_eq_ok.1 answered
    exact ⟨resolution, found⟩
  · rintro ⟨resolution, found⟩
    exact ⟨_, Raising.bind_eq_ok.2 ⟨resolution, found, rfl⟩⟩

section

variable (answered : resolverHandle env.files env.fetched (resolveCommandOf env start) = .ok resolved)

include answered

theorem resolverHandle_grant {grant : ModelProdPromotionGrant} :
    resolvedGrant resolved = some grant ↔
      LiveGrant env.files env.fetched.raw start.imageDigest start.promotionBatchId env.now grant := by
  obtain ⟨resolution, found, built⟩ := Raising.bind_eq_ok.1 answered
  cases built
  rw [resolvedGrant_eq_some]
  constructor
  · rintro ⟨resolves, carried⟩
    dsimp only at resolves carried
    rw [if_pos resolves] at carried
    obtain ⟨held, same, live⟩ := resolveGrant_resolved found resolves
    rw [carried] at same
    cases same
    exact live
  · intro live
    obtain ⟨grantId, resolves⟩ := resolveGrant_resolved_iff.2 live
    rw [show resolveGrant env.files env.fetched.raw start.imageDigest start.promotionBatchId
      env.now = .ok resolution from found] at resolves
    cases resolves
    exact ⟨rfl, rfl⟩

theorem resolverHandle_evaluatedAt : resolved.evaluatedAt = env.now := by
  obtain ⟨resolution, _, built⟩ := Raising.bind_eq_ok.1 answered
  cases built
  rfl

end

/-! ## At the gate -/

theorem gateSatisfied_gateCommandOf_iff {grant : Option ModelProdPromotionGrant}
    {evaluatedAt : Option PyDatetime} :
    GateSatisfied (gateCommandOf start grant evaluatedAt) ↔
      PromotionFacts start.readinessProjection start.imageDigest start.promotionBatchId
        start.occGateState (textOr start.rollbackTarget (some start.previousImage)) ∧
      ∃ held, grant = some held ∧
        GrantBinds held start.imageDigest start.promotionBatchId evaluatedAt := by
  constructor
  · intro satisfied
    exact ⟨satisfied.facts, satisfied.granted⟩
  · rintro ⟨facts, granted⟩
    refine ⟨?_, facts, granted⟩
    exact nofun

theorem gate_passes_iff (prod : start.runtimeLane = .prod)
    (answered : resolverHandle env.files env.fetched (resolveCommandOf env start) = .ok resolved) :
    (∃ decision, Allows (evaluateGate env.text (gateCommandOf
        (startAfterResolver start echoes resolved) (resolvedGrant resolved)
        (some resolved.evaluatedAt))) decision) ↔
      RequestSatisfied env start ∧ echoes.resolvedStart = true := by
  cases echo : echoes.resolvedStart with
  | false =>
    have rebuilt : startAfterResolver start echoes resolved =
        (coerceGrantResolved { resolved := resolved, start := none }).2 := by
      unfold startAfterResolver
      rw [echo]
      rfl
    rw [rebuilt]
    constructor
    · rintro ⟨decision, allows⟩
      exact absurd allows (evaluateGate_unprojected rfl rfl)
    · rintro ⟨_, impossible⟩
      cases impossible
  | true =>
    rw [startAfterResolver_echoed echo, evaluateGate_allows_iff prod, gateSatisfied_gateCommandOf_iff,
      resolverHandle_evaluatedAt answered]
    constructor
    · rintro ⟨facts, held, carried, _⟩
      exact ⟨⟨facts, held, (resolverHandle_grant answered).1 carried⟩, rfl⟩
    · rintro ⟨⟨facts, held, live⟩, _⟩
      exact ⟨facts, held, (resolverHandle_grant answered).2 live, live.binds⟩

theorem gate_returns
    (answered : resolverHandle env.files env.fetched (resolveCommandOf env start) = .ok resolved)
    (gateStart : ModelRedeployStartCommand) :
    ∃ decision, evaluateGate env.text (gateCommandOf gateStart (resolvedGrant resolved)
      (some resolved.evaluatedAt)) = .ok decision := by
  refine evaluateGate_returns rfl ?_
  intro held carried
  have live := (resolverHandle_grant answered).1 carried
  obtain ⟨moment, stamped, early⟩ := live.binds.live
  cases stamped
  rw [resolverHandle_evaluatedAt answered]
  exact early.1

/-! ## After the gate -/

variable {payload : GateEvaluatedPayload}

theorem onGateEvaluated_blocked {correlationId : Uuid}
    (blocked : payload.decision.allowed = false) :
    Blocks (onGateEvaluated correlationId payload) := by
  unfold onGateEvaluated
  dsimp only [coerceGateResult]
  rw [blocked]
  exact ⟨_, rfl, rfl⟩

theorem onGateEvaluated_allowed {correlationId : Uuid} (allowed : payload.decision.allowed = true) :
    onGateEvaluated correlationId payload =
      [.deployPublish (publishCommandOf correlationId payload.decision
        (coerceGateResult payload correlationId).2.1 payload.command)] := by
  unfold onGateEvaluated
  dsimp only [coerceGateResult]
  rw [allowed]
  rfl

variable {commands : List RedeployCommand}

theorem not_deploys_of_blocks (blocks : Blocks commands) : ¬ Deploys start commands := by
  obtain ⟨event, rfl, _⟩ := blocks
  rintro ⟨publish, impossible, _⟩
  cases impossible

theorem deploys_iff_echoed (prod : start.runtimeLane = .prod)
    {decision : ModelProdPromotionGateDecision} (allowed : decision.allowed = true)
    (digest : decision.imageDigest = start.imageDigest) {command : ModelProdPromotionGateCommand}
    (batch : command.promotionBatchId = start.promotionBatchId) :
    Deploys start (onGateEvaluated env.correlationId {
        decision := decision
        start := echoed echoes.gateStart start
        command := echoed echoes.gateCommand command }) ↔
      echoes.gateStart = true := by
  rw [onGateEvaluated_allowed allowed]
  cases echo : echoes.gateStart with
  | false =>
    constructor
    · rintro ⟨publish, sent, lane, _⟩
      obtain ⟨rfl⟩ := RedeployCommand.deployPublish.inj (List.singleton_inj.1 sent)
      -- The rebuilt start has the default lane.
      cases lane
    · exact nofun
  | true =>
    refine ⟨fun _ => rfl, fun _ => ⟨_, rfl, prod, ?_, ?_, rfl, rfl, rfl⟩⟩
    · show textOr decision.imageDigest start.imageDigest = start.imageDigest
      rw [digest, textOr_self]
    · cases echoes.gateCommand with
      | false => rfl
      | true => exact batch

theorem promotionPipeline_returns_iff (prod : start.runtimeLane = .prod)
    (live : start.dryRun = false) :
    promotionPipeline env start echoes = .ok commands ↔
      ∃ resolved decision,
        resolverHandle env.files env.fetched (resolveCommandOf env start) = .ok resolved ∧
        evaluateGate env.text (gateCommandOf (startAfterResolver start echoes resolved)
          (resolvedGrant resolved) (some resolved.evaluatedAt)) = .ok decision ∧
        commands = onGateEvaluated env.correlationId {
          decision := decision
          start := echoed echoes.gateStart start
          command := echoed echoes.gateCommand (gateCommandOf
            (startAfterResolver start echoes resolved) (resolvedGrant resolved)
            (some resolved.evaluatedAt)) } := by
  rw [promotionPipeline_eq prod live]
  constructor
  · intro returned
    obtain ⟨resolved, answered, _⟩ := Raising.bind_eq_ok.1 returned
    rw [resolverHop_eq answered] at returned
    obtain ⟨decision, decided, same⟩ := Raising.bind_eq_ok.1 returned
    cases same
    exact ⟨resolved, decision, answered, decided, rfl⟩
  · rintro ⟨resolved, decision, answered, decided, rfl⟩
    rw [resolverHop_eq answered]
    exact Raising.bind_eq_ok.2 ⟨decision, decided, rfl⟩

/-- The pipeline ends as requested exactly on a grant file that the resolver can read, when
the request is not satisfied or the start request is echoed beside both payloads. -/
theorem pipeline_ends_iff (prod : start.runtimeLane = .prod) (live : start.dryRun = false) :
    EndsAsRequested env start echoes ↔
      FileReadable env start ∧
        (¬ RequestSatisfied env start ∨
          (echoes.resolvedStart = true ∧ echoes.gateStart = true)) := by
  constructor
  · rintro ⟨commands, returned, ended⟩
    obtain ⟨resolved, decision, answered, decided, rfl⟩ :=
      (promotionPipeline_returns_iff prod live).1 returned
    refine ⟨resolverHandle_returns_iff.1 ⟨resolved, answered⟩, ?_⟩
    rcases ended with ⟨satisfied, deploys⟩ | ⟨unsatisfied, _⟩
    · right
      -- A deploy comes from an allowed decision, which needs the start at the first hop.
      have allowed : decision.allowed = true := by
        by_contra refused
        exact not_deploys_of_blocks
          (onGateEvaluated_blocked (Bool.not_eq_true _ ▸ refused)) deploys
      obtain ⟨_, first⟩ := (gate_passes_iff prod answered).1 ⟨decision, decided, allowed⟩
      refine ⟨first, ?_⟩
      rw [startAfterResolver_echoed first] at decided deploys
      obtain ⟨_, digest, _⟩ := evaluateGate_sound prod ⟨decided, allowed⟩
      exact (deploys_iff_echoed prod allowed digest rfl).1 deploys
    · exact Or.inl unsatisfied
  · rintro ⟨readable, condition⟩
    obtain ⟨resolved, answered⟩ := resolverHandle_returns_iff.2 readable
    obtain ⟨decision, decided⟩ :=
      gate_returns answered (startAfterResolver start echoes resolved)
    refine ⟨_, (promotionPipeline_returns_iff prod live).2
      ⟨resolved, decision, answered, decided, rfl⟩, ?_⟩
    by_cases allowed : decision.allowed = true
    · obtain ⟨satisfied, first⟩ :=
        (gate_passes_iff prod answered).1 ⟨decision, decided, allowed⟩
      have echo : echoes.gateStart = true :=
        condition.elim (absurd satisfied) And.right
      rw [startAfterResolver_echoed first] at decided ⊢
      obtain ⟨_, digest, _⟩ := evaluateGate_sound prod ⟨decided, allowed⟩
      exact Or.inl ⟨satisfied, (deploys_iff_echoed prod allowed digest rfl).2 echo⟩
    · right
      refine ⟨?_, onGateEvaluated_blocked (Bool.not_eq_true _ ▸ allowed)⟩
      intro satisfied
      have first : echoes.resolvedStart = true := condition.elim (absurd satisfied) And.left
      obtain ⟨passed, decidedToo, passes⟩ :=
        (gate_passes_iff prod answered).2 ⟨satisfied, first⟩
      rw [decided] at decidedToo
      cases decidedToo
      exact allowed passes

end

/-! ## A promotion without echoes -/

def batchEntry : YamlDict :=
  [("grant_id", .str "grant-1"), ("runtime_lane", .str "prod"), ("image_digest", .str "sha256:a"),
    ("promotion_batch_id", .str "batch-1"), ("approved_by", .str "approver"),
    ("created_at", .timestamp ⟨0, some 0⟩), ("expires_at", .timestamp ⟨10000000, some 0⟩),
    ("reason", .str "release")]

theorem zeroDigest_length : (String.ofList (List.replicate 64 '0')).length = 64 := by
  rw [String.length_ofList, List.length_replicate]

def zeroDigest : Sha256Hex := ⟨String.ofList (List.replicate 64 '0'), zeroDigest_length⟩

/-- A loader that has read the one file below. -/
def batchFiles : GrantFileRuntime where
  unicode := PyText.asciiTable
  safeLoad _ := .ok (.dict [("entries", .list [.dict batchEntry])])
  strOther _ := ""
  repr _ := ""
  fromisoformat _ := .error (.library "datetime.fromisoformat")
  parseUuid _ := .error (.library "UUID")
  sha256 _ := zeroDigest

/-- The grant file: one live entry for the batch. Its first byte opens the mapping. -/
def batchFile : List UInt8 :=
  0x7b :: ("entries: [\x7bgrant_id: grant-1, runtime_lane: prod, image_digest: 'sha256:a', " ++
    "promotion_batch_id: batch-1, approved_by: approver, created_at: 1970-01-01T00:00:00Z, " ++
    "expires_at: 1970-01-01T00:00:10Z, reason: release\x7d]\x7d").toList.map
      fun c => UInt8.ofNat c.toNat

def batchEnv : PipelineEnv where
  text := plainText
  files := batchFiles
  fetched := ⟨batchFile, batchSha, true⟩
  now := ⟨5000000, some 0⟩
  correlationId := 7

theorem batchFile_parses : parseEntries batchFiles batchFile = .ok [batchEntry] := rfl

theorem batchGrant_live :
    LiveGrant batchFiles batchFile (some "sha256:a") (some "batch-1") ⟨5000000, some 0⟩
      batchGrant := by
  refine ⟨[batchEntry], batchEntry, batchFile_parses, rfl, rfl, ⟨⟨10000000, some 0⟩, rfl, ?_⟩, rfl⟩
  decide

theorem batchStart_satisfied : RequestSatisfied batchEnv batchStart where
  facts :=
    { projected := ⟨_, rfl, rfl, rfl, rfl⟩
      pinned := rfl
      durable := rfl
      restorable := rfl }
  granted := ⟨batchGrant, batchGrant_live⟩

def bareDecisionDeploy : ModelDeployPublishCommand :=
  publishCommandOf 7 batchDecision
    { correlationId := 7
      imageDigest := batchDecision.imageDigest
      rollbackTarget := batchDecision.rollbackTarget } none

/-- The allowed production decision ends as a deploy of the digest to `dev` when the decision
comes back bare, and the request is blocked when the resolved event does. -/
theorem pipeline_bare_decision_deploys_dev :
    RequestSatisfied batchEnv batchStart ∧
      promotionPipeline batchEnv batchStart ⟨true, false, false⟩ =
        .ok [.deployPublish bareDecisionDeploy] ∧
      bareDecisionDeploy.runtimeLane = .dev ∧
      ¬ EndsAsRequested batchEnv batchStart ⟨true, false, false⟩ ∧
      ¬ EndsAsRequested batchEnv batchStart ⟨false, true, true⟩ := by
  have deployed : promotionPipeline batchEnv batchStart ⟨true, false, false⟩ =
      .ok [.deployPublish bareDecisionDeploy] := rfl
  refine ⟨batchStart_satisfied, deployed, rfl, ?_, ?_⟩
  · rintro ⟨commands, returned, ended⟩
    rw [deployed] at returned
    cases returned
    rcases ended with ⟨_, publish, sent, lane, _⟩ | ⟨unsatisfied, _⟩
    · cases sent
      cases lane
    · exact unsatisfied batchStart_satisfied
  · rintro ⟨commands, returned, ended⟩
    have blocked : Blocks commands := by
      cases returned
      exact ⟨_, rfl, rfl⟩
    rcases ended with ⟨_, deploys⟩ | ⟨unsatisfied, _⟩
    · exact not_deploys_of_blocks blocked deploys
    · exact unsatisfied batchStart_satisfied

/-- The batch ends as requested when the start request is echoed at both hops. -/
theorem batch_pipeline_ends :
    EndsAsRequested batchEnv batchStart ⟨true, true, true⟩ ↔
      FileReadable batchEnv batchStart ∧
        (¬ RequestSatisfied batchEnv batchStart ∨ (true = true ∧ true = true)) :=
  pipeline_ends_iff rfl rfl

end

/-!
# The provenance of a built image

A finished build names the class and the source of its image. The start request has no field
for the class, and the gate command that the orchestrator builds from it has the default
class and lineage, so the gate sees every built image as a clean build of the main line.
-/

/-! ## The gate commands of a build -/

structure EchoOfBuild (built : ModelRuntimeImageBuilt) (start : ModelRedeployStartCommand) :
    Prop where
  correlationId : start.correlationId = built.correlationId
  lane : start.runtimeLane = built.runtimeLane
  digest : start.imageDigest = some built.digest.value
  batch : start.promotionBatchId = built.promotionBatchId
  imageRef : start.imageRef = built.imageRef
  buildSource : start.buildSource = built.buildSource

inductive DerivedGateCommand (built : ModelRuntimeImageBuilt) :
    ModelProdPromotionGateCommand → Prop where
  | direct (now : PyDatetime) (correlationId : Uuid) {command : ModelProdPromotionGateCommand} :
      .gateEvaluate command ∈ handle now correlationId (.imageBuilt built) →
      DerivedGateCommand built command
  | resolved (now later : PyDatetime) (correlationId correlationId' : Uuid)
      (payload : GrantResolvedPayload) {resolve : ModelProdPromotionGrantResolveCommand}
      {command : ModelProdPromotionGateCommand} :
      .grantResolve resolve ∈ handle now correlationId (.imageBuilt built) →
      payload.resolved.correlationId = resolve.correlationId →
      payload.resolved.evaluatedAt = resolve.evaluatedAt →
      (∀ start, payload.start = some start → EchoOfBuild built start) →
      .gateEvaluate command ∈ handle later correlationId' (.grantResolved payload) →
      DerivedGateCommand built command

structure ProvenanceReaches (built : ModelRuntimeImageBuilt)
    (command : ModelProdPromotionGateCommand) : Prop where
  promotionClass : command.promotionClass = built.promotionClass
  lineage : built.buildSource = .workspace → command.nonMainLineage = true

def GateGuards (built : ModelRuntimeImageBuilt) (command : ModelProdPromotionGateCommand) :
    Prop :=
  ∀ text decision, command.runtimeLane = .prod → Allows (evaluateGate text command) decision →
    built.promotionClass = .stabilityCandidate ∨ built.buildSource = .workspace →
    candidateAuthorized command.promotionGrant = true

section

variable {built : ModelRuntimeImageBuilt} {command : ModelProdPromotionGateCommand}

theorem DerivedGateCommand.defaults (derived : DerivedGateCommand built command) :
    command.promotionClass = .cleanMain ∧ command.nonMainLineage = false := by
  cases derived with
  | direct _ _ emitted =>
    obtain ⟨rfl, _⟩ := routeStart_gate emitted
    exact ⟨rfl, rfl⟩
  | resolved _ _ _ _ _ _ _ _ _ emitted =>
    have same := RedeployCommand.gateEvaluate.inj (List.mem_singleton.1 emitted)
    rw [same]
    exact ⟨rfl, rfl⟩

theorem ProvenanceReaches.guards (reaches : ProvenanceReaches built command) :
    GateGuards built command := by
  intro text decision prod allows candidate
  have satisfied := (evaluateGate_sound prod allows).1
  refine satisfied.lineage ?_
  rcases candidate with candidateClass | workspace
  · rw [reaches.promotionClass, candidateClass]
    rfl
  · rw [reaches.lineage workspace]
    exact Bool.or_true _

def absentAnswer (now : PyDatetime) (built : ModelRuntimeImageBuilt) :
    ModelProdPromotionGrantResolvedEvent where
  correlationId := built.correlationId
  resolution := .absent
  grant := none
  evaluatedAt := now
  provenance := ⟨batchSha, grantFilePath, none, zeroDigest, true⟩

theorem handle_imageBuilt (now : PyDatetime) (correlationId : Uuid)
    (built : ModelRuntimeImageBuilt) :
    handle now correlationId (.imageBuilt built) =
      if built.runtimeLane = .prod then emitGrantResolve now (startOfImageBuilt built)
      else emitGateEvaluate (startOfImageBuilt built) none none := rfl

theorem exists_derived (built : ModelRuntimeImageBuilt) :
    ∃ command, DerivedGateCommand built command := by
  by_cases prod : built.runtimeLane = .prod
  · have resolves : ∃ resolve,
        .grantResolve resolve ∈ handle ⟨0, some 0⟩ 0 (.imageBuilt built) ∧
        built.correlationId = resolve.correlationId ∧ ⟨0, some 0⟩ = resolve.evaluatedAt := by
      rw [handle_imageBuilt, if_pos prod]
      exact ⟨_, List.mem_singleton.2 rfl, rfl, rfl⟩
    obtain ⟨resolve, sent, sameRun, sameTime⟩ := resolves
    refine ⟨_, .resolved ⟨0, some 0⟩ ⟨0, some 0⟩ 0 0 ⟨absentAnswer ⟨0, some 0⟩ built, none⟩
      sent sameRun sameTime ?_ (List.mem_singleton.2 rfl)⟩
    intro echoedStart impossible
    cases impossible
  · refine ⟨gateCommandOf (startOfImageBuilt built) none none, .direct ⟨0, some 0⟩ 0 ?_⟩
    rw [handle_imageBuilt, if_neg prod]
    exact List.mem_singleton.2 rfl

theorem DerivedGateCommand.reaches_iff (derived : DerivedGateCommand built command) :
    ProvenanceReaches built command ↔
      built.promotionClass = .cleanMain ∧ built.buildSource = .release := by
  obtain ⟨defaultClass, defaultLineage⟩ := derived.defaults
  constructor
  · intro reaches
    refine ⟨reaches.promotionClass.symm.trans defaultClass, ?_⟩
    cases source : built.buildSource with
    | release => rfl
    | workspace =>
      rw [reaches.lineage source] at defaultLineage
      cases defaultLineage
  · rintro ⟨clean, release⟩
    refine ⟨defaultClass.trans clean.symm, ?_⟩
    intro workspace
    rw [release] at workspace
    cases workspace

/-- The provenance of a build reaches every gate command, and so the gate guards it, exactly
when the build is a clean release. -/
theorem provenance_reaches_iff (built : ModelRuntimeImageBuilt) :
    (∀ command, DerivedGateCommand built command →
      ProvenanceReaches built command ∧ GateGuards built command) ↔
      built.promotionClass = .cleanMain ∧ built.buildSource = .release := by
  constructor
  · intro reaches
    obtain ⟨command, derived⟩ := exists_derived built
    exact derived.reaches_iff.1 (reaches command derived).1
  · intro clean command derived
    have known := derived.reaches_iff.2 clean
    exact ⟨known, known.guards⟩

end

/-! ## A candidate that the gate allows -/

def candidateBuild : ModelRuntimeImageBuilt where
  correlationId := 7
  digest := batchGrant.approvedImageDigest
  sourceSha := ⟨"beef", by decide⟩
  buildSource := .workspace
  promotionClass := .stabilityCandidate
  provenance := ⟨"ci:build-runtime.yml", by decide⟩
  runtimeLane := .prod
  promotionBatchId := some "batch-1"

def candidateStart : ModelRedeployStartCommand :=
  { batchStart with buildSource := .workspace }

def batchAnswer : ModelProdPromotionGrantResolvedEvent where
  correlationId := 7
  resolution := .resolved
  grant := some batchGrant
  evaluatedAt := ⟨5000000, some 0⟩
  provenance := ⟨batchSha, grantFilePath, some "grant-1", zeroDigest, true⟩

/-- The gate allows a candidate from a workspace with a grant that does not authorize
candidates. -/
theorem candidate_build_allowed :
    DerivedGateCommand candidateBuild batchGateCommand ∧
      Allows (evaluateGate plainText batchGateCommand) batchDecision ∧
      candidateAuthorized batchGateCommand.promotionGrant = false ∧
      ¬ (ProvenanceReaches candidateBuild batchGateCommand ∧
        GateGuards candidateBuild batchGateCommand) := by
  have derived : DerivedGateCommand candidateBuild batchGateCommand := by
    refine .resolved ⟨5000000, some 0⟩ ⟨5000000, some 0⟩ 7 7 ⟨batchAnswer, some candidateStart⟩
      (List.mem_singleton.2 rfl) rfl rfl ?_ (List.mem_singleton.2 rfl)
    rintro _ ⟨⟩
    exact ⟨rfl, rfl, rfl, rfl, rfl, rfl⟩
  refine ⟨derived, batchGateCommand_allowed, rfl, ?_⟩
  rintro ⟨reaches, _⟩
  cases reaches.promotionClass

end OmniMarket.Redeploy
