import OmniMarket.Redeploy.PromotionGate

/-!
# What an allowed promotion rests on

The rules of the production gate in the words of its documentation: a clean image or a
grant for candidates, a READY readiness of the stability-test lane for this batch and
digest, durable evidence, a rollback target and a grant that binds. The gate never reads
the lane of the readiness projection.
-/

namespace OmniMarket.Redeploy

open PyText

section

variable (command : ModelProdPromotionGateCommand)

def LineageAuthorized : Prop :=
  (command.promotionClass = .cleanMain ∧ command.nonMainLineage = false) ∨
    ∃ held, command.promotionGrant = some held ∧ held.authorizesCandidate = true

def StabilityProven : Prop :=
  ∃ fact, command.readinessProjection = some fact ∧ fact.runtimeLane = .stabilityTest ∧
    fact.readinessState = "READY" ∧
    some fact.promotionBatchId.value = command.promotionBatchId ∧
    some fact.imageDigest.value = command.requestedImageDigest ∧
    blankText command.requestedImageDigest = false

def Granted (evaluatedAt : PyDatetime) : Prop :=
  ∃ held, command.promotionGrant = some held ∧ held.approvedLane = .prod ∧
    some held.approvedImageDigest.value = command.requestedImageDigest ∧
    some held.approvedPromotionBatchId.value = command.promotionBatchId ∧
    evaluatedAt.NotAfter held.expiresAt

structure PromotionRules (evaluatedAt : PyDatetime) :
    Prop where
  lineage : LineageAuthorized command
  proven : StabilityProven command
  durable : command.occGateState = .merged ∨ command.occGateState = .receiptGatePass
  restorable : blankText (gateRollbackTarget command) = false
  granted : Granted command evaluatedAt

structure GateExact (text : RedeployText) (command : ModelProdPromotionGateCommand)
    (evaluatedAt : PyDatetime) : Prop where
  decides : (∃ decision, Allows (evaluateGate text command) decision) ↔
    PromotionRules command evaluatedAt
  reuses : ∀ decision, Allows (evaluateGate text command) decision →
    ∃ fact, command.readinessProjection = some fact ∧
      decision.imageDigest = some fact.imageDigest.value

def StabilityLane : Prop :=
  ∀ fact, command.readinessProjection = some fact → fact.runtimeLane = .stabilityTest

end

section

variable {text : RedeployText} {command : ModelProdPromotionGateCommand}
  {evaluatedAt : PyDatetime} {decision : ModelProdPromotionGateDecision}

theorem lineageAuthorized_iff :
    LineageAuthorized command ↔
      (isCandidate command.promotionClass command.nonMainLineage = true →
        candidateAuthorized command.promotionGrant = true) := by
  unfold LineageAuthorized isCandidate candidateAuthorized
  cases command.promotionClass <;> cases command.nonMainLineage <;>
    cases command.promotionGrant <;> simp

theorem occSatisfied_contains_iff {state : EnumOccGateState} :
    occSatisfied.contains state = true ↔ state = .merged ∨ state = .receiptGatePass := by
  cases state <;> decide

theorem granted_iff (stamped : command.evaluatedAt = some evaluatedAt) :
    Granted command evaluatedAt ↔
      ∃ held, command.promotionGrant = some held ∧
        GrantBinds held command.requestedImageDigest command.promotionBatchId
          command.evaluatedAt := by
  rw [stamped]
  simp only [Granted, grantBinds_iff]

theorem promotionRules_iff (stamped : command.evaluatedAt = some evaluatedAt) :
    PromotionRules command evaluatedAt ↔ GateSatisfied command ∧ StabilityLane command := by
  constructor
  · rintro ⟨lineage, ⟨fact, projected, lane, ready, batch, digest, pinned⟩, durable,
      restorable, granted⟩
    have facts : PromotionFacts command.readinessProjection command.requestedImageDigest
        command.promotionBatchId command.occGateState (gateRollbackTarget command) :=
      { projected := ⟨fact, projected, ready, digest, batch⟩
        pinned := pinned
        durable := occSatisfied_contains_iff.2 durable
        restorable := restorable }
    refine ⟨⟨lineageAuthorized_iff.1 lineage, facts, (granted_iff stamped).1 granted⟩, ?_⟩
    intro other read
    rw [projected] at read
    cases read
    exact lane
  · rintro ⟨satisfied, stability⟩
    obtain ⟨fact, projected, ready, digest, batch⟩ := satisfied.facts.projected
    exact
      { lineage := lineageAuthorized_iff.2 satisfied.lineage
        proven := ⟨fact, projected, stability fact projected, ready, batch, digest,
          satisfied.facts.pinned⟩
        durable := occSatisfied_contains_iff.1 satisfied.facts.durable
        restorable := satisfied.facts.restorable
        granted := (granted_iff stamped).2 satisfied.granted }

theorem allows_reuses (prod : command.runtimeLane = .prod)
    (allows : Allows (evaluateGate text command) decision) :
    ∃ fact, command.readinessProjection = some fact ∧
      decision.imageDigest = some fact.imageDigest.value := by
  obtain ⟨satisfied, kept, _⟩ := evaluateGate_sound prod allows
  obtain ⟨fact, projected, _, digest, _⟩ := satisfied.facts.projected
  exact ⟨fact, projected, kept.trans digest.symm⟩

/-- The gate decides by its rules exactly unless everything else about the command is right
and its readiness comes from another lane than stability-test. -/
theorem gate_exact_iff (prod : command.runtimeLane = .prod)
    (stamped : command.evaluatedAt = some evaluatedAt) :
    GateExact text command evaluatedAt ↔ (GateSatisfied command → StabilityLane command) := by
  constructor
  · intro exact satisfied
    have allowed : ∃ decision, Allows (evaluateGate text command) decision :=
      (evaluateGate_allows_iff prod).2 satisfied
    exact ((promotionRules_iff stamped).1 (exact.decides.1 allowed)).2
  · intro lane
    refine ⟨?_, fun decision allows => allows_reuses prod allows⟩
    rw [evaluateGate_allows_iff prod, promotionRules_iff stamped]
    exact ⟨fun satisfied => ⟨satisfied, lane satisfied⟩, And.left⟩

end

/-! ## A readiness of the dev lane -/

def gateText : RedeployText where
  unicode := asciiTable
  isoformat := fun _ => ""
  strDatetime := fun _ => ""

theorem gateGrant_nonempty : "grant-1" ≠ "" := by decide

theorem gateDigest_nonempty : "sha256:a" ≠ "" := by decide

theorem gateBatch_nonempty : "batch-1" ≠ "" := by decide

theorem gateApprover_nonempty : "approver" ≠ "" := by decide

def datedGrant : ModelProdPromotionGrant where
  grantId := ⟨"grant-1", gateGrant_nonempty⟩
  approvedLane := .prod
  approvedImageDigest := ⟨"sha256:a", gateDigest_nonempty⟩
  approvedPromotionBatchId := ⟨"batch-1", gateBatch_nonempty⟩
  approvedBy := ⟨"approver", gateApprover_nonempty⟩
  createdAt := ⟨0, some 0⟩
  expiresAt := ⟨10, some 0⟩

def promotionFrom (lane : EnumRuntimeLane) : ModelProdPromotionGateCommand where
  correlationId := 1
  runtimeLane := .prod
  requestedImageDigest := some "sha256:a"
  promotionBatchId := some "batch-1"
  readinessProjection := some
    { runtimeLane := lane
      readinessState := "READY"
      imageDigest := ⟨"sha256:a", gateDigest_nonempty⟩
      promotionBatchId := ⟨"batch-1", gateBatch_nonempty⟩ }
  occGateState := .merged
  rollbackTarget := some "sha256:0"
  promotionGrant := some datedGrant
  evaluatedAt := some ⟨5, some 0⟩

/-- A READY of the stability-test lane is promoted by the rules. -/
theorem stability_readiness_exact :
    GateExact gateText (promotionFrom .stabilityTest) ⟨5, some 0⟩ := by
  refine (gate_exact_iff rfl rfl).2 fun _ fact projected => ?_
  cases projected
  rfl

/-- A READY of the dev lane is promoted against them. -/
theorem dev_readiness_promotes : ¬ GateExact gateText (promotionFrom .dev) ⟨5, some 0⟩ := by
  intro exact
  have facts : PromotionFacts (promotionFrom .dev).readinessProjection (some "sha256:a")
      (some "batch-1") .merged (gateRollbackTarget (promotionFrom .dev)) :=
    { projected := ⟨_, rfl, rfl, rfl, rfl⟩
      pinned := by decide
      durable := by decide
      restorable := by decide }
  have granted : GrantBinds datedGrant (some "sha256:a") (some "batch-1")
      (some ⟨5, some 0⟩) :=
    grantBinds_iff.2 ⟨rfl, rfl, rfl, by decide⟩
  have satisfied : GateSatisfied (promotionFrom .dev) :=
    ⟨fun candidate => absurd candidate (by decide), facts, datedGrant, rfl, granted⟩
  have allowed : ∃ decision, Allows (evaluateGate gateText (promotionFrom .dev)) decision :=
    (evaluateGate_allows_iff rfl).2 satisfied
  obtain ⟨fact, projected, lane, _⟩ := (exact.decides.1 allowed).proven
  cases projected
  cases lane

end OmniMarket.Redeploy
