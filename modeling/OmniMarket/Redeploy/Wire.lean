import OmniMarket.Lib.PyText
import OmniMarket.Lib.PyValue

/-!
# Messages of the redeploy pipeline

The wire models of `runtime_deployment`: what the orchestrator, the grant resolver, the
promotion gate and the deploy effect send each other. The gate command's `prod_health`
fact is left out: no party builds or reads it. `readiness_state` is a name of another
package; only `READY` is ever compared.
-/

namespace OmniMarket.Redeploy

inductive RedeployError where
  | typeError (message : String)
  | valueError (message : String)
  /-- A wire model refused the field. -/
  | validation (model field : String)
  /-- Raised by a library that the pipeline calls. -/
  | library (call : String)

/-- The texts of the interpreter that enter reasons. -/
structure RedeployText where
  unicode : UnicodeTable
  isoformat : PyDatetime → String
  /-- `str` of a datetime. -/
  strDatetime : PyDatetime → String

/-! ## Enumerations -/

inductive EnumRuntimeLane where
  | dev
  | stabilityTest
  | prod
deriving DecidableEq

namespace EnumRuntimeLane

def value : EnumRuntimeLane → NonEmptyString
  | .dev => ⟨"dev", by decide⟩
  | .stabilityTest => ⟨"stability-test", by decide⟩
  | .prod => ⟨"prod", by decide⟩

/-- `EnumRuntimeLane(text)`. -/
def ofValue? (text : String) : Option EnumRuntimeLane :=
  [.dev, .stabilityTest, .prod].find? fun lane => lane.value.value == text

theorem ofValue?_value (lane : EnumRuntimeLane) : ofValue? lane.value.value = some lane := by
  cases lane <;> decide

end EnumRuntimeLane

inductive EnumRedeployPhase where
  | idle
  | syncClones
  | updatePins
  | rebuild
  | seedInfisical
  | verifyHealth
  | done
  | failed
  | probing
  | sweeping
  | evidenceReducing
  | occDrafting
  | occValidating
  | readinessScoring
  | ready
  | blocked
  | rollingBack
  | rolledBack
deriving DecidableEq

inductive EnumOccGateState where
  | merged
  | receiptGatePass
  | pending
  | blocked
deriving DecidableEq

def EnumOccGateState.value : EnumOccGateState → String
  | .merged => "merged"
  | .receiptGatePass => "receipt-gate-pass"
  | .pending => "pending"
  | .blocked => "blocked"

def occSatisfied : List EnumOccGateState := [.merged, .receiptGatePass]

inductive EnumProdGrantReason where
  | missingPromotionGrant
  | expiredPromotionGrant
  | grantLaneMismatch
  | grantDigestMismatch
  | grantBatchMismatch
  | selfGranted
  | candidateNotAuthorized

def EnumProdGrantReason.value : EnumProdGrantReason → NonEmptyString
  | .missingPromotionGrant => ⟨"missing_promotion_grant", by decide⟩
  | .expiredPromotionGrant => ⟨"expired_promotion_grant", by decide⟩
  | .grantLaneMismatch => ⟨"grant_lane_mismatch", by decide⟩
  | .grantDigestMismatch => ⟨"grant_digest_mismatch", by decide⟩
  | .grantBatchMismatch => ⟨"grant_batch_mismatch", by decide⟩
  | .selfGranted => ⟨"self_granted", by decide⟩
  | .candidateNotAuthorized => ⟨"candidate_not_authorized", by decide⟩

inductive EnumPromotionClass where
  | cleanMain
  | stabilityCandidate
deriving DecidableEq

def EnumPromotionClass.value : EnumPromotionClass → String
  | .cleanMain => "clean-main"
  | .stabilityCandidate => "stability-candidate"

inductive EnumRedeployScope where
  | full
  | runtime
  | core
deriving DecidableEq

inductive EnumBuildSource where
  | workspace
  | release

inductive EnumGrantResolution where
  | resolved
  | absent
  | expired
  | consumed
  | selfGranted
deriving DecidableEq

/-! ## Facts -/

def defaultPreviousImage : String := "omninode-runtime:v2.3.1"

structure ModelStabilityReadiness where
  runtimeLane : EnumRuntimeLane := .stabilityTest
  imageDigest : NonEmptyString
  promotionBatchId : Option String := none
  ready : Bool

structure ModelReadinessProjectionFact where
  runtimeLane : EnumRuntimeLane := .stabilityTest
  readinessState : String
  imageDigest : NonEmptyString
  promotionBatchId : NonEmptyString

def ModelReadinessProjectionFact.asStabilityReadiness (fact : ModelReadinessProjectionFact) :
    ModelStabilityReadiness where
  runtimeLane := fact.runtimeLane
  imageDigest := fact.imageDigest
  promotionBatchId := some fact.promotionBatchId.value
  ready := fact.readinessState == "READY"

/-- An approver's authorization of one promotion. -/
structure ModelProdPromotionGrant where
  grantId : NonEmptyString
  approvedLane : EnumRuntimeLane
  approvedImageDigest : NonEmptyString
  approvedPromotionBatchId : NonEmptyString
  approvedBy : NonEmptyString
  createdAt : PyDatetime
  expiresAt : PyDatetime
  consumedAt : Option PyDatetime := none
  consumedByCorrelationId : Option Uuid := none
  authorizesCandidate : Bool := false

/-- A sha256 digest in hexadecimal. -/
abbrev Sha256Hex := { text : String // text.length = 64 }

/-- What the resolver read the grant from. -/
structure ModelGrantProvenance where
  sourceCommitSha : NonEmptyString
  grantFilePath : NonEmptyString
  grantId : Option String
  fileSha256 : Sha256Hex
  codeownersMatch : Bool

/-! ## Requests -/

structure ModelRedeployStartCommand where
  correlationId : Uuid
  scope : EnumRedeployScope := .full
  gitRef : String := "origin/main"
  runtimeLane : EnumRuntimeLane := .dev
  buildSource : EnumBuildSource := .release
  services : List String := []
  imageRef : Option String := none
  imageDigest : Option String := none
  promotionBatchId : Option String := none
  requestedBy : String := "node_redeploy_orchestrator"
  smokeTest : Bool := false
  previousImage : String := defaultPreviousImage
  readinessProjection : Option ModelReadinessProjectionFact := none
  occGateState : EnumOccGateState := .pending
  rollbackTarget : Option String := none
  promotionGrant : Option ModelProdPromotionGrant := none
  dryRun : Bool := false

structure ModelRedeployCommand where
  correlationId : Uuid
  /-- Plugin version pins, in insertion order. -/
  versions : List (String × String) := []
  skipSync : Bool := false
  verifyOnly : Bool := false
  dryRun : Bool := false
  requestedAt : PyDatetime
  runtimeLane : EnumRuntimeLane := .dev
  imageRef : Option String := none
  imageDigest : Option String := none
  promotionBatchId : Option String := none
  prodPins : runtimeLane = .prod →
    PyText.textTruthy imageDigest = true ∧ PyText.textTruthy promotionBatchId = true

/-- A finished image build of the cloud pipeline. -/
structure ModelRuntimeImageBuilt where
  correlationId : Uuid
  digest : NonEmptyString
  sourceSha : NonEmptyString
  buildSource : EnumBuildSource
  promotionClass : EnumPromotionClass := .cleanMain
  provenance : NonEmptyString
  runtimeLane : EnumRuntimeLane := .dev
  promotionBatchId : Option String := none
  imageRef : Option String := none

/-! ## Commands between the nodes -/

/-- The key of a grant; its lane is always `prod`. -/
structure ModelProdPromotionGrantResolveCommand where
  correlationId : Uuid
  requestedImageDigest : Option String
  promotionBatchId : Option String
  requestedBy : String
  evaluatedAt : PyDatetime

structure ModelProdPromotionGrantResolvedEvent where
  correlationId : Uuid
  resolution : EnumGrantResolution
  grant : Option ModelProdPromotionGrant
  evaluatedAt : PyDatetime
  provenance : ModelGrantProvenance

structure ModelProdPromotionGateCommand where
  correlationId : Uuid
  runtimeLane : EnumRuntimeLane := .dev
  requestedImageDigest : Option String := none
  promotionBatchId : Option String := none
  readinessProjection : Option ModelReadinessProjectionFact := none
  occGateState : EnumOccGateState := .pending
  rollbackTarget : Option String := none
  previousImage : Option String := none
  promotionClass : EnumPromotionClass := .cleanMain
  nonMainLineage : Bool := false
  requestedBy : String := "node_redeploy_orchestrator"
  promotionGrant : Option ModelProdPromotionGrant := none
  evaluatedAt : Option PyDatetime := none

structure ModelProdPromotionInputs where
  requestedImageDigest : Option String
  promotionBatchId : Option String
  readinessProjection : Option ModelReadinessProjectionFact
  occGateState : EnumOccGateState
  rollbackTarget : Option String
  requestedBy : String
  promotionGrant : Option ModelProdPromotionGrant
  promotionClass : EnumPromotionClass
  nonMainLineage : Bool
  evaluatedAt : PyDatetime

structure ModelProdGateDecision where
  allowed : Bool
  imageDigest : Option String
  reason : NonEmptyString

structure ModelProdPromotionGateDecision where
  allowed : Bool
  imageDigest : Option String
  rollbackTarget : Option String
  reason : NonEmptyString

structure ModelDeployPublishCommand where
  correlationId : Uuid
  scope : EnumRedeployScope
  gitRef : String
  runtimeLane : EnumRuntimeLane
  promotionBatchId : Option String
  promotionGrant : Option ModelProdPromotionGrant
  evaluatedAt : Option PyDatetime
  buildSource : EnumBuildSource
  services : List String
  imageRef : Option String
  imageDigest : Option String
  requestedBy : String
  smokeTest : Bool
  rollbackTarget : String

structure ModelRedeployCompletedEvent where
  correlationId : Uuid
  finalPhase : EnumRedeployPhase
  phasesCompleted : ℕ
  errorMessage : Option String

end OmniMarket.Redeploy
