import OmniMarket.Lib.OrderedDict
import OmniMarket.Lib.PyText
import Mathlib

/-!
# Native evidence pipeline

The pure steps of `evidence_pipeline_native`: a bundle of evidence is matched against its
contract, the validation is analysed for gaps, and readiness is scored from the gaps or, by the
reducer, directly from the validation. Case folding and the canonical hashes are parameters.
-/

namespace OmniMarket.EvidencePipeline

/-! ## Records -/

inductive ValidationState
  | passed | failed
deriving DecidableEq

inductive EvidenceLifecycleState
  | provisional | validated | rejected

inductive GapClassification
  | missing | hashMismatch | receiptMissing | validationFailed | unknown | stale | superseded
deriving DecidableEq

inductive ReadinessState
  | ready | degraded | blocked | advisoryOnly

structure ModelEvidenceBundle where
  correlationId : String
  validationRunId : String
  ticketId : String
  repository : String
  evidenceBundleHash : String
  extractedAt : String
  sourceProjectionRefs : List String := []
  testResults : OrderedDict String String := .empty
  scope : List String := []
  provenance : OrderedDict String String := .empty

structure ModelEvidenceValidationResult where
  correlationId : String
  validationRunId : String
  ticketId : String
  repository : String
  contractHash : String
  evidenceBundleHash : String
  verifierIdentity : String
  validatorVersion : String
  validatedAt : String
  validationState : ValidationState
  evidenceLifecycleState : EvidenceLifecycleState
  topologyAffecting : Bool := false
  requirementResults : List (String × String) := []
  missingDodItems : List String := []
  scopeDriftDetected : Bool := false
  blockingReasonCodes : List String := []
  evidenceRefs : List String := []

structure ModelGapReport where
  correlationId : String
  validationRunId : String
  deploymentId : String
  generatedAt : String
  validatorVersion : String
  gapClassifications : OrderedDict String GapClassification := .empty
  validationResultRefs : List String := []
  missingEvidenceRefs : List String := []
  hashMismatchRefs : List String := []
  receiptMissingRefs : List String := []
  failedValidationRefs : List String := []
  unknownRefs : List String := []
  staleEvidenceRefs : List String := []
  supersededArtifacts : List String := []

structure ModelDeploymentReadinessResult where
  correlationId : String
  validationRunId : String
  deploymentId : String
  readinessState : ReadinessState
  scoredAt : String
  validatorVersion : String
  gapReportHash : String
  topologyAffecting : Bool := false
  blockingReasonCodes : List String := []
  requiredEvidenceRefs : List String := []
  missingContracts : List String := []
  supersededArtifacts : List String := []
  staleValidationWindows : List String := []
  unresolvedRuntimeGaps : List String := []
  topologyMetadata : List (String × String) := []
  receiptRefs : List String := []

/-- What the standard library supplies. -/
structure EvidenceText where
  /-- `text.casefold()`. -/
  casefold : String → String
  /-- `_hash_payload` of the seed of a contract: ticket, repository and validator version. -/
  hashContractSeed : String → String → String → String
  /-- `_model_hash` of a validation result. -/
  hashValidation : ModelEvidenceValidationResult → String
  /-- `_model_hash` of a gap report. -/
  hashGapReport : ModelGapReport → String

def validatorVersion : String := "evidence-readiness-native-v1"

def verifierIdentity : String := "omnimarket.node_contract_matcher_compute"

/-! ## Text -/

/-- `_split_csv` of a provenance value: the items that are not blank, stripped. -/
def splitCsv (value : Option String) : List String :=
  match value with
  | none => []
  | some text =>
    ((text.toList.splitOn ',').map fun item => String.ofList (PyText.strip item)).filter
      fun item => item != ""

def startsWith (lead text : String) : Bool := lead.toList.isPrefixOf text.toList

def removePrefix (lead text : String) : String :=
  if startsWith lead text then String.ofList (text.toList.drop lead.length) else text

section

variable (text : EvidenceText)

/-- `_bool_value` of a provenance value; an absent one is false. -/
def boolValue : Option String → Bool
  | none => false
  | some value => ["1", "true", "yes", "y", "on"].contains (text.casefold value)

/-- `sorted(set(items))`. -/
def sortedSet (items : List String) : List String := items.eraseDups.insertionSort (· ≤ ·)

section

variable (bundle : ModelEvidenceBundle)

def validationEvidenceRefs : List String :=
  let refs := bundle.sourceProjectionRefs ++
    splitCsv (bundle.provenance.get? "diff_refs") ++
    splitCsv (bundle.provenance.get? "ci_artifact_refs") ++
    splitCsv (bundle.provenance.get? "test_output_refs") ++
    splitCsv (bundle.provenance.get? "raw_payload_refs")
  let deploymentId := bundle.provenance.get? "deployment_id"
  let withDeployment :=
    if PyText.textTruthy deploymentId && !refs.contains ("deployment:" ++ deploymentId.getD "") then
      refs ++ ["deployment:" ++ deploymentId.getD ""]
    else refs
  withDeployment.eraseDups

def deploymentIdFromRefs (refs : List String) (fallback : String) : String :=
  match refs.find? (startsWith "deployment:") with
  | some ref => removePrefix "deployment:" ref
  | none => fallback

/-! ## Matching the contract -/

def dodItems : List String :=
  splitCsv (bundle.provenance.get? "dod_items")

/-- The required items: those of the provenance, or the tests where it names none. -/
def requiredDod : List String :=
  if (dodItems bundle).isEmpty && !bundle.testResults.entries.isEmpty then bundle.testResults.keys
  else dodItems bundle

def satisfiedDod : List String :=
  if (dodItems bundle).isEmpty && !bundle.testResults.entries.isEmpty then
    (bundle.testResults.entries.filter fun entry =>
      ["passed", "pass", "ok", "true"].contains (text.casefold entry.2)).map Prod.fst
  else splitCsv (bundle.provenance.get? "satisfied_dod_items")

def missingDod : List String :=
  sortedSet ((requiredDod bundle).filter fun item => !(satisfiedDod text bundle).contains item)

def scopeDrift : Bool :=
  let expectedScope := splitCsv (bundle.provenance.get? "expected_scope")
  !expectedScope.isEmpty && !(bundle.scope.all (expectedScope.contains ·))

def contractHashMismatch : Bool :=
  text.casefold ((bundle.provenance.get? "contract_hash_mismatch").getD "") == "true"

def blockingReasons : List String :=
  (if !(missingDod text bundle).isEmpty then ["missing_dod_items"] else []) ++
    (if scopeDrift bundle then ["scope_drift_detected"] else []) ++
    if contractHashMismatch text bundle then ["contract_hash_mismatch"] else []

def matchContract :
    ModelEvidenceValidationResult :=
  let blockingReasonCodes := blockingReasons text bundle
  let validationState : ValidationState := if blockingReasonCodes.isEmpty then .passed else .failed
  { correlationId := bundle.correlationId
    validationRunId := bundle.validationRunId
    ticketId := bundle.ticketId
    repository := bundle.repository
    contractHash := PyText.textOrElse (bundle.provenance.get? "contract_hash")
      (text.hashContractSeed bundle.ticketId bundle.repository validatorVersion)
    evidenceBundleHash := bundle.evidenceBundleHash
    verifierIdentity := verifierIdentity
    validatorVersion := validatorVersion
    validatedAt := bundle.extractedAt
    validationState := validationState
    evidenceLifecycleState := if validationState = .passed then .validated else .rejected
    topologyAffecting := boolValue text (bundle.provenance.get? "topology_affecting")
    requirementResults := (sortedSet (requiredDod bundle)).map fun item =>
      (item, if (satisfiedDod text bundle).contains item then "passed" else "missing")
    missingDodItems := missingDod text bundle
    scopeDriftDetected := scopeDrift bundle
    blockingReasonCodes := blockingReasonCodes
    evidenceRefs := validationEvidenceRefs bundle }

end

/-! ## Gaps -/

/-- What `analyze_gaps` collects. -/
structure Gaps where
  classifications : OrderedDict String GapClassification := .empty
  missingRefs : List String := []
  hashMismatchRefs : List String := []
  receiptMissingRefs : List String := []
  failedRefs : List String := []
  unknownRefs : List String := []

def Gaps.addMissing (gaps : Gaps) (item : String) : Gaps :=
  let key := "dod:" ++ item
  { gaps with
    classifications := gaps.classifications.set key .missing
    missingRefs := gaps.missingRefs ++ [key] }

def Gaps.addFailed (gaps : Gaps) (state : ValidationState) (ref : String) : Gaps :=
  match state with
  | .failed =>
    { gaps with
      classifications := gaps.classifications.set "validation_state" .validationFailed
      failedRefs := gaps.failedRefs ++ [ref] }
  | .passed => gaps

def Gaps.addReason (gaps : Gaps) (reason : String) : Gaps :=
  if PyText.containsText "hash".toList reason.toList then
    { gaps with
      classifications := gaps.classifications.set reason .hashMismatch
      hashMismatchRefs := gaps.hashMismatchRefs ++ [reason] }
  else if PyText.containsText "receipt".toList reason.toList then
    { gaps with
      classifications := gaps.classifications.set reason .receiptMissing
      receiptMissingRefs := gaps.receiptMissingRefs ++ [reason] }
  else if reason ≠ "missing_dod_items" then
    { gaps with
      classifications := gaps.classifications.set reason .unknown
      unknownRefs := gaps.unknownRefs ++ [reason] }
  else gaps

section

variable (validation : ModelEvidenceValidationResult)

def collectGaps (ref : String) : Gaps :=
  let missing := validation.missingDodItems.foldl Gaps.addMissing {}
  validation.blockingReasonCodes.foldl Gaps.addReason
    (missing.addFailed validation.validationState ref)

def analyzeGaps :
    ModelGapReport :=
  let ref := text.hashValidation validation
  let gaps := collectGaps validation ref
  { correlationId := validation.correlationId
    validationRunId := validation.validationRunId
    deploymentId := deploymentIdFromRefs validation.evidenceRefs ("ticket:" ++ validation.ticketId)
    generatedAt := validation.validatedAt
    validatorVersion := validatorVersion
    gapClassifications := gaps.classifications
    validationResultRefs := [ref]
    missingEvidenceRefs := gaps.missingRefs
    hashMismatchRefs := gaps.hashMismatchRefs
    receiptMissingRefs := gaps.receiptMissingRefs
    failedValidationRefs := gaps.failedRefs
    unknownRefs := gaps.unknownRefs }

/-! ## Readiness -/

def blockingClassifications : List GapClassification :=
  [.missing, .hashMismatch, .receiptMissing, .validationFailed, .unknown]

def degradedClassifications : List GapClassification := [.stale, .superseded]

def stateOf (classifications : List GapClassification) : ReadinessState :=
  if classifications.any (blockingClassifications.contains ·) then .blocked
  else if classifications.any (degradedClassifications.contains ·) then .degraded
  else .ready

def scoreReadiness (gapReport : ModelGapReport) :
    ModelDeploymentReadinessResult where
  correlationId := gapReport.correlationId
  validationRunId := gapReport.validationRunId
  deploymentId := gapReport.deploymentId
  readinessState := stateOf gapReport.gapClassifications.values
  scoredAt := gapReport.generatedAt
  validatorVersion := validatorVersion
  gapReportHash := text.hashGapReport gapReport
  topologyAffecting := false
  blockingReasonCodes := ((gapReport.gapClassifications.entries.filter fun entry =>
    blockingClassifications.contains entry.2).map Prod.fst).insertionSort (· ≤ ·)
  requiredEvidenceRefs := gapReport.validationResultRefs
  missingContracts := gapReport.missingEvidenceRefs
  supersededArtifacts := gapReport.supersededArtifacts
  staleValidationWindows := gapReport.staleEvidenceRefs
  unresolvedRuntimeGaps := gapReport.receiptMissingRefs ++ gapReport.failedValidationRefs ++
    gapReport.unknownRefs
  topologyMetadata := [("validator_version", validatorVersion)]
  receiptRefs := gapReport.validationResultRefs.filter (startsWith "receipt:")

/-- The direct path of the reducer. -/
def readinessFromValidation :
    ModelDeploymentReadinessResult where
  correlationId := validation.correlationId
  validationRunId := validation.validationRunId
  deploymentId := deploymentIdFromRefs validation.evidenceRefs ("ticket:" ++ validation.ticketId)
  readinessState := if validation.validationState = .passed then .ready else .blocked
  scoredAt := validation.validatedAt
  validatorVersion := validatorVersion
  gapReportHash := text.hashValidation validation
  topologyAffecting := validation.topologyAffecting
  blockingReasonCodes := validation.blockingReasonCodes
  requiredEvidenceRefs := validation.evidenceRefs
  missingContracts := validation.missingDodItems

end

end

end OmniMarket.EvidencePipeline
