import OmniMarket.EvidencePipeline.Native
import OmniMarket.Lib.Lines

/-!
# The two readiness paths

Readiness is scored from a gap report, or read off the validation directly.

1. `pathsAgree_iff`: for the validation of a bundle, both paths agree and are ready exactly when
   nothing is missing, drifted or mismatched, iff the bundle is not marked as affecting the
   topology. The scored path always reports that it does not.
2. `topology_lost`: a bundle that is marked.
-/

namespace OmniMarket.EvidencePipeline
variable {ref part : String}

section

variable {text : EvidenceText}

/-- Nothing stands against the readiness of a bundle. -/
structure Unblocked (text : EvidenceText) (bundle : ModelEvidenceBundle) : Prop where
  satisfied : ∀ item ∈ requiredDod bundle, item ∈ satisfiedDod text bundle
  noDrift : scopeDrift bundle = false
  noMismatch : contractHashMismatch text bundle = false

structure PathsAgree (text : EvidenceText) (bundle : ModelEvidenceBundle)
    (scored direct : ModelDeploymentReadinessResult) : Prop where
  readinessState : scored.readinessState = direct.readinessState
  deploymentId : scored.deploymentId = direct.deploymentId
  topologyAffecting : scored.topologyAffecting = direct.topologyAffecting
  missing : scored.missingContracts = direct.missingContracts.map ("dod:" ++ ·)
  ready : scored.readinessState = .ready ↔ Unblocked text bundle

/-! ## What is found against a bundle -/

theorem mem_sortedSet {items : List String} {item : String} :
    item ∈ sortedSet items ↔ item ∈ items := by
  rw [sortedSet, List.mem_insertionSort, List.mem_eraseDups]

variable {bundle : ModelEvidenceBundle}

theorem missingDod_eq_nil :
    missingDod text bundle = [] ↔ ∀ item ∈ requiredDod bundle, item ∈ satisfiedDod text bundle := by
  rw [List.eq_nil_iff_forall_not_mem]
  simp only [missingDod, mem_sortedSet, List.mem_filter, Bool.not_eq_true', List.contains_eq_mem,
    decide_eq_false_iff_not, not_and, not_not]

theorem blockingReasons_eq_nil : blockingReasons text bundle = [] ↔ Unblocked text bundle := by
  have each : blockingReasons text bundle = [] ↔ missingDod text bundle = [] ∧
      scopeDrift bundle = false ∧ contractHashMismatch text bundle = false := by
    unfold blockingReasons
    simp
  rw [each, missingDod_eq_nil]
  constructor
  · rintro ⟨satisfied, noDrift, noMismatch⟩
    exact ⟨satisfied, noDrift, noMismatch⟩
  · rintro ⟨satisfied, noDrift, noMismatch⟩
    exact ⟨satisfied, noDrift, noMismatch⟩

theorem direct_ready :
    (readinessFromValidation text (matchContract text bundle)).readinessState = .ready ↔
      Unblocked text bundle := by
  rw [← blockingReasons_eq_nil]
  show (if (if (blockingReasons text bundle).isEmpty then _ else _) = ValidationState.passed
    then _ else _) = _ ↔ _
  cases blockingReasons text bundle <;> simp

/-! ## The gaps of a validation -/

def Gaps.AllBlock (gaps : Gaps) : Prop :=
  ∀ value ∈ gaps.classifications.values, value ∈ blockingClassifications

theorem allBlock_set {classifications : OrderedDict String GapClassification} {key : String}
    {value : GapClassification} (before : ∀ v ∈ classifications.values, v ∈ blockingClassifications)
    (blocks : value ∈ blockingClassifications) :
    ∀ v ∈ (classifications.set key value).values, v ∈ blockingClassifications := by
  intro v listed
  obtain ⟨k, held⟩ := OrderedDict.mem_values.1 listed
  by_cases own : k = key
  · rw [own, OrderedDict.get?_set_self] at held
    exact Option.some.inj held ▸ blocks
  · rw [OrderedDict.get?_set_other own] at held
    exact before v (OrderedDict.mem_values.2 ⟨k, held⟩)

variable {gaps : Gaps}

theorem Gaps.AllBlock.addMissing (before : gaps.AllBlock) (item : String) :
    (gaps.addMissing item).AllBlock :=
  allBlock_set before (by decide)

theorem Gaps.AllBlock.addFailed (before : gaps.AllBlock) (state : ValidationState) (ref : String) :
    (gaps.addFailed state ref).AllBlock := by
  cases state with
  | passed => exact before
  | failed => exact allBlock_set before (by decide)

theorem Gaps.AllBlock.addReason (before : gaps.AllBlock) (reason : String) :
    (gaps.addReason reason).AllBlock := by
  unfold Gaps.addReason
  split_ifs
  · exact allBlock_set before (by decide)
  · exact allBlock_set before (by decide)
  · exact allBlock_set before (by decide)
  · exact before

theorem allBlock_collectGaps (validation : ModelEvidenceValidationResult) (ref : String) :
    (collectGaps validation ref).AllBlock := by
  unfold collectGaps
  refine List.foldlRecOn _ _ ?_ fun gaps before reason _ => before.addReason reason
  refine Gaps.AllBlock.addFailed ?_ _ _
  refine List.foldlRecOn _ _ ?_ fun gaps before item _ => before.addMissing item
  exact nofun

theorem mem_keys_addReason {key : String} (reason : String)
    (held : key ∈ gaps.classifications.keys) :
    key ∈ (gaps.addReason reason).classifications.keys := by
  have kept (value : GapClassification) : key ∈ (gaps.classifications.set reason value).keys := by
    rw [OrderedDict.mem_keys]
    by_cases own : key = reason
    · exact ⟨value, own ▸ OrderedDict.get?_set_self _ _ _⟩
    · rw [OrderedDict.get?_set_other own]
      exact OrderedDict.mem_keys.1 held
  unfold Gaps.addReason
  split_ifs
  · exact kept _
  · exact kept _
  · exact kept _
  · exact held

theorem failed_classified {validation : ModelEvidenceValidationResult}
    (failed : validation.validationState = .failed) :
    "validation_state" ∈ (collectGaps validation ref).classifications.keys := by
  unfold collectGaps
  refine List.foldlRecOn
    (motive := fun gaps : Gaps => "validation_state" ∈ gaps.classifications.keys) _ _ ?_
    fun gaps before reason _ => mem_keys_addReason reason before
  rw [failed]
  exact OrderedDict.mem_keys.2 ⟨_, OrderedDict.get?_set_self _ _ _⟩

theorem missingRefs_addReason (gaps : Gaps) (reason : String) :
    (gaps.addReason reason).missingRefs = gaps.missingRefs := by
  unfold Gaps.addReason
  split_ifs <;> rfl

theorem missingRefs_collectGaps (validation : ModelEvidenceValidationResult) (ref : String) :
    (collectGaps validation ref).missingRefs = validation.missingDodItems.map ("dod:" ++ ·) := by
  have added (items : List String) (gaps : Gaps) :
      (items.foldl Gaps.addMissing gaps).missingRefs =
        gaps.missingRefs ++ items.map ("dod:" ++ ·) := by
    induction items generalizing gaps with
    | nil => exact (List.append_nil _).symm
    | cons item rest ih =>
      rw [List.foldl_cons, ih, Gaps.addMissing, List.append_assoc]
      rfl
  unfold collectGaps
  refine List.foldlRecOn (motive := fun gaps : Gaps => gaps.missingRefs = _) _ _ ?_
    fun gaps before reason _ => (missingRefs_addReason gaps reason).trans before
  cases validation.validationState <;> exact added _ _

/-! ## Agreement -/

theorem scored_state (bundle : ModelEvidenceBundle) :
    (scoreReadiness text (analyzeGaps text (matchContract text bundle))).readinessState =
      (readinessFromValidation text (matchContract text bundle)).readinessState := by
  by_cases clear : Unblocked text bundle
  · have noReasons := blockingReasons_eq_nil.2 clear
    have noMissing := missingDod_eq_nil.2 clear.satisfied
    rw [direct_ready.2 clear]
    show stateOf (collectGaps (matchContract text bundle) _).classifications.values = .ready
    simp [collectGaps, matchContract, noReasons, noMissing, Gaps.addFailed]
    rfl
  · have reasons : blockingReasons text bundle ≠ [] := mt blockingReasons_eq_nil.1 clear
    have failed : (matchContract text bundle).validationState = .failed :=
      if_neg (by simpa using reasons)
    have blocked : (readinessFromValidation text (matchContract text bundle)).readinessState =
        .blocked := by
      rw [readinessFromValidation, failed]
      rfl
    rw [blocked]
    -- Some classification was set, and all that are set block.
    have classified : "validation_state" ∈ (collectGaps (matchContract text bundle)
        (text.hashValidation (matchContract text bundle))).classifications.keys :=
      failed_classified failed
    obtain ⟨value, held⟩ := OrderedDict.mem_keys.1 classified
    have listed := OrderedDict.mem_values.2 ⟨_, held⟩
    refine if_pos (List.any_eq_true.2 ⟨value, listed, ?_⟩)
    exact List.contains_iff_mem.2 (allBlock_collectGaps _ _ value listed)

/-- The paths agree, and are ready exactly when nothing stands against the bundle, iff the
bundle does not affect the topology. -/
theorem pathsAgree_iff (text : EvidenceText) (bundle : ModelEvidenceBundle) :
    PathsAgree text bundle (scoreReadiness text (analyzeGaps text (matchContract text bundle)))
        (readinessFromValidation text (matchContract text bundle)) ↔
      boolValue text (bundle.provenance.get? "topology_affecting") = false := by
  constructor
  · intro agree
    exact agree.topologyAffecting.symm
  · intro unaffecting
    exact
      { readinessState := scored_state bundle
        deploymentId := rfl
        topologyAffecting := unaffecting.symm
        missing := missingRefs_collectGaps _ _
        ready := by rw [scored_state, direct_ready] }

def sampleBundle : ModelEvidenceBundle where
  correlationId := "c"
  validationRunId := "run-1"
  ticketId := "OMN-1"
  repository := "omnimarket"
  evidenceBundleHash := "sha256:0"
  extractedAt := "2026-01-01T00:00:00+00:00"
  provenance := ⟨[("topology_affecting", "true")], by decide⟩

/-- Case folding of the lower-case values of the sample, and fixed digests. -/
def sampleText : EvidenceText where
  casefold := id
  hashContractSeed _ _ _ := "sha256:1"
  hashValidation _ := "sha256:2"
  hashGapReport _ := "sha256:3"

/-- The reducer reports that the topology is affected, the scorer that it is not. -/
theorem topology_lost :
    (readinessFromValidation sampleText (matchContract sampleText sampleBundle)).topologyAffecting =
        true ∧
      (scoreReadiness sampleText (analyzeGaps sampleText
        (matchContract sampleText sampleBundle))).topologyAffecting = false ∧
      ¬ PathsAgree sampleText sampleBundle
        (scoreReadiness sampleText (analyzeGaps sampleText (matchContract sampleText sampleBundle)))
        (readinessFromValidation sampleText (matchContract sampleText sampleBundle)) := by
  have direct : (readinessFromValidation sampleText
      (matchContract sampleText sampleBundle)).topologyAffecting = true := by decide
  refine ⟨direct, rfl, ?_⟩
  intro agree
  have lost := agree.topologyAffecting
  rw [direct] at lost
  cases lost

end

/-!
# The refs of the evidence

`extract_evidence` joins the collected refs with commas into the provenance of the bundle, and
`match_contract` splits, strips and deduplicates them again. The payload's refs are any texts.
-/

/-! ## Extraction -/

structure ModelRawEvidencePayload where
  correlationId : String
  validationRunId : String
  ticketId : String
  repository : String
  sourceCommitSha : String
  collectedAt : String
  collectorIdentity : String
  sourceSurfaces : List String := []
  changedFiles : List String := []
  diffRefs : List String := []
  ciArtifactRefs : List String := []
  testOutputRefs : List String := []
  rawPayloadRefs : List String := []
  provenance : OrderedDict String String := .empty

def bundleProvenance (raw : ModelRawEvidencePayload) : OrderedDict String String :=
  ((((raw.provenance.set "collector_identity" raw.collectorIdentity).set
    "diff_refs" (",".intercalate raw.diffRefs)).set
    "ci_artifact_refs" (",".intercalate raw.ciArtifactRefs)).set
    "test_output_refs" (",".intercalate raw.testOutputRefs)).set
    "raw_payload_refs" (",".intercalate raw.rawPayloadRefs)

def extractedTests (raw : ModelRawEvidencePayload) : OrderedDict String String :=
  let testResults : OrderedDict String String :=
    ((bundleProvenance raw).entries.filter fun entry => startsWith "test:" entry.1).foldl
      (fun dict entry => dict.set (removePrefix "test:" entry.1) entry.2) .empty
  if !raw.testOutputRefs.isEmpty && testResults.entries.isEmpty then
    raw.testOutputRefs.foldl (fun dict ref => dict.set ref "passed") .empty
  else testResults

/-- The first segments of the paths. -/
def scopeFromChangedFiles (changedFiles : List String) : List String :=
  let normalized := (changedFiles.map fun path => PyText.stripChars ['/'] path.toList).filter
    fun path => !path.isEmpty
  sortedSet (normalized.map fun path => String.ofList (path.takeWhile (· ≠ '/')))

/-- `hashBundle` is `_hash_payload` of the seed: the payload and the bundle's provenance. -/
def extractEvidence (hashBundle : ModelRawEvidencePayload → OrderedDict String String → String)
    (raw : ModelRawEvidencePayload) : ModelEvidenceBundle where
  correlationId := raw.correlationId
  validationRunId := raw.validationRunId
  ticketId := raw.ticketId
  repository := raw.repository
  evidenceBundleHash := hashBundle raw (bundleProvenance raw)
  extractedAt := raw.collectedAt
  sourceProjectionRefs := raw.rawPayloadRefs.filter (startsWith "projection:")
  testResults := extractedTests raw
  scope := scopeFromChangedFiles raw.changedFiles
  provenance := bundleProvenance raw

/-! ## Splitting -/

/-- A text that splitting and stripping leave as it is. -/
def Plain (ref : String) : Prop :=
  ref ≠ "" ∧ ',' ∉ ref.toList ∧ PyText.stripString ref = ref

instance : DecidablePred Plain := fun _ => inferInstanceAs (Decidable (_ ∧ _ ∧ _))

theorem mem_splitCsv {text : String} :
    part ∈ splitCsv (some text) ↔
      part ≠ "" ∧ ∃ piece ∈ text.toList.splitOn ',', String.ofList (PyText.strip piece) = part := by
  simp only [splitCsv, List.mem_filter, List.mem_map, bne_iff_ne, ne_eq, and_comm]

theorem plain_of_mem_splitCsv {text : String} (listed : part ∈ splitCsv (some text)) :
    Plain part := by
  obtain ⟨filled, piece, split, rfl⟩ := mem_splitCsv.1 listed
  refine ⟨filled, ?_, ?_⟩
  · rw [String.toList_ofList]
    exact fun comma => not_mem_of_mem_splitOn split (PyText.strip_subset piece comma)
  · rw [PyText.stripString, String.toList_ofList, PyText.strip_strip]

theorem mem_splitCsv_self : ref ∈ splitCsv (some ref) ↔ Plain ref := by
  constructor
  · exact plain_of_mem_splitCsv
  · rintro ⟨filled, comma, stripped⟩
    refine mem_splitCsv.2 ⟨filled, ref.toList, ?_, stripped⟩
    rw [List.splitOn_eq_singleton comma]
    exact List.mem_singleton_self _

theorem splitCsv_plain (plain : Plain ref) (listed : part ∈ splitCsv (some ref)) : part = ref := by
  obtain ⟨-, piece, split, rfl⟩ := mem_splitCsv.1 listed
  rw [List.splitOn_eq_singleton plain.2.1, List.mem_singleton] at split
  rw [split]
  exact plain.2.2

theorem mem_splitCsv_join {refs : List String} :
    part ∈ splitCsv (some (",".intercalate refs)) ↔ ∃ ref ∈ refs, part ∈ splitCsv (some ref) := by
  rcases eq_or_ne refs [] with rfl | some'
  · refine iff_of_false ?_ (by simp)
    intro listed
    obtain ⟨filled, piece, split, rfl⟩ := mem_splitCsv.1 listed
    obtain rfl : piece = [] := List.mem_singleton.1 split
    exact filled rfl
  have pieces : (",".intercalate refs).toList.splitOn ',' =
      refs.flatMap fun ref => ref.toList.splitOn ',' := by
    rw [String.toList_intercalate, show ",".toList = [','] from rfl,
      splitOn_intercalate_flatMap fun none' => some' (List.map_eq_nil_iff.1 none'),
      List.flatMap_map]
  simp only [mem_splitCsv, pieces, List.mem_flatMap]
  constructor
  · rintro ⟨filled, piece, ⟨ref, listed, split⟩, rfl⟩
    exact ⟨ref, listed, filled, piece, split, rfl⟩
  · rintro ⟨ref, listed, filled, piece, split, rfl⟩
    exact ⟨filled, piece, ⟨ref, listed, split⟩, rfl⟩

/-! ## The refs -/

theorem mem_addOnce {refs : List String} {added : String} (given : Bool) :
    ref ∈ (if (given && !refs.contains added) = true then refs ++ [added] else refs) ↔
      ref ∈ refs ∨ (if given = true then some added else none) = some ref := by
  cases given with
  | false => simp
  | true =>
    rw [if_pos rfl, Option.some.injEq]
    simp only [Bool.true_and, Bool.not_eq_true']
    split
    · rw [List.mem_append, List.mem_singleton, eq_comm (a := ref)]
    · next listed =>
      rw [Bool.not_eq_false, List.contains_iff_mem] at listed
      exact ⟨.inl, fun either => either.elim id fun same => same ▸ listed⟩

section Refs

variable (text : EvidenceText)
  (hashBundle : ModelRawEvidencePayload → OrderedDict String String → String)
  (raw : ModelRawEvidencePayload)

def collectedRefs : List String :=
  raw.diffRefs ++ raw.ciArtifactRefs ++ raw.testOutputRefs ++ raw.rawPayloadRefs

def deploymentRef : Option String :=
  if PyText.textTruthy (raw.provenance.get? "deployment_id") then
    some ("deployment:" ++ (raw.provenance.get? "deployment_id").getD "")
  else none

def evidenceRefs : List String := (matchContract text (extractEvidence hashBundle raw)).evidenceRefs

theorem mem_evidenceRefs :
    ref ∈ evidenceRefs text hashBundle raw ↔
      (ref ∈ raw.rawPayloadRefs ∧ startsWith "projection:" ref = true) ∨
        (∃ whole ∈ collectedRefs raw, ref ∈ splitCsv (some whole)) ∨ deploymentRef raw = some ref := by
  have diff : (bundleProvenance raw).get? "diff_refs" = some (",".intercalate raw.diffRefs) := by
    simp [bundleProvenance, OrderedDict.get?_set_other]
  have artifacts : (bundleProvenance raw).get? "ci_artifact_refs" =
      some (",".intercalate raw.ciArtifactRefs) := by
    simp [bundleProvenance, OrderedDict.get?_set_other]
  have outputs : (bundleProvenance raw).get? "test_output_refs" =
      some (",".intercalate raw.testOutputRefs) := by
    simp [bundleProvenance, OrderedDict.get?_set_other]
  have payloads : (bundleProvenance raw).get? "raw_payload_refs" =
      some (",".intercalate raw.rawPayloadRefs) := by
    simp [bundleProvenance]
  have deployment : (bundleProvenance raw).get? "deployment_id" =
      raw.provenance.get? "deployment_id" := by
    simp [bundleProvenance, OrderedDict.get?_set_other]
  show ref ∈ validationEvidenceRefs (extractEvidence hashBundle raw) ↔ _
  rw [validationEvidenceRefs, List.mem_eraseDups]
  simp only [extractEvidence, diff, artifacts, outputs, payloads, deployment, mem_addOnce,
    List.mem_append, List.mem_filter, mem_splitCsv_join, deploymentRef, collectedRefs]
  rw [← or_assoc]
  refine or_congr_left ?_
  constructor
  · rintro ((((projection | ⟨whole, listed, part⟩) | ⟨whole, listed, part⟩) |
      ⟨whole, listed, part⟩) | ⟨whole, listed, part⟩)
    · exact .inl projection
    · exact .inr ⟨whole, .inl (.inl (.inl listed)), part⟩
    · exact .inr ⟨whole, .inl (.inl (.inr listed)), part⟩
    · exact .inr ⟨whole, .inl (.inr listed), part⟩
    · exact .inr ⟨whole, .inr listed, part⟩
  · rintro (projection | ⟨whole, ((listed | listed) | listed) | listed, part⟩)
    · exact .inl (.inl (.inl (.inl projection)))
    · exact .inl (.inl (.inl (.inr ⟨whole, listed, part⟩)))
    · exact .inl (.inl (.inr ⟨whole, listed, part⟩))
    · exact .inl (.inr ⟨whole, listed, part⟩)
    · exact .inr ⟨whole, listed, part⟩

structure RefsSurvive : Prop where
  kept : ∀ ref ∈ collectedRefs raw, ref ∈ evidenceRefs text hashBundle raw
  noOther : ∀ ref ∈ evidenceRefs text hashBundle raw,
    ref ∈ collectedRefs raw ∨ deploymentRef raw = some ref

/-- The refs survive exactly when each is plain, or kept as a projection's or the deployment's, and
what a ref that is not plain is split into was collected as well. -/
theorem refsSurvive_iff :
    RefsSurvive text hashBundle raw ↔
      (∀ ref ∈ collectedRefs raw, Plain ref ∨
          (ref ∈ raw.rawPayloadRefs ∧ startsWith "projection:" ref = true) ∨
          deploymentRef raw = some ref) ∧
        ∀ ref ∈ collectedRefs raw, ¬ Plain ref → ∀ part ∈ splitCsv (some ref),
          part ∈ collectedRefs raw ∨ deploymentRef raw = some part := by
  constructor
  · intro survive
    constructor
    · intro ref listed
      rcases (mem_evidenceRefs text hashBundle raw).1 (survive.kept ref listed) with
        projection | ⟨whole, -, part⟩ | deployment
      · exact .inr (.inl projection)
      · exact .inl (plain_of_mem_splitCsv part)
      · exact .inr (.inr deployment)
    · intro ref listed _ part split
      exact survive.noOther part
        ((mem_evidenceRefs text hashBundle raw).2 (.inr (.inl ⟨ref, listed, split⟩)))
  · rintro ⟨kept, parts⟩
    constructor
    · intro ref listed
      refine (mem_evidenceRefs text hashBundle raw).2 ?_
      rcases kept ref listed with plain | projection | deployment
      · exact .inr (.inl ⟨ref, listed, mem_splitCsv_self.2 plain⟩)
      · exact .inl projection
      · exact .inr (.inr deployment)
    · intro ref present
      rcases (mem_evidenceRefs text hashBundle raw).1 present with
        projection | ⟨whole, listed, part⟩ | deployment
      · exact .inl (List.mem_append_right _ projection.1)
      · rcases Decidable.em (Plain whole) with plain | other
        · rw [splitCsv_plain plain part]
          exact .inl listed
        · exact parts whole listed other ref part
      · exact .inr deployment

end Refs

def rawOf (diffRefs : List String) : ModelRawEvidencePayload where
  correlationId := "corr-1"
  validationRunId := "run-1"
  ticketId := "OMN-1"
  repository := "omnimarket"
  sourceCommitSha := "abc123"
  collectedAt := "2026-06-01T22:00:00Z"
  collectorIdentity := "collector"
  diffRefs := diffRefs

/-- A diff ref with a comma comes out as two refs that were not collected. -/
theorem comma_ref_lost :
    evidenceRefs sampleText (fun _ _ => "sha256:4") (rawOf ["diff:a,b"]) = ["diff:a", "b"] ∧
      ¬ RefsSurvive sampleText (fun _ _ => "sha256:4") (rawOf ["diff:a,b"]) := by
  have split : evidenceRefs sampleText (fun _ _ => "sha256:4") (rawOf ["diff:a,b"]) =
      ["diff:a", "b"] := by decide +kernel
  refine ⟨split, ?_⟩
  intro survive
  have kept := survive.kept "diff:a,b" (by decide)
  rw [split] at kept
  exact absurd kept (by decide)

end OmniMarket.EvidencePipeline
