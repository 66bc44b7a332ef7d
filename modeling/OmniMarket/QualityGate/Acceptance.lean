import Mathlib.Data.List.ReduceOption
import OmniMarket.QualityGate.Gate

/-!
# Who may accept an output

`Accepted` says of a gate input, in terms of its single checks, when the gate accepts:
the floor holds, and either the verifiable path or the heuristic band promotes.
`gate_acceptance` proves that `delta` decides it.

The second half is about refusals. The comments of the source promise that the floor
blocks them. On the verifiable path it does so only for a deterministic `no_refusal`.
-/

namespace OmniMarket.QualityGate

variable (rt : GateRuntime)
  {check : String} {content : List Char} {dod : DefinitionOfDone} {authority : Bool}
  {judgeAdequacyScore : Option UnitScore} {judgeVerdict : Option EnumDelegationJudgeVerdict}
  {result : ModelQualityGateResult} {checks : List String} {input' : ModelQualityGateInput}
  {outcome : CheckOutcome} {input : ModelQualityGateInput}

/-! ## What acceptance means -/

section

variable (input : ModelQualityGateInput)

def checkedResponse : List Char :=
  stripThinkingTraces rt input.llmResponseContent.toList

def isEvaluated (check : String) : Bool := !UNEVALUATED_DETERMINISTIC_CHECKS.contains check

def DeterministicFails (content : List Char) (check : String) : Prop :=
  ∃ reason, deterministicCheck rt content check = .ok (some reason)

def HeuristicFails (content : List Char) (check : String) : Prop :=
  ∃ reason unsupported, heuristicCheck rt content check = .ok (some reason, unsupported)

/-- The heuristic band knows the name. -/
def heuristicSupported (check : String) : Bool :=
  heuristicKnown rt check || (checkParameter rt MIN_LENGTH_CHECK_RE check).isSome

structure ChecksRun : Prop where
  deterministic : ∀ check ∈ (mergedDod input).deterministic, isEvaluated check = true →
    ∃ reason, deterministicCheck rt (checkedResponse rt input) check = .ok reason
  heuristic : ∀ check ∈ (mergedDod input).heuristic,
    ∃ outcome, heuristicCheck rt (checkedResponse rt input) check = .ok outcome

def DeterministicAuthority : Prop :=
  input.taskType ∈ VERIFIABLE_TASK_TYPES ∧
    ∃ check ∈ (mergedDod input).deterministic,
      isRejectOnlyDeterministicCheck rt check = false ∧ isEvaluated check = true

/-- A declared check of either band that is neither reject-only nor unevaluated. -/
def AdequacyAuthority : Prop :=
  (∃ check ∈ (mergedDod input).deterministic,
      isRejectOnlyDeterministicCheck rt check = false ∧ isEvaluated check = true) ∨
    ∃ check ∈ (mergedDod input).heuristic,
      isRejectOnlyHeuristicCheck rt check = false ∧ isEvaluated check = true

structure FloorPasses : Prop where
  declared : ∀ check ∈ (mergedDod input).deterministic, isEvaluated check = true →
    ¬DeterministicFails rt (checkedResponse rt input) check
  supported : ∀ check ∈ (mergedDod input).heuristic, heuristicSupported rt check = true
  nonEmpty : DeterministicAuthority rt input → PyText.strip (checkedResponse rt input) ≠ []

def NoHeuristicFails : Prop :=
  ∀ check ∈ (mergedDod input).heuristic, ¬HeuristicFails rt (checkedResponse rt input) check

/-- The gate accepts the response of `input` under the verdict of the judge. -/
structure Accepted (judgeVerdict : Option EnumDelegationJudgeVerdict) : Prop where
  declared : (mergedDod input).isEmpty = false
  floor : FloorPasses rt input
  promoted : (DeterministicAuthority rt input ∧ judgeVerdict ≠ some .fail) ∨
    (¬DeterministicAuthority rt input ∧ NoHeuristicFails rt input ∧ AdequacyAuthority rt input)

end

variable {rt}

/-! ## Single checks -/

theorem heuristicSupported_isEvaluated (supported : heuristicSupported rt check = true) :
    isEvaluated check = true := by
  rw [isEvaluated, Bool.not_eq_true']
  by_contra skipped
  have named : check = "passes_existing_tests" := by
    simpa [UNEVALUATED_DETERMINISTIC_CHECKS] using skipped
  rw [named] at supported
  cases supported

theorem applyHeuristicCheck_known {reason : String}
    (failed : applyHeuristicCheck rt check content = some reason) :
    heuristicKnown rt check = true := by
  rw [heuristicKnown, Bool.or_eq_true]
  unfold applyHeuristicCheck at failed
  split at failed
  · rename_i checker found
    left
    have listed := List.lookup_eq_some_iff.mp found
    obtain ⟨before, after, entries, -⟩ := listed
    rw [entries]
    simp
  · right
    obtain ⟨entry, found, -⟩ := Option.bind_eq_some_iff.mp failed
    obtain ⟨before, after, entries, -⟩ := List.lookup_eq_some_iff.mp found
    rw [entries]
    simp

theorem heuristicCheck_unsupported {failure unsupported : Option String}
    (checked : heuristicCheck rt content check = .ok (failure, unsupported)) :
    unsupported = none ↔ heuristicSupported rt check = true := by
  unfold heuristicCheck at checked
  rw [heuristicSupported, Bool.or_eq_true]
  split at checked
  · rename_i reason failed
    cases checked
    exact ⟨fun _ => .inl (applyHeuristicCheck_known failed), fun _ => rfl⟩
  · split at checked
    · rename_i known
      cases checked
      exact ⟨fun _ => .inl known, fun _ => rfl⟩
    · rename_i unknown
      split at checked
      · rename_i parameter found
        match converted : intOfDigits rt parameter with
        | .error raised =>
          rw [converted] at checked
          cases checked
        | .ok threshold =>
          rw [converted] at checked
          cases checked
          exact ⟨fun _ => .inr (by rw [found]; rfl), fun _ => rfl⟩
      · rename_i absent
        cases checked
        simp [unknown, absent]

/-! ## Bands -/

theorem evaluateDeterministicChecks_eq (content : List Char) (checks : List String) :
    evaluateDeterministicChecks rt content checks =
      ((checks.filter isEvaluated).mapM (deterministicCheck rt content)).map fun reasons =>
        (reasons.reduceOption, checks.filter (!isEvaluated ·)) := by
  induction checks with
  | nil => rfl
  | cons check rest ih =>
    unfold evaluateDeterministicChecks
    rw [ih]
    by_cases skipped : UNEVALUATED_DETERMINISTIC_CHECKS.contains check = true
    · have unevaluated : isEvaluated check = false := by rw [isEvaluated, skipped]; rfl
      have passedOver : (check :: rest).filter isEvaluated = rest.filter isEvaluated :=
        List.filter_cons_of_neg (by simp [unevaluated])
      have noted : (check :: rest).filter (!isEvaluated ·) =
          check :: rest.filter (!isEvaluated ·) :=
        List.filter_cons_of_pos (by simp [unevaluated])
      rw [if_pos skipped, passedOver, noted]
      cases (rest.filter isEvaluated).mapM (deterministicCheck rt content) <;> rfl
    · have evaluated : isEvaluated check = true := by
        rw [isEvaluated, Bool.eq_false_iff.mpr skipped]
        rfl
      have noted : (check :: rest).filter (!isEvaluated ·) = rest.filter (!isEvaluated ·) :=
        List.filter_cons_of_neg (by simp [evaluated])
      rw [if_neg skipped, List.filter_cons_of_pos evaluated, noted]
      match checked : deterministicCheck rt content check with
      | .error raised =>
        rw [Search.mapM_cons_error checked]
        rfl
      | .ok reason =>
        rw [Search.mapM_cons_ok checked]
        cases (rest.filter isEvaluated).mapM (deterministicCheck rt content) <;>
          cases reason <;> rfl

theorem evaluateHeuristicChecks_eq (content : List Char) (checks : List String) :
    evaluateHeuristicChecks rt content checks =
      (checks.mapM (heuristicCheck rt content)).map fun outcomes =>
        ((outcomes.map (·.1)).reduceOption, (outcomes.map (·.2)).reduceOption) := by
  induction checks with
  | nil => rfl
  | cons check rest ih =>
    unfold evaluateHeuristicChecks
    rw [ih]
    match checked : heuristicCheck rt content check with
    | .error raised =>
      rw [Search.mapM_cons_error checked]
      rfl
    | .ok (failure, unsupported) =>
      rw [Search.mapM_cons_ok checked]
      cases rest.mapM (heuristicCheck rt content) <;> cases failure <;>
        cases unsupported <;> rfl

theorem reduceOption_eq_nil {α : Type} {items : List (Option α)} :
    items.reduceOption = [] ↔ ∀ item ∈ items, item = none := by
  rw [List.reduceOption, List.filterMap_eq_nil_iff]
  rfl

theorem runContractChecks_eq (content : List Char) (dod : DefinitionOfDone) :
    runContractChecks rt content dod =
      ((dod.deterministic.filter isEvaluated).mapM (deterministicCheck rt content)).bind fun reasons =>
        (dod.heuristic.mapM (heuristicCheck rt content)).map fun outcomes =>
          { deterministicFailures := reasons.reduceOption ++ (outcomes.map (·.2)).reduceOption
            heuristicFailures := (outcomes.map (·.1)).reduceOption
            skippedDeterministic := dod.deterministic.filter (!isEvaluated ·) } := by
  unfold runContractChecks
  rw [evaluateDeterministicChecks_eq, evaluateHeuristicChecks_eq]
  cases (dod.deterministic.filter isEvaluated).mapM (deterministicCheck rt content) with
  | error raised => rfl
  | ok reasons => cases dod.heuristic.mapM (heuristicCheck rt content) <;> rfl

theorem runContractChecks_ok
    (checked : runContractChecks rt content dod = .ok outcome) :
    ∃ reasons outcomes,
      (dod.deterministic.filter isEvaluated).mapM (deterministicCheck rt content) = .ok reasons ∧
      dod.heuristic.mapM (heuristicCheck rt content) = .ok outcomes ∧
      outcome =
        { deterministicFailures := reasons.reduceOption ++ (outcomes.map (·.2)).reduceOption
          heuristicFailures := (outcomes.map (·.1)).reduceOption
          skippedDeterministic := dod.deterministic.filter (!isEvaluated ·) } := by
  rw [runContractChecks_eq] at checked
  match walked : (dod.deterministic.filter isEvaluated).mapM (deterministicCheck rt content) with
  | .error raised =>
    rw [walked] at checked
    cases checked
  | .ok reasons =>
    match visited : dod.heuristic.mapM (heuristicCheck rt content) with
    | .error raised =>
      rw [walked, visited] at checked
      cases checked
    | .ok outcomes =>
      rw [walked, visited] at checked
      exact ⟨reasons, outcomes, rfl, rfl, (Except.ok.inj checked).symm⟩

theorem exists_runContractChecks_ok :
    (∃ outcome, runContractChecks rt (checkedResponse rt input) (mergedDod input) = .ok outcome) ↔
      ChecksRun rt input := by
  constructor
  · rintro ⟨outcome, checked⟩
    obtain ⟨reasons, outcomes, walked, visited, -⟩ := runContractChecks_ok checked
    constructor
    · intro check declared evaluated
      exact Search.exists_mapM_eq_ok.mp ⟨reasons, walked⟩ check
        (List.mem_filter.mpr ⟨declared, evaluated⟩)
    · exact Search.exists_mapM_eq_ok.mp ⟨outcomes, visited⟩
  · intro ran
    have deterministic : ∀ check ∈ (mergedDod input).deterministic.filter isEvaluated,
        ∃ reason, deterministicCheck rt (checkedResponse rt input) check = .ok reason := by
      intro check declared
      have ⟨listed, evaluated⟩ := List.mem_filter.mp declared
      exact ran.deterministic check listed evaluated
    obtain ⟨reasons, walked⟩ := Search.exists_mapM_eq_ok.mpr deterministic
    obtain ⟨outcomes, visited⟩ := Search.exists_mapM_eq_ok.mpr ran.heuristic
    rw [runContractChecks_eq, walked, visited]
    exact ⟨_, rfl⟩

/-! ## Floor -/

section Outcome

variable {input : ModelQualityGateInput} {outcome : CheckOutcome}
  (checked : runContractChecks rt (checkedResponse rt input) (mergedDod input) = .ok outcome)

include checked

theorem deterministicFailures_eq_nil :
    outcome.deterministicFailures = [] ↔
      (∀ check ∈ (mergedDod input).deterministic, isEvaluated check = true →
        ¬DeterministicFails rt (checkedResponse rt input) check) ∧
      ∀ check ∈ (mergedDod input).heuristic, heuristicSupported rt check = true := by
  rcases runContractChecks_ok checked with ⟨reasons, outcomes, walked, visited, rfl⟩
  rw [List.append_eq_nil_iff, reduceOption_eq_nil, reduceOption_eq_nil]
  refine and_congr ?_ ?_
  · constructor
    · rintro silent check declared evaluated ⟨reason, failed⟩
      have listed : check ∈ (mergedDod input).deterministic.filter isEvaluated :=
        List.mem_filter.mpr ⟨declared, evaluated⟩
      have collected := (Search.mem_of_mapM walked (some reason)).mpr ⟨check, listed, failed⟩
      cases silent (some reason) collected
    · intro silent reason collected
      rcases (Search.mem_of_mapM walked reason).mp collected with ⟨check, listed, failed⟩
      have ⟨declared, evaluated⟩ := List.mem_filter.mp listed
      match reason with
      | none => rfl
      | some reason => exact absurd ⟨reason, failed⟩ (silent check declared evaluated)
  · constructor
    · intro known check declared
      have ran := Search.exists_mapM_eq_ok.mp ⟨outcomes, visited⟩ check declared
      rcases ran with ⟨⟨failure, unsupported⟩, returned⟩
      have collected := (Search.mem_of_mapM visited (failure, unsupported)).mpr
        ⟨check, declared, returned⟩
      have absent := known unsupported (List.mem_map_of_mem (f := (·.2)) collected)
      exact (heuristicCheck_unsupported returned).mp absent
    · intro supported unsupported collected
      rcases List.mem_map.mp collected with ⟨⟨failure, found⟩, returned, rfl⟩
      rcases (Search.mem_of_mapM visited (failure, found)).mp returned with ⟨check, declared, ran⟩
      exact (heuristicCheck_unsupported ran).mpr (supported check declared)

theorem heuristicFailures_eq_nil : outcome.heuristicFailures = [] ↔ NoHeuristicFails rt input := by
  rcases runContractChecks_ok checked with ⟨reasons, outcomes, -, visited, rfl⟩
  rw [reduceOption_eq_nil]
  constructor
  · rintro silent check declared ⟨reason, unsupported, failed⟩
    have collected := (Search.mem_of_mapM visited (some reason, unsupported)).mpr
      ⟨check, declared, failed⟩
    cases silent (some reason) (List.mem_map_of_mem (f := (·.1)) collected)
  · intro silent failure collected
    rcases List.mem_map.mp collected with ⟨⟨found, unsupported⟩, returned, rfl⟩
    rcases (Search.mem_of_mapM visited (found, unsupported)).mp returned with
      ⟨check, declared, ran⟩
    match found with
    | none => rfl
    | some reason => exact absurd ⟨reason, unsupported, ran⟩ (silent check declared)

end Outcome

theorem withEmptyFloor_eq_nil :
    (withEmptyFloor authority content outcome).deterministicFailures = [] ↔
      outcome.deterministicFailures = [] ∧ (authority = true → PyText.strip content ≠ []) := by
  unfold withEmptyFloor
  split
  · rename_i added
    rw [Bool.and_eq_true, Bool.and_eq_true, List.isEmpty_iff] at added
    simp [added.1.1, added.1.2]
  · rename_i kept
    refine ⟨fun silent => ⟨silent, fun verifiable empty => kept ?_⟩, fun silent => silent.1⟩
    rw [verifiable, empty, silent]
    rfl

@[simp] theorem withEmptyFloor_heuristicFailures (authority : Bool) (content : List Char)
    (outcome : CheckOutcome) :
    (withEmptyFloor authority content outcome).heuristicFailures = outcome.heuristicFailures := by
  unfold withEmptyFloor
  split <;> rfl

@[simp] theorem withEmptyFloor_skippedDeterministic (authority : Bool) (content : List Char)
    (outcome : CheckOutcome) :
    (withEmptyFloor authority content outcome).skippedDeterministic =
      outcome.skippedDeterministic := by
  unfold withEmptyFloor
  split <;> rfl

/-! ## Authority -/

theorem isDeterministicAuthority_iff :
    isDeterministicAuthority rt check = true ↔
      isRejectOnlyDeterministicCheck rt check = false ∧ isEvaluated check = true := by
  rw [isDeterministicAuthority, Bool.and_eq_true, Bool.not_eq_true']
  rfl

theorem isVerifiableDeterministicAcceptance_iff :
    isVerifiableDeterministicAcceptance rt input.taskType (mergedDod input).deterministic = true ↔
      DeterministicAuthority rt input := by
  rw [isVerifiableDeterministicAcceptance, Bool.and_eq_true, List.contains_iff_mem,
    List.any_eq_true]
  simp only [isDeterministicAuthority_iff]
  rfl

theorem hasAdequacyAuthority_iff
    (supported : ∀ check ∈ (mergedDod input).heuristic, heuristicSupported rt check = true) :
    hasAdequacyAuthority rt (mergedDod input).deterministic (mergedDod input).heuristic = true ↔
      AdequacyAuthority rt input := by
  rw [hasAdequacyAuthority, Bool.or_eq_true, List.any_eq_true, List.any_eq_true]
  simp only [isDeterministicAuthority_iff, Bool.not_eq_true']
  refine or_congr_right (exists_congr fun check => and_congr_right fun declared => ?_)
  have evaluated := heuristicSupported_isEvaluated (supported check declared)
  exact ⟨fun adequate => ⟨adequate, evaluated⟩, And.left⟩

/-! ## Verdict -/

theorem verifiableVerdict_passed {graded fraction : UnitScore} :
    (verifiableVerdict graded fraction judgeAdequacyScore judgeVerdict).passed = true ↔
      judgeVerdict ≠ some .fail := by
  unfold verifiableVerdict
  split
  · rename_i vetoed
    simp [vetoed]
  · rename_i unvetoed
    simp [unvetoed]

theorem heuristicVerdict_passed {graded : UnitScore} {heuristicFailures : List String} :
    (heuristicVerdict rt dod graded heuristicFailures).passed = true ↔
      heuristicFailures = [] ∧ hasAdequacyAuthority rt dod.deterministic dod.heuristic = true := by
  unfold heuristicVerdict
  cases heuristicFailures with
  | cons reason rest => simp
  | nil => cases hasAdequacyAuthority rt dod.deterministic dod.heuristic <;> simp

theorem contractVerdict_passed :
    (contractVerdict rt authority dod outcome judgeAdequacyScore judgeVerdict).passed = true ↔
      outcome.deterministicFailures = [] ∧
        ((authority = true ∧ judgeVerdict ≠ some .fail) ∨
          (authority = false ∧ outcome.heuristicFailures = [] ∧
            hasAdequacyAuthority rt dod.deterministic dod.heuristic = true)) := by
  unfold contractVerdict
  cases silent : outcome.deterministicFailures with
  | cons reason rest => simp
  | nil =>
    cases authority with
    | true =>
      show (verifiableVerdict _ _ _ _).passed = true ↔ _
      rw [verifiableVerdict_passed]
      simp
    | false =>
      show (heuristicVerdict rt _ _ _).passed = true ↔ _
      rw [heuristicVerdict_passed]
      simp

section

variable (verdict : GateVerdict) (correlationId : UUID) (evidence : Option AcceptanceEvidence)

include verdict correlationId evidence

@[simp] theorem GateVerdict.result_passed :
    (verdict.result correlationId evidence).passed = verdict.passed := by
  cases evidence <;> rfl

@[simp] theorem GateVerdict.result_failCategory :
    (verdict.result correlationId evidence).failCategory = verdict.failCategory := by
  cases evidence <;> rfl

@[simp] theorem GateVerdict.result_qualityScore :
    (verdict.result correlationId evidence).qualityScore = .finite verdict.qualityScore.value := by
  cases evidence <;> rfl

end

/-- The verdict of `delta` on an input whose checks gave `outcome`. -/
def inputVerdict (rt : GateRuntime) (input : ModelQualityGateInput)
    (judgeAdequacyScore : Option UnitScore) (judgeVerdict : Option EnumDelegationJudgeVerdict)
    (outcome : CheckOutcome) : GateVerdict :=
  let dod := mergedDod input
  let authority := isVerifiableDeterministicAcceptance rt input.taskType dod.deterministic
  contractVerdict rt authority dod
    (withEmptyFloor authority (checkedResponse rt input) outcome) judgeAdequacyScore judgeVerdict

/-- `delta` on declared checks is its checks followed by its verdict. -/
theorem delta_declared {input : ModelQualityGateInput} {judgeAdequacyScore : Option UnitScore}
    {judgeVerdict : Option EnumDelegationJudgeVerdict}
    (declared : (mergedDod input).isEmpty = false) :
    ∃ evidence : CheckOutcome → Option AcceptanceEvidence,
      delta rt input judgeAdequacyScore judgeVerdict =
        (runContractChecks rt (checkedResponse rt input) (mergedDod input)).map fun outcome =>
          (inputVerdict rt input judgeAdequacyScore judgeVerdict outcome).result
            input.correlationId (evidence outcome) := by
  refine ⟨fun outcome => if isVerifiableDeterministicAcceptance rt input.taskType
      (mergedDod input).deterministic then some (contractEvidence rt input
        (checkedResponse rt input) (mergedDod input) (withEmptyFloor
          (isVerifiableDeterministicAcceptance rt input.taskType (mergedDod input).deterministic)
          (checkedResponse rt input) outcome) judgeAdequacyScore) else none, ?_⟩
  unfold delta
  dsimp only
  rw [if_neg (by rw [declared]; exact Bool.false_ne_true)]
  show (runContractChecks rt (checkedResponse rt input) (mergedDod input)).bind _ = _
  cases runContractChecks rt (checkedResponse rt input) (mergedDod input) <;> rfl

theorem delta_undeclared
    (undeclared : (mergedDod input).isEmpty = true) :
    delta rt input judgeAdequacyScore judgeVerdict = .ok (runLegacyChecks rt input) := by
  unfold delta
  dsimp only
  rw [if_pos undeclared]

theorem delta_ok (declared : (mergedDod input).isEmpty = false)
    (returned : delta rt input judgeAdequacyScore judgeVerdict = .ok result) :
    ∃ outcome, runContractChecks rt (checkedResponse rt input) (mergedDod input) = .ok outcome ∧
      result.passed = (inputVerdict rt input judgeAdequacyScore judgeVerdict outcome).passed := by
  rcases delta_declared declared with ⟨evidence, unfolded⟩
  rw [unfolded] at returned
  match checked : runContractChecks rt (checkedResponse rt input) (mergedDod input) with
  | .error raised =>
    rw [checked] at returned
    cases returned
  | .ok outcome =>
    rw [checked] at returned
    cases returned
    exact ⟨outcome, rfl, GateVerdict.result_passed ..⟩

theorem inputVerdict_passed
    (declared : (mergedDod input).isEmpty = false)
    (checked : runContractChecks rt (checkedResponse rt input) (mergedDod input) = .ok outcome) :
    (inputVerdict rt input judgeAdequacyScore judgeVerdict outcome).passed = true ↔
      Accepted rt input judgeVerdict := by
  rw [inputVerdict, contractVerdict_passed, withEmptyFloor_eq_nil,
    deterministicFailures_eq_nil checked, withEmptyFloor_heuristicFailures,
    heuristicFailures_eq_nil checked, ← Bool.not_eq_true,
    isVerifiableDeterministicAcceptance_iff]
  constructor
  · rintro ⟨⟨⟨evaluated, supported⟩, nonEmpty⟩, promoted⟩
    rw [hasAdequacyAuthority_iff supported] at promoted
    exact ⟨declared, ⟨evaluated, supported, nonEmpty⟩, promoted⟩
  · rintro ⟨-, ⟨evaluated, supported, nonEmpty⟩, promoted⟩
    rw [hasAdequacyAuthority_iff supported]
    exact ⟨⟨⟨evaluated, supported⟩, nonEmpty⟩, promoted⟩

theorem runLegacyChecks_passed (input : ModelQualityGateInput) :
    (runLegacyChecks rt input).passed = false := rfl

theorem runContractChecks_undeclared (content : List Char) :
    ∃ outcome, runContractChecks rt content ⟨[], []⟩ = .ok outcome :=
  ⟨_, rfl⟩

section

variable {input : ModelQualityGateInput}

/-- `delta` returns exactly if no declared check raises. -/
theorem delta_returns_iff {judgeAdequacyScore : Option UnitScore}
    {judgeVerdict : Option EnumDelegationJudgeVerdict} :
    (∃ result, delta rt input judgeAdequacyScore judgeVerdict = .ok result) ↔
      ChecksRun rt input := by
  rw [← exists_runContractChecks_ok]
  cases declared : (mergedDod input).isEmpty with
  | true =>
    have none_declared : mergedDod input = ⟨[], []⟩ := by
      rw [DefinitionOfDone.isEmpty, Bool.and_eq_true, List.isEmpty_iff,
        List.isEmpty_iff] at declared
      exact DefinitionOfDone.ext declared.1 declared.2
    rw [delta_undeclared declared, none_declared]
    constructor
    · intro returned
      exact runContractChecks_undeclared _
    · intro ran
      exact ⟨runLegacyChecks rt input, rfl⟩
  | false =>
    rcases @delta_declared rt input judgeAdequacyScore judgeVerdict declared with
      ⟨evidence, unfolded⟩
    rw [unfolded]
    cases runContractChecks rt (checkedResponse rt input) (mergedDod input) with
    | error raised =>
      constructor
      · rintro ⟨result, returned⟩
        cases returned
      · rintro ⟨outcome, returned⟩
        cases returned
    | ok outcome => exact ⟨fun _ => ⟨outcome, rfl⟩, fun _ => ⟨_, rfl⟩⟩

theorem delta_passed_iff (returned : delta rt input judgeAdequacyScore judgeVerdict = .ok result) :
    result.passed = true ↔ Accepted rt input judgeVerdict := by
  cases declared : (mergedDod input).isEmpty with
  | true =>
    -- Without checks the legacy path diagnoses and never accepts.
    rw [delta_undeclared declared] at returned
    cases returned
    rw [runLegacyChecks_passed]
    refine ⟨nofun, fun accepted => ?_⟩
    rw [accepted.declared] at declared
    cases declared
  | false =>
    rcases delta_ok declared returned with ⟨outcome, checked, passed⟩
    rw [passed]
    exact inputVerdict_passed declared checked

theorem delta_passed_congr (judgeAdequacyScore judgeAdequacyScore' : Option UnitScore)
    (judgeVerdict : Option EnumDelegationJudgeVerdict) :
    (delta rt input judgeAdequacyScore judgeVerdict).map (·.passed) =
      (delta rt input judgeAdequacyScore' judgeVerdict).map (·.passed) := by
  cases declared : (mergedDod input).isEmpty with
  | true => rw [delta_undeclared declared, delta_undeclared declared]
  | false =>
    rcases @delta_declared rt input judgeAdequacyScore judgeVerdict declared with
      ⟨evidence, unfolded⟩
    rcases @delta_declared rt input judgeAdequacyScore' judgeVerdict declared with
      ⟨evidence', unfolded'⟩
    rw [unfolded, unfolded']
    match checked : runContractChecks rt (checkedResponse rt input) (mergedDod input) with
    | .error raised => rfl
    | .ok outcome =>
      refine congrArg Except.ok ?_
      dsimp only
      rw [GateVerdict.result_passed, GateVerdict.result_passed, Bool.eq_iff_iff,
        inputVerdict_passed declared checked, inputVerdict_passed declared checked]

theorem adequate_of_authority
    (authority : DeterministicAuthority rt input) : AdequacyAuthority rt input :=
  .inl authority.2

theorem Accepted.adequate (accepted : Accepted rt input judgeVerdict) : AdequacyAuthority rt input := by
  rcases accepted.promoted with ⟨authority, -⟩ | ⟨-, -, adequate⟩
  · exact adequate_of_authority authority
  · exact adequate

end

/-! ## Unevaluated checks -/

/-- Two definitions of done that agree on everything but the unevaluated checks. -/
structure SameEvaluated (dod dod' : DefinitionOfDone) : Prop where
  deterministic : dod.deterministic.filter isEvaluated = dod'.deterministic.filter isEvaluated
  heuristic : dod.heuristic = dod'.heuristic

theorem any_isDeterministicAuthority (checks : List String) :
    checks.any (isDeterministicAuthority rt) =
      (checks.filter isEvaluated).any (isDeterministicAuthority rt) := by
  rw [List.any_filter]
  refine congrArg checks.any (funext fun check => ?_)
  show _ = (isEvaluated check && (_ && isEvaluated check))
  rw [Bool.and_comm, isDeterministicAuthority]
  show (_ && isEvaluated check) = _
  cases isEvaluated check <;> simp

def decidedFields (result : ModelQualityGateResult) : Bool × QualityGateCategory × PyFloat :=
  (result.passed, result.failCategory, result.qualityScore)

theorem evaluatedDeterministicTotal_eq
    (noted : outcome.skippedDeterministic = checks.filter (!isEvaluated ·)) :
    evaluatedDeterministicTotal checks outcome =
      max (checks.filter isEvaluated).length outcome.deterministicFailures.length := by
  have parts := List.length_eq_length_filter_add (l := checks) isEvaluated
  rw [evaluatedDeterministicTotal, noted]
  omega

theorem runContractChecks_sameEvaluated {dod' : DefinitionOfDone} (same : SameEvaluated dod dod')
    (content : List Char) :
    runContractChecks rt content dod' =
      (runContractChecks rt content dod).map fun outcome =>
        { outcome with skippedDeterministic := dod'.deterministic.filter (!isEvaluated ·) } := by
  rw [runContractChecks_eq, runContractChecks_eq, same.deterministic, same.heuristic]
  cases (dod'.deterministic.filter isEvaluated).mapM (deterministicCheck rt content) with
  | error raised => rfl
  | ok reasons => cases dod'.heuristic.mapM (heuristicCheck rt content) <;> rfl

theorem contractVerdict_sameEvaluated {dod' : DefinitionOfDone} (same : SameEvaluated dod dod')
    {outcome outcome' : CheckOutcome}
    (deterministic : outcome.deterministicFailures = outcome'.deterministicFailures)
    (heuristic : outcome.heuristicFailures = outcome'.heuristicFailures)
    (noted : outcome.skippedDeterministic = dod.deterministic.filter (!isEvaluated ·))
    (noted' : outcome'.skippedDeterministic = dod'.deterministic.filter (!isEvaluated ·)) :
    contractVerdict rt authority dod outcome judgeAdequacyScore judgeVerdict =
      contractVerdict rt authority dod' outcome' judgeAdequacyScore judgeVerdict := by
  have total : evaluatedDeterministicTotal dod.deterministic outcome =
      evaluatedDeterministicTotal dod'.deterministic outcome' := by
    rw [evaluatedDeterministicTotal_eq noted, evaluatedDeterministicTotal_eq noted',
      same.deterministic, deterministic]
  have graded : gradedScoreOf dod outcome = gradedScoreOf dod' outcome' := by
    rw [gradedScoreOf, gradedScoreOf, total, deterministic, heuristic, same.heuristic]
  have fraction : deterministicFraction dod outcome = deterministicFraction dod' outcome' := by
    rw [deterministicFraction, deterministicFraction, total, deterministic]
  have adequate : hasAdequacyAuthority rt dod.deterministic dod.heuristic =
      hasAdequacyAuthority rt dod'.deterministic dod'.heuristic := by
    rw [hasAdequacyAuthority, hasAdequacyAuthority, any_isDeterministicAuthority,
      any_isDeterministicAuthority dod'.deterministic, same.deterministic, same.heuristic]
  unfold contractVerdict heuristicVerdict
  rw [deterministic, heuristic, graded, fraction, adequate]

theorem inputVerdict_sameEvaluated
    (same : SameEvaluated (mergedDod input) (mergedDod input'))
    (content : input'.llmResponseContent = input.llmResponseContent)
    (taskType : input'.taskType = input.taskType)
    (noted : outcome.skippedDeterministic = (mergedDod input).deterministic.filter (!isEvaluated ·))
    :
    inputVerdict rt input' judgeAdequacyScore judgeVerdict
        { outcome with
          skippedDeterministic := (mergedDod input').deterministic.filter (!isEvaluated ·) } =
      inputVerdict rt input judgeAdequacyScore judgeVerdict outcome := by
  have authority :
      isVerifiableDeterministicAcceptance rt input'.taskType (mergedDod input').deterministic =
        isVerifiableDeterministicAcceptance rt input.taskType (mergedDod input).deterministic := by
    rw [isVerifiableDeterministicAcceptance, isVerifiableDeterministicAcceptance, taskType,
      any_isDeterministicAuthority, ← same.deterministic, ← any_isDeterministicAuthority]
  unfold inputVerdict checkedResponse
  dsimp only
  rw [authority, content]
  refine (contractVerdict_sameEvaluated same ?_ ?_ ?_ ?_).symm
  · unfold withEmptyFloor
    split <;> rfl
  · rw [withEmptyFloor_heuristicFailures, withEmptyFloor_heuristicFailures]
  · rw [withEmptyFloor_skippedDeterministic, noted]
  · rw [withEmptyFloor_skippedDeterministic]

theorem delta_sameEvaluated (judgeAdequacyScore : Option UnitScore)
    (judgeVerdict : Option EnumDelegationJudgeVerdict)
    (declared : (mergedDod input).isEmpty = false) (declared' : (mergedDod input').isEmpty = false)
    (same : SameEvaluated (mergedDod input) (mergedDod input'))
    (content : input'.llmResponseContent = input.llmResponseContent)
    (taskType : input'.taskType = input.taskType) :
    (delta rt input' judgeAdequacyScore judgeVerdict).map decidedFields =
      (delta rt input judgeAdequacyScore judgeVerdict).map decidedFields := by
  rcases @delta_declared rt input judgeAdequacyScore judgeVerdict declared with
    ⟨evidence, unfolded⟩
  rcases @delta_declared rt input' judgeAdequacyScore judgeVerdict declared' with
    ⟨evidence', unfolded'⟩
  have response : checkedResponse rt input' = checkedResponse rt input := by
    rw [checkedResponse, checkedResponse, content]
  rw [unfolded, unfolded', response, runContractChecks_sameEvaluated same]
  match checked : runContractChecks rt (checkedResponse rt input) (mergedDod input) with
  | .error raised => rfl
  | .ok outcome =>
    rcases runContractChecks_ok checked with ⟨reasons, outcomes, -, -, found⟩
    have noted : outcome.skippedDeterministic =
        (mergedDod input).deterministic.filter (!isEvaluated ·) := by rw [found]
    show Except.ok (decidedFields _) = Except.ok (decidedFields _)
    dsimp only
    rw [inputVerdict_sameEvaluated same content taskType noted, decidedFields, decidedFields]
    simp

theorem isEmpty_append_deterministic (declared : dod.isEmpty = false) :
    DefinitionOfDone.isEmpty ⟨dod.deterministic ++ checks, dod.heuristic⟩ = false := by
  rw [DefinitionOfDone.isEmpty, Bool.and_eq_false_iff] at declared ⊢
  rcases declared with listed | listed
  · left
    rw [List.isEmpty_eq_false_iff] at listed ⊢
    exact List.append_ne_nil_of_left_ne_nil listed checks
  · exact .inr listed

theorem delta_append_acceptanceCriteria
    (judgeAdequacyScore : Option UnitScore) (judgeVerdict : Option EnumDelegationJudgeVerdict)
    (declared : (mergedDod input).isEmpty = false) (unevaluated : checks.filter isEvaluated = []) :
    (delta rt { input with acceptanceCriteria := input.acceptanceCriteria ++ checks }
        judgeAdequacyScore judgeVerdict).map decidedFields =
      (delta rt input judgeAdequacyScore judgeVerdict).map decidedFields := by
  have merged : mergedDod { input with acceptanceCriteria := input.acceptanceCriteria ++ checks } =
      ⟨(mergedDod input).deterministic ++ checks, (mergedDod input).heuristic⟩ := by
    unfold mergedDod
    cases input.qualityContractMode
    · simp
    · simp
  refine delta_sameEvaluated judgeAdequacyScore judgeVerdict declared ?_ ?_ rfl rfl
  · rw [merged]
    exact isEmpty_append_deterministic declared
  · rw [merged]
    exact ⟨by rw [List.filter_append, unevaluated, List.append_nil], rfl⟩

theorem replace_or_extend (mode : QualityContractMode) :
    mode = .replaceTaskClass ∨ mode = .extendTaskClass := by
  cases mode with
  | replaceTaskClass => exact .inl rfl
  | extendTaskClass => exact .inr rfl

theorem delta_append_dodDeterministic
    (judgeAdequacyScore : Option UnitScore) (judgeVerdict : Option EnumDelegationJudgeVerdict)
    (declared : (mergedDod input).isEmpty = false) (unevaluated : checks.filter isEvaluated = []) :
    (delta rt { input with dodDeterministic := input.dodDeterministic ++ checks }
        judgeAdequacyScore judgeVerdict).map decidedFields =
      (delta rt input judgeAdequacyScore judgeVerdict).map decidedFields := by
  rcases replace_or_extend input.qualityContractMode with mode | mode
  · -- The checks of the task class are not merged at all.
    have merged : mergedDod { input with dodDeterministic := input.dodDeterministic ++ checks } =
        mergedDod input := by
      rw [mergedDod, mergedDod, mode]
    refine delta_sameEvaluated judgeAdequacyScore judgeVerdict declared ?_ ?_ rfl rfl
    · rw [merged, declared]
    · rw [merged]
      exact ⟨rfl, rfl⟩
  · have before : mergedDod input =
        ⟨input.dodDeterministic ++ input.acceptanceCriteria, input.dodHeuristic⟩ := by
      rw [mergedDod, mode]
    have merged : mergedDod { input with dodDeterministic := input.dodDeterministic ++ checks } =
        ⟨input.dodDeterministic ++ checks ++ input.acceptanceCriteria, input.dodHeuristic⟩ := by
      rw [mergedDod, mode]
    refine delta_sameEvaluated judgeAdequacyScore judgeVerdict declared ?_ ?_ rfl rfl
    · rw [merged]
      rw [before] at declared
      simp only [DefinitionOfDone.isEmpty, Bool.and_eq_false_iff, List.isEmpty_eq_false_iff, ne_eq,
        List.append_eq_nil_iff] at declared ⊢
      tauto
    · rw [merged, before]
      refine ⟨?_, rfl⟩
      simp only [List.filter_append, unevaluated, List.append_nil]

theorem passes_existing_tests_unevaluated : ["passes_existing_tests"].filter isEvaluated = [] := rfl

/-- `delta` accepts exactly by `Accepted`, for every mix of checks, bands, modes and judge
outcomes. Reject-only and unevaluated checks alone do not promote, the judge score decides
nothing, and an unevaluated check after a declared one changes no decided field. -/
theorem gate_acceptance (rt : GateRuntime) (input : ModelQualityGateInput)
    (judgeAdequacyScore : Option UnitScore) (judgeVerdict : Option EnumDelegationJudgeVerdict) :
    ((∃ result, delta rt input judgeAdequacyScore judgeVerdict = .ok result ∧
        result.passed = true) ↔ ChecksRun rt input ∧ Accepted rt input judgeVerdict) ∧
    ((∃ result, delta rt input judgeAdequacyScore judgeVerdict = .ok result) ↔ ChecksRun rt input) ∧
    (∀ result, delta rt input judgeAdequacyScore judgeVerdict = .ok result →
      (result.passed = true ↔ Accepted rt input judgeVerdict) ∧
      ((∀ check ∈ (mergedDod input).deterministic,
          isRejectOnlyDeterministicCheck rt check = true ∨
            check ∈ UNEVALUATED_DETERMINISTIC_CHECKS) →
        (∀ check ∈ (mergedDod input).heuristic, isRejectOnlyHeuristicCheck rt check = true ∨
          check ∈ UNEVALUATED_DETERMINISTIC_CHECKS) → result.passed = false)) ∧
    (∀ judgeAdequacyScore', (delta rt input judgeAdequacyScore' judgeVerdict).map (·.passed) =
      (delta rt input judgeAdequacyScore judgeVerdict).map (·.passed)) ∧
    ((mergedDod input).isEmpty = false →
      (delta rt { input with
            acceptanceCriteria := input.acceptanceCriteria ++ ["passes_existing_tests"] }
          judgeAdequacyScore judgeVerdict).map decidedFields =
        (delta rt input judgeAdequacyScore judgeVerdict).map decidedFields ∧
      (delta rt { input with
            dodDeterministic := input.dodDeterministic ++ ["passes_existing_tests"] }
          judgeAdequacyScore judgeVerdict).map decidedFields =
        (delta rt input judgeAdequacyScore judgeVerdict).map decidedFields) := by
  refine ⟨?_, delta_returns_iff, ?_, ?_, ?_⟩
  · constructor
    · rintro ⟨result, returned, passed⟩
      exact ⟨delta_returns_iff.mp ⟨result, returned⟩, (delta_passed_iff returned).mp passed⟩
    · rintro ⟨ran, accepted⟩
      rcases (@delta_returns_iff rt input judgeAdequacyScore judgeVerdict).mpr ran with
        ⟨result, returned⟩
      exact ⟨result, returned, (delta_passed_iff returned).mpr accepted⟩
  · intro result returned
    refine ⟨delta_passed_iff returned, fun deterministic heuristic => ?_⟩
    -- acceptance rests on a check that promotes and was run; none of these is such a check
    rw [Bool.eq_false_iff]
    intro passed
    have evaluated : ∀ {check}, isEvaluated check = true →
        check ∉ UNEVALUATED_DETERMINISTIC_CHECKS := by
      intro check evaluated
      simpa [isEvaluated] using evaluated
    rcases ((delta_passed_iff returned).mp passed).adequate with
      ⟨check, declared, promotes, run⟩ | ⟨check, declared, promotes, run⟩
    · rcases deterministic check declared with rejects | skipped
      · rw [promotes] at rejects
        cases rejects
      · exact evaluated run skipped
    · rcases heuristic check declared with rejects | skipped
      · rw [promotes] at rejects
        cases rejects
      · exact evaluated run skipped
  · intro judgeAdequacyScore'
    exact delta_passed_congr judgeAdequacyScore' judgeAdequacyScore judgeVerdict
  · intro declared
    exact ⟨delta_append_acceptanceCriteria judgeAdequacyScore judgeVerdict declared
        passes_existing_tests_unevaluated,
      delta_append_dodDeterministic judgeAdequacyScore judgeVerdict declared
        passes_existing_tests_unevaluated⟩

/-! ## Refusals -/

/-- The merged definition of done declares `no_refusal` in either band. -/
def DeclaresNoRefusal (input : ModelQualityGateInput) : Prop :=
  "no_refusal" ∈ (mergedDod input).deterministic ∨ "no_refusal" ∈ (mergedDod input).heuristic

theorem deterministicFails_no_refusal (refused : checkNoRefusal rt content ≠ none) :
    DeterministicFails rt content "no_refusal" := by
  rcases Option.ne_none_iff_exists'.mp refused with ⟨reason, found⟩
  refine ⟨reason, ?_⟩
  show Except.ok (checkNoRefusal rt content) = _
  rw [found]

theorem heuristicFails_no_refusal (refused : checkNoRefusal rt content ≠ none) :
    HeuristicFails rt content "no_refusal" := by
  rcases Option.ne_none_iff_exists'.mp refused with ⟨reason, found⟩
  have applied : applyHeuristicCheck rt "no_refusal" content = some reason := found
  refine ⟨reason, none, ?_⟩
  rw [heuristicCheck, applied]

/-- A refusal under a declared `no_refusal` is accepted by the verifiable path alone, and
only where the deterministic band does not name the check. -/
theorem accepted_refusal_iff (declared : DeclaresNoRefusal input)
    (refused : checkNoRefusal rt (checkedResponse rt input) ≠ none) :
    Accepted rt input judgeVerdict ↔
      "no_refusal" ∉ (mergedDod input).deterministic ∧ DeterministicAuthority rt input ∧
        FloorPasses rt input ∧ judgeVerdict ≠ some .fail := by
  constructor
  · intro accepted
    have unlisted : "no_refusal" ∉ (mergedDod input).deterministic := by
      intro listed
      exact accepted.floor.declared "no_refusal" listed rfl (deterministicFails_no_refusal refused)
    rcases accepted.promoted with ⟨authority, unvetoed⟩ | ⟨-, silent, -⟩
    · exact ⟨unlisted, authority, accepted.floor, unvetoed⟩
    · have listed := declared.resolve_left unlisted
      exact absurd (heuristicFails_no_refusal refused) (silent "no_refusal" listed)
  · rintro ⟨-, authority, floor, unvetoed⟩
    refine ⟨?_, floor, .inl ⟨authority, unvetoed⟩⟩
    rcases authority.2 with ⟨check, listed, -⟩
    rw [DefinitionOfDone.isEmpty, Bool.and_eq_false_iff]
    exact .inl (List.isEmpty_eq_false_iff.mpr (List.ne_nil_of_mem listed))

/-- A refusal under a declared `no_refusal` is rejected exactly if the check stands in the
deterministic band, or the verifiable path is closed, or its floor fails, or the judge
vetoes. -/
theorem refusal_rejected_iff (rt : GateRuntime) (input : ModelQualityGateInput)
    (judgeAdequacyScore : Option UnitScore) (judgeVerdict : Option EnumDelegationJudgeVerdict)
    (result : ModelQualityGateResult) (declared : DeclaresNoRefusal input)
    (refused : checkNoRefusal rt (checkedResponse rt input) ≠ none)
    (returned : delta rt input judgeAdequacyScore judgeVerdict = .ok result) :
    result.passed = false ↔
      "no_refusal" ∈ (mergedDod input).deterministic ∨ ¬DeterministicAuthority rt input ∨
        ¬FloorPasses rt input ∨ judgeVerdict = some .fail := by
  rw [← Bool.not_eq_true, delta_passed_iff returned, accepted_refusal_iff declared refused,
    not_and_or, not_not, not_and_or, not_and_or, not_ne_iff]

/-! ### A refusal that is accepted -/

def identifierRuntime : GateRuntime where
  unicode := PyText.asciiTable
  astParse source :=
    if source.toList.all Char.isAlphanum then .ok () else .error (.invalid "invalid syntax")
  yamlSafeLoad _ := .error (.invalid "could not parse")
  jsonLoads _ := .error (.invalid "Expecting value: line 1 column 1 (char 0)")
  dumpsStable fields := ",".intercalate (fields.map (·.1))
  sha256Hex text := text
  schemaErrors _ _ := .ok []

/-- The declared checks of `code_generation`, on the response `No`. -/
def bareNegation : ModelQualityGateInput where
  correlationId := 1
  taskType := "code_generation"
  llmResponseContent := "No"
  dodDeterministic := ["compiles_without_errors", "final_artifact_only", "passes_existing_tests"]
  dodHeuristic := ["no_refusal", "follows_codebase_conventions", "no_obvious_regressions"]

/-- The same response without a verifiable task. -/
theorem bareNegation_research_rejected :
    ∃ result, delta identifierRuntime { bareNegation with taskType := "research" } = .ok result ∧
      result.passed = false := by
  refine ⟨_, rfl, (refusal_rejected_iff identifierRuntime
    { bareNegation with taskType := "research" } none none _ (.inr (by decide))
    (by decide +kernel) rfl).mpr (.inr (.inl ?_))⟩
  rintro ⟨verifiable, -⟩
  exact absurd verifiable (by decide)

/-- `No` parses as Python, and the heuristic `no_refusal` is not consulted. -/
theorem bareNegation_accepted :
    ∃ result, delta identifierRuntime bareNegation = .ok result ∧ result.passed = true ∧
      DeclaresNoRefusal bareNegation ∧
      checkNoRefusal identifierRuntime (checkedResponse identifierRuntime bareNegation) ≠ none := by
  refine ⟨_, rfl, by decide +kernel, .inr (by decide), by decide +kernel⟩

end OmniMarket.QualityGate
