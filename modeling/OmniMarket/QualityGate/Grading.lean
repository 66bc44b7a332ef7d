import OmniMarket.QualityGate.Acceptance
import OmniMarket.Lib.Raising

/-!
# The graded score under one more check

What one more declared check does to the graded score. A band without evaluated checks is
not weighed, and the floor of the verifiable path counts an empty response once.
-/

namespace OmniMarket.QualityGate

/-! ## Shares of the bands -/

/-- A band as the score weighs it: the fraction that did not fail, or nothing when nothing in it
was evaluated. -/
def band (total failures : ℕ) : Option UnitScore :=
  if 0 < total then some (passedFraction total failures) else none

/-- The score before it is rounded to three decimals. -/
def weightedShare : Option UnitScore → Option UnitScore → UnitScore
  | none, none => .zero
  | some deterministic, none => .weighed DETERMINISTIC_BAND_WEIGHT deterministic
  | none, some heuristic => .weighed HEURISTIC_BAND_WEIGHT heuristic
  | some deterministic, some heuristic =>
    .mix DETERMINISTIC_BAND_WEIGHT HEURISTIC_BAND_WEIGHT deterministic heuristic

/-- The band lost: what it holds now is no more than before, and nothing if it was not
weighed. -/
def Worse : Option UnitScore → Option UnitScore → Prop
  | none, after => after = some .zero
  | some before, after => ∃ share, after = some share ∧ share.value ≤ before.value

/-- The band gained: what it holds now is no less than before, and all if it was not
weighed. -/
def Better : Option UnitScore → Option UnitScore → Prop
  | none, after => after = some .one
  | some before, after => ∃ share, after = some share ∧ before.value ≤ share.value

section Means

variable {weight weight' : Weight} {score score' other other' : UnitScore}

theorem Weight.share_mono (le : score.value ≤ other.value) :
    weight.share score ≤ weight.share other :=
  Double.mul_mono_right weight.positive.le score.nonneg le

theorem weighed_mono (le : score.value ≤ other.value) :
    (UnitScore.weighed weight score).value ≤ (UnitScore.weighed weight other).value :=
  Double.div_mono_left Weight.share_nonneg weight.positive.le (Weight.share_mono le)

theorem mix_mono (le : score.value ≤ other.value) (le' : score'.value ≤ other'.value) :
    (UnitScore.mix weight weight' score score').value ≤
      (UnitScore.mix weight weight' other other').value :=
  Double.div_mono_left (Double.nonneg_add Weight.share_nonneg Weight.share_nonneg)
    (Double.nonneg_add weight.positive.le weight'.positive.le)
    (Double.add_mono (add_nonneg Weight.share_nonneg Weight.share_nonneg) (Weight.share_mono le)
      (Weight.share_mono le'))

theorem mix_comm :
    UnitScore.mix weight weight' score score' = UnitScore.mix weight' weight score' score := by
  ext
  simp only [UnitScore.mix, Double.add, add_comm]

theorem mix_value (whole : weight.value + weight'.value = 1) :
    (UnitScore.mix weight weight' score score').value =
      Double.nearest (weight.share score + weight'.share score') := by
  show Double.div (Double.nearest _) (Double.nearest (weight.value + weight'.value)) = _
  rw [whole, Double.nearest_one]
  exact Double.div_one_right
    (Double.nearest_nearest (add_nonneg Weight.share_nonneg Weight.share_nonneg))

theorem Weight.share_zero : weight.share .zero = 0 := by
  show Double.nearest (weight.value * 0) = 0
  rw [mul_zero, Double.nearest_zero]

theorem Weight.share_one : weight.share .one = weight.value := Double.mul_one_right weight.double

theorem weighed_zero : (UnitScore.weighed weight .zero).value = 0 := by
  show Double.nearest (weight.share .zero / weight.value) = 0
  rw [Weight.share_zero, zero_div, Double.nearest_zero]

theorem weighed_one : (UnitScore.weighed weight .one).value = 1 := by
  show Double.div (weight.share .one) weight.value = 1
  rw [Weight.share_one, Double.div_self_eq weight.positive]

section

variable (whole : weight.value + weight'.value = 1)

include whole

theorem mix_one : (UnitScore.mix weight weight' .one .one).value = 1 := by
  rw [mix_value whole, Weight.share_one, Weight.share_one, whole, Double.nearest_one]

/-- An empty band that fails its first check lowers the mean. -/
theorem mix_zero_le :
    (UnitScore.mix weight weight' score .zero).value ≤ (UnitScore.weighed weight score).value := by
  have light : weight.value ≤ 1 := by linarith [weight'.positive]
  rw [mix_value whole, Weight.share_zero, add_zero]
  refine Double.nearest_mono Weight.share_nonneg ?_
  exact le_div_self Weight.share_nonneg weight.positive light

/-- An empty band that passes its first check raises the mean. -/
theorem le_mix_one :
    (UnitScore.weighed weight score).value ≤ (UnitScore.mix weight weight' score .one).value := by
  have bounded := @Weight.share_le weight score
  have spare := weight'.positive
  rw [mix_value whole, Weight.share_one]
  refine Double.nearest_mono (div_nonneg Weight.share_nonneg weight.positive.le) ?_
  rw [div_le_iff₀ weight.positive]
  nlinarith

end

end Means

theorem bandWeights_whole : DETERMINISTIC_BAND_WEIGHT.value + HEURISTIC_BAND_WEIGHT.value = 1 := by
  decide +kernel

theorem bandWeights_whole' : HEURISTIC_BAND_WEIGHT.value + DETERMINISTIC_BAND_WEIGHT.value = 1 := by
  rw [add_comm, bandWeights_whole]

section Shares

variable {total failures total' failures' evaluated : ℕ} {before after other : Option UnitScore}

theorem gradedQualityScore_eq {heuristicTotal heuristicFailures : ℕ} :
    gradedQualityScore total failures heuristicTotal heuristicFailures =
      (weightedShare (band total failures) (band heuristicTotal heuristicFailures)).rounded := by
  unfold gradedQualityScore band
  by_cases deterministic : 0 < total <;> by_cases heuristic : 0 < heuristicTotal
  · simp [deterministic, heuristic, weightedShare]
  · simp [deterministic, heuristic, weightedShare]
  · simp [deterministic, heuristic, weightedShare]
  · simp [deterministic, heuristic, weightedShare, UnitScore.rounded, UnitScore.zero,
      PyNumber.round, PyNumber.roundHalfEven]

theorem weightedShare_worse (worse : Worse before after) :
    (weightedShare after other).value ≤ (weightedShare before other).value ∧
      (weightedShare other after).value ≤ (weightedShare other before).value := by
  cases before with
  | none =>
    rw [show after = some .zero from worse]
    cases other with
    | none => exact ⟨weighed_zero.le, weighed_zero.le⟩
    | some held =>
      refine ⟨?_, mix_zero_le bandWeights_whole⟩
      show (UnitScore.mix DETERMINISTIC_BAND_WEIGHT HEURISTIC_BAND_WEIGHT .zero held).value ≤ _
      rw [mix_comm]
      exact mix_zero_le bandWeights_whole'
  | some held =>
    obtain ⟨left, rfl, less⟩ := worse
    cases other with
    | none => exact ⟨weighed_mono less, weighed_mono less⟩
    | some other => exact ⟨mix_mono less le_rfl, mix_mono le_rfl less⟩

theorem weightedShare_better (better : Better before after) :
    (weightedShare before other).value ≤ (weightedShare after other).value ∧
      (weightedShare other before).value ≤ (weightedShare other after).value := by
  cases before with
  | none =>
    rw [show after = some .one from better]
    cases other with
    | none => exact ⟨weighed_one.symm ▸ zero_le_one, weighed_one.symm ▸ zero_le_one⟩
    | some held =>
      refine ⟨?_, le_mix_one bandWeights_whole⟩
      show _ ≤ (UnitScore.mix DETERMINISTIC_BAND_WEIGHT HEURISTIC_BAND_WEIGHT .one held).value
      rw [mix_comm]
      exact le_mix_one bandWeights_whole'
  | some held =>
    obtain ⟨left, rfl, more⟩ := better
    cases other with
    | none => exact ⟨weighed_mono more, weighed_mono more⟩
    | some other => exact ⟨mix_mono more le_rfl, mix_mono le_rfl more⟩

/-! ## One more check in a band -/

section

variable (some_total : 0 < total)

include some_total

theorem passedFraction_value :
    (passedFraction total failures).value =
      Double.nearest (((total - failures : ℕ) : ℚ) / total) := by
  show (if total = 0 then 1 else Double.div _ _) = _
  rw [if_neg some_total.ne']
  rfl

theorem passedFraction_mono (some_total' : 0 < total')
    (le : (total - failures) * total' ≤ (total' - failures') * total) :
    (passedFraction total failures).value ≤ (passedFraction total' failures').value := by
  rw [passedFraction_value some_total, passedFraction_value some_total']
  refine Double.nearest_mono (div_nonneg (Nat.cast_nonneg _) (Nat.cast_nonneg _)) ?_
  rw [div_le_div_iff₀ (by exact_mod_cast some_total) (by exact_mod_cast some_total')]
  exact_mod_cast le

theorem passedFraction_clean : passedFraction total 0 = .one := by
  ext
  rw [passedFraction_value some_total, Nat.sub_zero,
    div_self (by exact_mod_cast some_total.ne' : (total : ℚ) ≠ 0), Double.nearest_one]
  rfl

theorem passedFraction_all : passedFraction total total = .zero := by
  ext
  rw [passedFraction_value some_total, Nat.sub_self, Nat.cast_zero, zero_div, Double.nearest_zero]
  rfl

theorem band_pos : band total failures = some (passedFraction total failures) :=
  if_pos some_total

end

theorem band_worse (more : failures + 1 ≤ failures') :
    Worse (band (max evaluated failures) failures)
      (band (max (evaluated + 1) failures') failures') := by
  rcases le_or_gt (evaluated + 1) failures' with many | few
  · have some_failed : 0 < failures' := by omega
    rw [max_eq_right many, band_pos some_failed, passedFraction_all some_failed]
    cases held : band (max evaluated failures) failures with
    | none => rfl
    | some share => exact ⟨.zero, rfl, share.nonneg⟩
  · have some_evaluated : 0 < evaluated := by omega
    rw [max_eq_left few.le, max_eq_left (by omega : failures ≤ evaluated),
      band_pos some_evaluated, band_pos (Nat.succ_pos _)]
    refine ⟨_, rfl, passedFraction_mono (Nat.succ_pos _) some_evaluated ?_⟩
    exact Nat.mul_le_mul (by omega) (Nat.le_succ _)

theorem band_better (fewer : failures' ≤ failures) : Better (band (max evaluated failures) failures)
      (band (max (evaluated + 1) failures') failures') := by
  rw [band_pos (lt_max_of_lt_left (Nat.succ_pos _))]
  rcases le_or_gt evaluated failures with many | few
  · rw [max_eq_right many]
    rcases Nat.eq_zero_or_pos failures with rfl | some_failed
    · have nothing : evaluated = 0 := by omega
      have quiet : failures' = 0 := by omega
      subst nothing quiet
      exact congrArg some (passedFraction_clean Nat.one_pos)
    · rw [band_pos some_failed, passedFraction_all some_failed]
      exact ⟨_, rfl, UnitScore.nonneg _⟩
  · have some_evaluated : 0 < evaluated := by omega
    rw [max_eq_left few.le, band_pos some_evaluated,
      max_eq_left (by omega : failures' ≤ evaluated + 1)]
    refine ⟨_, rfl, passedFraction_mono some_evaluated (Nat.succ_pos _) ?_⟩
    calc (evaluated - failures) * (evaluated + 1)
        = (evaluated - failures) * evaluated + (evaluated - failures) := Nat.mul_succ _ _
      _ ≤ (evaluated - failures) * evaluated + evaluated := Nat.add_le_add_left (Nat.sub_le ..) _
      _ = (evaluated - failures + 1) * evaluated := (Nat.succ_mul _ _).symm
      _ ≤ (evaluated + 1 - failures') * evaluated := Nat.mul_le_mul_right _ (by omega)

end Shares

/-! ## One more declared check -/

/-- The two bands of a definition of done. -/
inductive DodBand where
  | deterministic
  | heuristic

/-- The names with one more at some place. -/
def InsertedIn (check : String) (checks checks' : List String) : Prop :=
  ∃ front back, checks = front ++ back ∧ checks' = front ++ check :: back

def Appended (check : String) (dod dod' : DefinitionOfDone) : DodBand → Prop
  | .deterministic =>
    InsertedIn check dod.deterministic dod'.deterministic ∧ dod'.heuristic = dod.heuristic
  | .heuristic =>
    InsertedIn check dod.heuristic dod'.heuristic ∧ dod'.deterministic = dod.deterministic

section

variable (rt : GateRuntime)

def FailsIn (content : List Char) (check : String) : DodBand → Prop
  | .deterministic => isEvaluated check = true ∧ DeterministicFails rt content check
  | .heuristic => heuristicSupported rt check = true ∧ HeuristicFails rt content check

def PassesIn (content : List Char) (check : String) : DodBand → Prop
  | .deterministic => isEvaluated check = true ∧ deterministicCheck rt content check = .ok none
  | .heuristic =>
    heuristicSupported rt check = true ∧ heuristicCheck rt content check = .ok (none, none)

section

variable (input : ModelQualityGateInput)

def FloorAdds : Prop :=
  DeterministicAuthority rt input ∧ PyText.strip (checkedResponse rt input) = [] ∧
    ∀ outcome, runContractChecks rt (checkedResponse rt input) (mergedDod input) = .ok outcome →
      EMPTY_RESPONSE_FLOOR_REASON ∉ outcome.deterministicFailures

def LiftsFloor (check : String) : Prop :=
  FloorAdds rt input ∧ deterministicCheck rt (checkedResponse rt input) check =
    .ok (some EMPTY_RESPONSE_FLOOR_REASON)

/-- The request gets to the verifiable path, and so to the floor. -/
def BringsFloor (input' : ModelQualityGateInput) : Prop :=
  ¬ DeterministicAuthority rt input ∧ FloorAdds rt input'

structure SameResponse (input' : ModelQualityGateInput) : Prop where
  content : input'.llmResponseContent = input.llmResponseContent
  taskType : input'.taskType = input.taskType

def SomeEvaluated : Prop :=
  (∃ check ∈ (mergedDod input).deterministic, isEvaluated check = true) ∨
    (mergedDod input).heuristic ≠ []

/-! ## Tallies -/

/-- What the score counts. -/
@[ext]
structure Tally where
  evaluated : ℕ
  failures : ℕ
  heuristics : ℕ
  heuristicFailures : ℕ

def Tally.share (tally : Tally) : UnitScore :=
  weightedShare (band (max tally.evaluated tally.failures) tally.failures)
    (band tally.heuristics tally.heuristicFailures)

def flooredOutcome (outcome : CheckOutcome) :
    CheckOutcome :=
  withEmptyFloor
    (isVerifiableDeterministicAcceptance rt input.taskType (mergedDod input).deterministic)
    (checkedResponse rt input) outcome

def tallyOf (outcome : CheckOutcome) :
    Tally where
  evaluated := ((mergedDod input).deterministic.filter isEvaluated).length
  failures := (flooredOutcome rt input outcome).deterministicFailures.length
  heuristics := (mergedDod input).heuristic.length
  heuristicFailures := outcome.heuristicFailures.length

end

def deterministicReason (content : List Char) (check : String) :
    Option String :=
  match deterministicCheck rt content check with
  | .ok reason => reason
  | .error _ => none

/-- What one heuristic check reports to the two bands. -/
def heuristicReasons (content : List Char) (check : String) :
    Option String × Option String :=
  match heuristicCheck rt content check with
  | .ok reasons => reasons
  | .error _ => (none, none)

end

section Tallies

variable {rt : GateRuntime} {input input' : ModelQualityGateInput} {content : List Char}
  {dod dod' : DefinitionOfDone} {outcome outcome' : CheckOutcome} {check : String}
  {checks checks' : List String} {judgeVerdict : Option EnumDelegationJudgeVerdict}
  {result result' : ModelQualityGateResult}

theorem runContractChecks_reasons (checked : runContractChecks rt content dod = .ok outcome) :
    outcome.deterministicFailures =
        (dod.deterministic.filter isEvaluated).filterMap (deterministicReason rt content) ++
          dod.heuristic.filterMap (fun check => (heuristicReasons rt content check).2) ∧
      outcome.heuristicFailures =
        dod.heuristic.filterMap (fun check => (heuristicReasons rt content check).1) ∧
      outcome.skippedDeterministic = dod.deterministic.filter (!isEvaluated ·) := by
  obtain ⟨reasons, outcomes, walked, visited, rfl⟩ := runContractChecks_ok checked
  have first : reasons = (dod.deterministic.filter isEvaluated).map
      (deterministicReason rt content) := by
    have mapped := Search.map_of_mapM (f := deterministicReason rt content) (g := id) walked
      (fun check hit reported => by unfold deterministicReason; rw [reported]; rfl)
    rwa [List.map_id] at mapped
  have second : outcomes = dod.heuristic.map (heuristicReasons rt content) := by
    have mapped := Search.map_of_mapM (f := heuristicReasons rt content) (g := id) visited
      (fun check hit reported => by unfold heuristicReasons; rw [reported]; rfl)
    rwa [List.map_id] at mapped
  subst first second
  refine ⟨?_, ?_, rfl⟩
  · simp only [List.reduceOption, List.filterMap_map, List.map_map]
    rfl
  · simp only [List.reduceOption, List.filterMap_map, List.map_map]
    rfl

theorem delta_score (declared : (mergedDod input).isEmpty = false)
    (returned : delta rt input none judgeVerdict = .ok result) :
    ∃ outcome, runContractChecks rt (checkedResponse rt input) (mergedDod input) = .ok outcome ∧
      result.qualityScore = .finite (tallyOf rt input outcome).share.rounded.value := by
  obtain ⟨evidence, unfolded⟩ := @delta_declared rt input none judgeVerdict declared
  rw [unfolded] at returned
  obtain ⟨outcome, checked, rfl⟩ := Raising.map_eq_ok.1 returned
  refine ⟨outcome, checked, ?_⟩
  have noted := (runContractChecks_reasons checked).2.2
  have graded : (inputVerdict rt input none judgeVerdict outcome).qualityScore =
      gradedScoreOf (mergedDod input) (flooredOutcome rt input outcome) := by
    unfold inputVerdict contractVerdict verifiableVerdict heuristicVerdict
    dsimp only
    split_ifs <;> rfl
  have total : evaluatedDeterministicTotal (mergedDod input).deterministic
      (flooredOutcome rt input outcome) =
        max (tallyOf rt input outcome).evaluated (tallyOf rt input outcome).failures := by
    unfold flooredOutcome
    rw [evaluatedDeterministicTotal_eq (by rw [withEmptyFloor_skippedDeterministic, noted])]
    rfl
  rw [GateVerdict.result_qualityScore, graded, gradedScoreOf, gradedQualityScore_eq, total]
  unfold flooredOutcome
  rw [withEmptyFloor_heuristicFailures]
  rfl

/-! ## The floor -/

def floorOn (rt : GateRuntime) (input : ModelQualityGateInput) (outcome : CheckOutcome) : Bool :=
  isVerifiableDeterministicAcceptance rt input.taskType (mergedDod input).deterministic &&
    (PyText.strip (checkedResponse rt input)).isEmpty &&
    !outcome.deterministicFailures.contains EMPTY_RESPONSE_FLOOR_REASON

theorem tallyOf_failures :
    (tallyOf rt input outcome).failures =
      outcome.deterministicFailures.length + if floorOn rt input outcome then 1 else 0 := by
  show (flooredOutcome rt input outcome).deterministicFailures.length = _
  have floored : flooredOutcome rt input outcome =
      if floorOn rt input outcome then
        { outcome with
          deterministicFailures := EMPTY_RESPONSE_FLOOR_REASON :: outcome.deterministicFailures }
      else outcome := rfl
  rw [floored]
  cases floorOn rt input outcome with
  | true => rfl
  | false => rfl

theorem floorAdds_iff
    (checked : runContractChecks rt (checkedResponse rt input) (mergedDod input) = .ok outcome) :
    FloorAdds rt input ↔ floorOn rt input outcome = true := by
  unfold FloorAdds floorOn
  rw [Bool.and_eq_true, Bool.and_eq_true, isVerifiableDeterministicAcceptance_iff, and_assoc,
    List.isEmpty_iff, Bool.not_eq_true', ← Bool.not_eq_true, List.contains_iff_mem]
  refine and_congr_right fun _ => and_congr_right fun _ => ⟨fun silent => silent outcome checked, ?_⟩
  intro silent other again
  rw [checked] at again
  cases again
  exact silent

theorem SameResponse.checkedResponse_eq (same : SameResponse input input') :
    checkedResponse rt input' = checkedResponse rt input := by
  rw [checkedResponse, checkedResponse, same.content]

/-! ## What one more check adds -/

theorem InsertedIn.filterMap {α : Type} {report : String → Option α}
    (inserted : InsertedIn check checks checks') :
    (checks'.filterMap report).Perm ((report check).toList ++ checks.filterMap report) := by
  obtain ⟨front, back, rfl, rfl⟩ := inserted
  rw [List.filterMap_append, List.filterMap_append]
  cases reported : report check with
  | none =>
    rw [List.filterMap_cons_none reported]
    exact List.Perm.refl _
  | some reason =>
    rw [List.filterMap_cons_some reported]
    exact List.perm_middle

theorem InsertedIn.filter {keeps : String → Bool} (inserted : InsertedIn check checks checks')
    (kept : keeps check = true) :
    InsertedIn check (checks.filter keeps) (checks'.filter keeps) := by
  obtain ⟨front, back, rfl, rfl⟩ := inserted
  refine ⟨front.filter keeps, back.filter keeps, List.filter_append .., ?_⟩
  rw [List.filter_append, List.filter_cons_of_pos kept]

theorem InsertedIn.length (inserted : InsertedIn check checks checks') :
    checks'.length = checks.length + 1 := by
  obtain ⟨front, back, rfl, rfl⟩ := inserted
  simp only [List.length_append, List.length_cons]
  omega

theorem InsertedIn.subset (inserted : InsertedIn check checks checks') : checks ⊆ checks' := by
  obtain ⟨front, back, rfl, rfl⟩ := inserted
  intro listed within
  rcases List.mem_append.1 within with before | behind
  · exact List.mem_append_left _ before
  · exact List.mem_append_right _ (List.mem_cons_of_mem _ behind)

variable {reason : Option String}

section

variable (same : SameResponse input input')
  (checked : runContractChecks rt (checkedResponse rt input) (mergedDod input) = .ok outcome)
  (checked' : runContractChecks rt (checkedResponse rt input') (mergedDod input') = .ok outcome')

include same checked checked'

theorem deterministicFailures_appended
    (appended : (Appended check (mergedDod input) (mergedDod input') .deterministic ∧
        isEvaluated check = true ∧
        deterministicReason rt (checkedResponse rt input) check = reason) ∨
      (Appended check (mergedDod input) (mergedDod input') .heuristic ∧
        (heuristicReasons rt (checkedResponse rt input) check).2 = reason)) :
    outcome'.deterministicFailures.Perm (reason.toList ++ outcome.deterministicFailures) := by
  rw [same.checkedResponse_eq] at checked'
  rw [(runContractChecks_reasons checked).1, (runContractChecks_reasons checked').1]
  rcases appended with ⟨⟨inserted, others⟩, evaluated, reported⟩ | ⟨⟨inserted, others⟩, reported⟩
  · rw [others, ← List.append_assoc]
    have grown := @InsertedIn.filterMap _ _ _ _ (deterministicReason rt (checkedResponse rt input))
      (inserted.filter evaluated)
    rw [reported] at grown
    exact grown.append_right _
  · rw [others]
    have grown := @InsertedIn.filterMap _ _ _ _
      (fun check => (heuristicReasons rt (checkedResponse rt input) check).2) inserted
    rw [reported] at grown
    exact (grown.append_left _).trans (List.perm_append_comm_assoc _ _ _)

theorem heuristicFailures_appended
    (appended : Appended check (mergedDod input) (mergedDod input') .heuristic)
    (reported : (heuristicReasons rt (checkedResponse rt input) check).1 = reason) :
    outcome'.heuristicFailures.Perm (reason.toList ++ outcome.heuristicFailures) := by
  rw [same.checkedResponse_eq] at checked'
  obtain ⟨inserted, -⟩ := appended
  rw [(runContractChecks_reasons checked).2.1, (runContractChecks_reasons checked').2.1]
  have grown := @InsertedIn.filterMap _ _ _ _
    (fun check => (heuristicReasons rt (checkedResponse rt input) check).1) inserted
  rwa [reported] at grown

theorem heuristicFailures_kept
    (appended : Appended check (mergedDod input) (mergedDod input') .deterministic) :
    outcome'.heuristicFailures = outcome.heuristicFailures := by
  rw [same.checkedResponse_eq] at checked'
  rw [(runContractChecks_reasons checked).2.1, (runContractChecks_reasons checked').2.1, appended.2]

end

variable {dodBand : DodBand}

section

variable (same : SameResponse input input')
  (appended : Appended check (mergedDod input) (mergedDod input') dodBand)

include same appended

theorem deterministicAuthority_appended
    (authority : DeterministicAuthority rt input) : DeterministicAuthority rt input' := by
  obtain ⟨verifiable, promoting, listed, promotes⟩ := authority
  refine ⟨same.taskType ▸ verifiable, promoting, ?_, promotes⟩
  cases dodBand with
  | deterministic => exact appended.1.subset listed
  | heuristic => exact appended.2 ▸ listed

theorem floorOn_appended
    (grown : outcome'.deterministicFailures.Perm (reason.toList ++ outcome.deterministicFailures))
    (other : reason ≠ some EMPTY_RESPONSE_FLOOR_REASON) (adds : floorOn rt input outcome = true) :
    floorOn rt input' outcome' = true := by
  unfold floorOn at adds ⊢
  rw [Bool.and_eq_true, Bool.and_eq_true] at adds ⊢
  obtain ⟨⟨authority, blank⟩, silent⟩ := adds
  refine ⟨⟨?_, same.checkedResponse_eq ▸ blank⟩, ?_⟩
  · rw [isVerifiableDeterministicAcceptance_iff] at authority ⊢
    exact deterministicAuthority_appended same appended authority
  · rw [Bool.not_eq_true', ← Bool.not_eq_true, List.contains_iff_mem] at silent ⊢
    intro listed
    rcases List.mem_append.1 (grown.mem_iff.1 listed) with new | old
    · exact other (Option.mem_toList.1 new)
    · exact silent old

end

/-! ## The law of the score -/

structure MonotoneScore (rt : GateRuntime) (judgeVerdict : Option EnumDelegationJudgeVerdict)
    (input : ModelQualityGateInput) (result : ModelQualityGateResult) : Prop where
  /-- One more failing check does not raise the score, unless it reports in the place of the
  floor. -/
  failing : ∀ input' result' check dodBand, SameResponse input input' →
    Appended check (mergedDod input) (mergedDod input') dodBand →
    FailsIn rt (checkedResponse rt input) check dodBand →
    (dodBand = .deterministic → ¬ LiftsFloor rt input check) →
    delta rt input' none judgeVerdict = .ok result' →
    PyFloat.le result'.qualityScore result.qualityScore = true
  /-- One more passing check does not lower the score, unless it brings the floor. -/
  passing : ∀ input' result' check dodBand, SameResponse input input' →
    Appended check (mergedDod input) (mergedDod input') dodBand →
    PassesIn rt (checkedResponse rt input) check dodBand →
    ¬ BringsFloor rt input input' →
    delta rt input' none judgeVerdict = .ok result' →
    PyFloat.le result.qualityScore result'.qualityScore = true
  /-- The score is one where no more than half of its last digit is missing of the share that
  the gate computes. -/
  perfect : (∀ check ∈ (mergedDod input).heuristic, heuristicSupported rt check = true) →
    ∀ outcome, runContractChecks rt (checkedResponse rt input) (mergedDod input) = .ok outcome →
      (result.qualityScore = .finite 1 ↔ 1 - (tallyOf rt input outcome).share.value ≤ 1 / 2000)
  /-- Without a failure the score is one. -/
  clean : SomeEvaluated input → FloorPasses rt input → NoHeuristicFails rt input →
    result.qualityScore = .finite 1
  /-- Without an evaluated check the score is zero. -/
  unevaluated : ¬ SomeEvaluated input → result.qualityScore = .finite 0

theorem failsIn_deterministic (fails : FailsIn rt content check .deterministic) :
    ∃ reason, deterministicCheck rt content check = .ok (some reason) ∧
      deterministicReason rt content check = some reason := by
  obtain ⟨-, reason, failed⟩ := fails
  refine ⟨reason, failed, ?_⟩
  unfold deterministicReason
  rw [failed]

theorem failsIn_heuristic (fails : FailsIn rt content check .heuristic) :
    ∃ reason, heuristicReasons rt content check = (some reason, none) := by
  obtain ⟨supported, reason, unsupported, failed⟩ := fails
  have known := (heuristicCheck_unsupported failed).2 supported
  refine ⟨reason, ?_⟩
  unfold heuristicReasons
  rw [failed, known]

theorem passesIn_heuristic (passes : PassesIn rt content check .heuristic) :
    heuristicReasons rt content check = (none, none) := by
  unfold heuristicReasons
  rw [passes.2]

theorem isEmpty_appended (appended : Appended check dod dod' dodBand) : dod'.isEmpty = false := by
  rw [DefinitionOfDone.isEmpty, Bool.and_eq_false_iff, List.isEmpty_eq_false_iff,
    List.isEmpty_eq_false_iff]
  cases dodBand with
  | deterministic =>
    obtain ⟨⟨front, back, -, whole⟩, -⟩ := appended
    exact Or.inl (by simp [whole])
  | heuristic =>
    obtain ⟨⟨front, back, -, whole⟩, -⟩ := appended
    exact Or.inr (by simp [whole])

theorem band_heuristic
    (checked : runContractChecks rt (checkedResponse rt input) (mergedDod input) = .ok outcome) :
    band (tallyOf rt input outcome).heuristics (tallyOf rt input outcome).heuristicFailures =
      band (max (tallyOf rt input outcome).heuristics
          (tallyOf rt input outcome).heuristicFailures)
        (tallyOf rt input outcome).heuristicFailures := by
  have few : (tallyOf rt input outcome).heuristicFailures ≤
      (tallyOf rt input outcome).heuristics := by
    show outcome.heuristicFailures.length ≤ (mergedDod input).heuristic.length
    rw [(runContractChecks_reasons checked).2.1]
    exact List.length_filterMap_le _ _
  rw [max_eq_left few]

section

variable (same : SameResponse input input')
  (checked : runContractChecks rt (checkedResponse rt input) (mergedDod input) = .ok outcome)
  (checked' : runContractChecks rt (checkedResponse rt input') (mergedDod input') = .ok outcome')

include same checked checked'

theorem deterministicBand_kept
    (appended : Appended check (mergedDod input) (mergedDod input') .heuristic)
    (silent : (heuristicReasons rt (checkedResponse rt input) check).2 = none) :
    (tallyOf rt input' outcome').evaluated = (tallyOf rt input outcome).evaluated ∧
      (tallyOf rt input' outcome').failures = (tallyOf rt input outcome).failures := by
  have kept := deterministicFailures_appended same checked checked' (Or.inr ⟨appended, silent⟩)
  rw [Option.toList_none, List.nil_append] at kept
  have named : outcome'.deterministicFailures.contains EMPTY_RESPONSE_FLOOR_REASON =
      outcome.deterministicFailures.contains EMPTY_RESPONSE_FLOOR_REASON := by
    rw [Bool.eq_iff_iff, List.contains_iff_mem, List.contains_iff_mem]
    exact kept.mem_iff
  have floor : floorOn rt input' outcome' = floorOn rt input outcome := by
    unfold floorOn
    rw [same.taskType, appended.2, same.checkedResponse_eq, named]
  refine ⟨?_, ?_⟩
  · show ((mergedDod input').deterministic.filter isEvaluated).length = _
    rw [appended.2]
    rfl
  · rw [tallyOf_failures, tallyOf_failures, kept.length_eq, floor]

theorem share_deterministic
    (appended : Appended check (mergedDod input) (mergedDod input') .deterministic)
    (run : isEvaluated check = true) :
    (tallyOf rt input' outcome').share =
      weightedShare
        (band (max ((tallyOf rt input outcome).evaluated + 1) (tallyOf rt input' outcome').failures)
          (tallyOf rt input' outcome').failures)
        (band (tallyOf rt input outcome).heuristics
          (tallyOf rt input outcome).heuristicFailures) := by
  have evaluated : (tallyOf rt input' outcome').evaluated =
      (tallyOf rt input outcome).evaluated + 1 := (appended.1.filter run).length
  have heuristics : (tallyOf rt input' outcome').heuristics =
      (tallyOf rt input outcome).heuristics := congrArg List.length appended.2
  have failures : (tallyOf rt input' outcome').heuristicFailures =
      (tallyOf rt input outcome).heuristicFailures :=
    congrArg List.length (heuristicFailures_kept same checked checked' appended)
  unfold Tally.share
  rw [evaluated, heuristics, failures]

theorem share_heuristic (appended : Appended check (mergedDod input) (mergedDod input') .heuristic)
    (reported : heuristicReasons rt (checkedResponse rt input) check = (reason, none)) :
    outcome'.heuristicFailures.length = reason.toList.length + outcome.heuristicFailures.length ∧
      (tallyOf rt input' outcome').share =
        weightedShare
          (band (max (tallyOf rt input outcome).evaluated (tallyOf rt input outcome).failures)
            (tallyOf rt input outcome).failures)
          (band (max ((tallyOf rt input outcome).heuristics + 1) outcome'.heuristicFailures.length)
            outcome'.heuristicFailures.length) := by
  obtain ⟨evaluated, failures⟩ := deterministicBand_kept same checked checked' appended
    (congrArg Prod.snd reported)
  have grown := (heuristicFailures_appended same checked checked' appended
    (congrArg Prod.fst reported)).length_eq
  have heuristics : (tallyOf rt input' outcome').heuristics =
      (tallyOf rt input outcome).heuristics + 1 := appended.1.length
  refine ⟨by rwa [List.length_append] at grown, ?_⟩
  unfold Tally.share
  rw [evaluated, failures, band_heuristic checked', heuristics]
  rfl

theorem share_failing (appended : Appended check (mergedDod input) (mergedDod input') dodBand)
    (fails : FailsIn rt (checkedResponse rt input) check dodBand)
    (unlifted : dodBand = .deterministic → ¬ LiftsFloor rt input check) :
    (tallyOf rt input' outcome').share.value ≤ (tallyOf rt input outcome).share.value := by
  cases dodBand with
  | deterministic =>
    obtain ⟨reason, failed, reported⟩ := failsIn_deterministic fails
    have grown := deterministicFailures_appended same checked checked'
      (Or.inl ⟨appended, fails.1, reported⟩)
    have floor : floorOn rt input outcome = true → floorOn rt input' outcome' = true := by
      intro adds
      refine floorOn_appended same appended grown ?_ adds
      intro lifted
      rw [lifted] at failed
      exact unlifted rfl ⟨(floorAdds_iff checked).2 adds, failed⟩
    have more : (tallyOf rt input outcome).failures + 1 ≤
        (tallyOf rt input' outcome').failures := by
      have length := grown.length_eq
      rw [List.length_append, Option.toList_some, List.length_singleton] at length
      rw [tallyOf_failures, tallyOf_failures, length]
      cases adds : floorOn rt input outcome with
      | true =>
        rw [floor adds]
        simp only [if_true]
        omega
      | false =>
        simp only [Bool.false_eq_true, if_false]
        omega
    rw [share_deterministic same checked checked' appended fails.1]
    exact (weightedShare_worse (band_worse more)).1
  | heuristic =>
    obtain ⟨reason, reported⟩ := failsIn_heuristic fails
    obtain ⟨grown, share⟩ := share_heuristic same checked checked' appended reported
    rw [Option.toList_some, List.length_singleton] at grown
    rw [share, Tally.share, band_heuristic checked]
    exact (weightedShare_worse (band_worse (by rw [grown]; exact (Nat.add_comm _ _).le))).2

theorem share_passing (appended : Appended check (mergedDod input) (mergedDod input') dodBand)
    (passes : PassesIn rt (checkedResponse rt input) check dodBand)
    (floorless : ¬ BringsFloor rt input input') :
    (tallyOf rt input outcome).share.value ≤ (tallyOf rt input' outcome').share.value := by
  cases dodBand with
  | deterministic =>
    have reported : deterministicReason rt (checkedResponse rt input) check = none := by
      unfold deterministicReason
      rw [passes.2]
    have kept := deterministicFailures_appended same checked checked'
      (Or.inl ⟨appended, passes.1, reported⟩)
    rw [Option.toList_none, List.nil_append] at kept
    -- a floor on the longer list was on before: the path was verifiable already
    have floor : floorOn rt input' outcome' = true → floorOn rt input outcome = true := by
      intro adds
      have added := (floorAdds_iff checked').2 adds
      have authority : DeterministicAuthority rt input := by
        by_contra missing
        exact floorless ⟨missing, added⟩
      refine (floorAdds_iff checked).1 ⟨authority, same.checkedResponse_eq ▸ added.2.1, ?_⟩
      intro other again
      rw [checked] at again
      cases again
      exact fun listed => added.2.2 outcome' checked' (kept.mem_iff.2 listed)
    have fewer : (tallyOf rt input' outcome').failures ≤ (tallyOf rt input outcome).failures := by
      rw [tallyOf_failures, tallyOf_failures, kept.length_eq]
      cases adds : floorOn rt input' outcome' with
      | true => rw [floor adds]
      | false =>
        simp only [Bool.false_eq_true, if_false]
        omega
    rw [share_deterministic same checked checked' appended passes.1]
    exact (weightedShare_better (band_better fewer)).1
  | heuristic =>
    obtain ⟨kept, share⟩ := share_heuristic same checked checked' appended
      (passesIn_heuristic passes)
    rw [Option.toList_none, List.length_nil, Nat.zero_add] at kept
    rw [share, Tally.share, band_heuristic checked]
    exact (weightedShare_better (band_better kept.le)).2

end

theorem share_unevaluated (nothing : ¬ SomeEvaluated input)
    (checked : runContractChecks rt (checkedResponse rt input) (mergedDod input) = .ok outcome) :
    (tallyOf rt input outcome).share = .zero := by
  unfold SomeEvaluated at nothing
  push Not at nothing
  obtain ⟨skipped, noHeuristic⟩ := nothing
  have evaluated : (mergedDod input).deterministic.filter isEvaluated = [] :=
    List.filter_eq_nil_iff.2 fun check listed => skipped check listed
  obtain ⟨failures, heuristics, -⟩ := runContractChecks_reasons checked
  rw [evaluated, noHeuristic] at failures
  rw [noHeuristic] at heuristics
  have unfloored : floorOn rt input outcome = false := by
    rw [← Bool.not_eq_true]
    intro adds
    obtain ⟨⟨_, check, listed, _, run⟩, _⟩ := (floorAdds_iff checked).2 adds
    exact skipped check listed run
  unfold Tally.share
  rw [tallyOf_failures, unfloored, failures]
  unfold tallyOf
  dsimp only
  rw [evaluated, noHeuristic, heuristics]
  rfl

theorem share_clean (evaluated : SomeEvaluated input) (passes : FloorPasses rt input)
    (silent : NoHeuristicFails rt input)
    (checked : runContractChecks rt (checkedResponse rt input) (mergedDod input) = .ok outcome) :
    (tallyOf rt input outcome).share.value = 1 := by
  have failures : (tallyOf rt input outcome).failures = 0 := by
    show (flooredOutcome rt input outcome).deterministicFailures.length = 0
    rw [List.length_eq_zero_iff, flooredOutcome, withEmptyFloor_eq_nil,
      deterministicFailures_eq_nil checked, isVerifiableDeterministicAcceptance_iff]
    exact ⟨⟨passes.declared, passes.supported⟩, passes.nonEmpty⟩
  have heuristics : (tallyOf rt input outcome).heuristicFailures = 0 := by
    show outcome.heuristicFailures.length = 0
    rw [List.length_eq_zero_iff, heuristicFailures_eq_nil checked]
    exact silent
  have whole : ∀ total, band total 0 = if 0 < total then some .one else none := by
    intro total
    unfold band
    split
    · next some_total => rw [passedFraction_clean some_total]
    · rfl
  have counted : 0 < (tallyOf rt input outcome).evaluated ∨
      0 < (tallyOf rt input outcome).heuristics := by
    rcases evaluated with ⟨check, listed, run⟩ | some_heuristic
    · exact Or.inl (List.length_pos_of_mem (List.mem_filter.2 ⟨listed, run⟩))
    · exact Or.inr (List.length_pos_of_ne_nil some_heuristic)
  unfold Tally.share
  rw [failures, heuristics, Nat.max_zero, whole, whole]
  by_cases deterministic : 0 < (tallyOf rt input outcome).evaluated <;>
    by_cases heuristic : 0 < (tallyOf rt input outcome).heuristics
  · rw [if_pos deterministic, if_pos heuristic]
    exact mix_one bandWeights_whole
  · rw [if_pos deterministic, if_neg heuristic]
    exact weighed_one
  · rw [if_neg deterministic, if_pos heuristic]
    exact weighed_one
  · exact absurd counted (not_or.2 ⟨deterministic, heuristic⟩)

/-- The score of a declared definition of done without judge: monotone in the checks that do
not move the floor, one without failures, zero without evaluated checks. -/
theorem graded_score_monotone (declared : (mergedDod input).isEmpty = false)
    (returned : delta rt input none judgeVerdict = .ok result) :
    MonotoneScore rt judgeVerdict input result := by
  obtain ⟨outcome, checked, scored⟩ := delta_score declared returned
  have perfect : result.qualityScore = .finite 1 ↔
      1 - (tallyOf rt input outcome).share.value ≤ 1 / 2000 := by
    have digit : (1 : ℚ) / (2 * 10 ^ 3) = 1 / 2000 := by norm_num
    rw [scored, PyFloat.finite.injEq, ← digit]
    exact PyNumber.round_eq_one_iff three_ne_zero (UnitScore.le_one _)
  refine ⟨?_, ?_, ?_, ?_, ?_⟩
  · intro input' result' check dodBand same appended fails unlifted returned'
    obtain ⟨outcome', checked', scored'⟩ := delta_score (isEmpty_appended appended) returned'
    rw [scored, scored', PyFloat.le_finite, decide_eq_true_iff]
    exact PyNumber.round_mono (share_failing same checked checked' appended fails unlifted)
  · intro input' result' check dodBand same appended passes floorless returned'
    obtain ⟨outcome', checked', scored'⟩ := delta_score (isEmpty_appended appended) returned'
    rw [scored, scored', PyFloat.le_finite, decide_eq_true_iff]
    exact PyNumber.round_mono (share_passing same checked checked' appended passes floorless)
  · intro _ other again
    rw [checked] at again
    cases again
    exact perfect
  · intro evaluated passes silent
    rw [perfect, share_clean evaluated passes silent checked]
    norm_num
  · intro nothing
    rw [scored, share_unevaluated nothing checked]
    norm_num [UnitScore.rounded, UnitScore.zero, PyNumber.round, PyNumber.roundHalfEven]

end Tallies

/-! ## Where the score is not monotone -/

def NoCheckFails (rt : GateRuntime) (input : ModelQualityGateInput) : Prop :=
  (∀ check ∈ (mergedDod input).deterministic, isEvaluated check = true →
    ¬ DeterministicFails rt (checkedResponse rt input) check) ∧
  ∀ check ∈ (mergedDod input).heuristic, heuristicSupported rt check = true ∧
    ¬ HeuristicFails rt (checkedResponse rt input) check

/-- The law that a reader expects of the score, without exceptions. -/
structure PlainlyMonotone (rt : GateRuntime) (judgeVerdict : Option EnumDelegationJudgeVerdict)
    (input : ModelQualityGateInput) (result : ModelQualityGateResult) : Prop where
  failing : ∀ input' result' check dodBand, SameResponse input input' →
    Appended check (mergedDod input) (mergedDod input') dodBand →
    (FailsIn rt (checkedResponse rt input) check dodBand ∨
      dodBand = .heuristic ∧ heuristicSupported rt check = false) →
    delta rt input' none judgeVerdict = .ok result' →
    PyFloat.le result'.qualityScore result.qualityScore = true
  passing : ∀ input' result' check dodBand, SameResponse input input' →
    Appended check (mergedDod input) (mergedDod input') dodBand →
    PassesIn rt (checkedResponse rt input) check dodBand →
    delta rt input' none judgeVerdict = .ok result' →
    PyFloat.le result.qualityScore result'.qualityScore = true
  perfect : result.qualityScore = .finite 1 ↔ NoCheckFails rt input

/-- A definition of done without an evaluated check. -/
def unevaluatedOnly : ModelQualityGateInput where
  correlationId := 1
  taskType := "code_generation"
  llmResponseContent := "No"
  dodDeterministic := ["passes_existing_tests"]

def emptyResponse (deterministic heuristic : List String) : ModelQualityGateInput where
  correlationId := 1
  taskType := "code_generation"
  llmResponseContent := ""
  dodDeterministic := deterministic
  dodHeuristic := heuristic

theorem unevaluated_scores_zero :
    ∃ result, delta identifierRuntime unevaluatedOnly = .ok result ∧
      ¬ PlainlyMonotone identifierRuntime none unevaluatedOnly result := by
  refine ⟨_, rfl, fun law => ?_⟩
  have quiet : NoCheckFails identifierRuntime unevaluatedOnly := by
    refine ⟨fun check listed run => ?_, fun check listed => absurd listed List.not_mem_nil⟩
    rw [List.mem_singleton.1 listed] at run
    cases run
  have perfect := law.perfect.2 quiet
  exact absurd perfect (by decide +kernel)

theorem failing_check_raises :
    ∃ result, delta identifierRuntime (emptyResponse ["compiles_without_errors"] []) = .ok result ∧
      ¬ PlainlyMonotone identifierRuntime none (emptyResponse ["compiles_without_errors"] [])
        result := by
  refine ⟨_, rfl, fun law => ?_⟩
  have raised := law.failing
    (emptyResponse ["compiles_without_errors", "response_non_empty"] []) _ "response_non_empty"
    .deterministic ⟨rfl, rfl⟩ ⟨⟨["compiles_without_errors"], [], rfl, rfl⟩, rfl⟩
    (Or.inl ⟨rfl, _, rfl⟩) rfl
  exact absurd raised (by decide +kernel)

theorem passing_check_lowers :
    ∃ result, delta identifierRuntime (emptyResponse [] ["concise"]) = .ok result ∧
      ¬ PlainlyMonotone identifierRuntime none (emptyResponse [] ["concise"]) result := by
  refine ⟨_, rfl, fun law => ?_⟩
  have lowered := law.passing (emptyResponse ["compiles_without_errors"] ["concise"]) _
    "compiles_without_errors" .deterministic ⟨rfl, rfl⟩ ⟨⟨[], [], rfl, rfl⟩, rfl⟩ ⟨rfl, rfl⟩ rfl
  exact absurd lowered (by decide +kernel)

/-- One failing check among two thousand. -/
def manyChecks : ModelQualityGateInput where
  correlationId := 1
  taskType := "research"
  llmResponseContent := "No"
  dodHeuristic := "follows_google_style" :: List.replicate 1999 "concise"

theorem mem_manyChecks {check : String} (listed : check ∈ (mergedDod manyChecks).heuristic) :
    check = "follows_google_style" ∨ check = "concise" := by
  rcases List.mem_cons.1 listed with rfl | later
  · exact Or.inl rfl
  · exact Or.inr (List.eq_of_mem_replicate later)

theorem styleReasons :
    heuristicReasons identifierRuntime "No".toList "follows_google_style" =
      (some "TASK_MISMATCH: failed follows_google_style", none) := by
  decide +kernel

theorem conciseReasons :
    heuristicReasons identifierRuntime "No".toList "concise" = (none, none) := by
  decide +kernel

theorem checkedResponse_manyChecks :
    checkedResponse identifierRuntime manyChecks = "No".toList := by
  decide +kernel

theorem tallyOf_manyChecks {outcome : CheckOutcome}
    (checked : runContractChecks identifierRuntime (checkedResponse identifierRuntime manyChecks)
      (mergedDod manyChecks) = .ok outcome) :
    tallyOf identifierRuntime manyChecks outcome = ⟨0, 0, 2000, 1⟩ := by
  have deterministic : (mergedDod manyChecks).deterministic = [] := rfl
  have heuristic : (mergedDod manyChecks).heuristic =
      "follows_google_style" :: List.replicate 1999 "concise" := rfl
  obtain ⟨failures, heuristics, -⟩ := runContractChecks_reasons checked
  rw [checkedResponse_manyChecks, heuristic] at failures heuristics
  rw [deterministic, List.filter_nil, List.filterMap_nil, List.nil_append,
    List.filterMap_cons_none (by rw [styleReasons]),
    List.filterMap_replicate_of_none (by rw [conciseReasons])] at failures
  rw [List.filterMap_cons_some (by rw [styleReasons]),
    List.filterMap_replicate_of_none (by rw [conciseReasons])] at heuristics
  have unfloored : floorOn identifierRuntime manyChecks outcome = false := rfl
  have none_failed := @tallyOf_failures identifierRuntime manyChecks outcome
  rw [unfloored, failures] at none_failed
  have some_failed : (tallyOf identifierRuntime manyChecks outcome).heuristicFailures = 1 := by
    show outcome.heuristicFailures.length = 1
    rw [heuristics]
    rfl
  have checks : (tallyOf identifierRuntime manyChecks outcome).heuristics = 2000 := by
    show (mergedDod manyChecks).heuristic.length = 2000
    rw [heuristic, List.length_cons, List.length_replicate]
  exact Tally.ext rfl none_failed checks some_failed

theorem one_failure_rounds_away :
    ∃ result, delta identifierRuntime manyChecks = .ok result ∧
      ¬ PlainlyMonotone identifierRuntime none manyChecks result := by
  have runs : ChecksRun identifierRuntime manyChecks := by
    refine ⟨fun check listed => absurd listed List.not_mem_nil, fun check listed => ?_⟩
    rcases mem_manyChecks listed with rfl | rfl
    · exact ⟨_, rfl⟩
    · exact ⟨_, rfl⟩
  obtain ⟨result, returned⟩ := @delta_returns_iff identifierRuntime manyChecks none none |>.2 runs
  refine ⟨result, returned, fun law => ?_⟩
  obtain ⟨outcome, checked, scored⟩ := delta_score rfl returned
  have whole : (Tally.share ⟨0, 0, 2000, 1⟩).rounded.value = 1 := by decide +kernel
  rw [tallyOf_manyChecks checked, whole] at scored
  have quiet := (law.perfect.1 scored).2 "follows_google_style" List.mem_cons_self
  refine quiet.2 ⟨"TASK_MISMATCH: failed follows_google_style", none, ?_⟩
  rw [checkedResponse_manyChecks]
  rfl

/-- The score is not monotone in the checks: each of these samples breaks the law. -/
theorem score_not_monotone :
    (∃ result, delta identifierRuntime unevaluatedOnly = .ok result ∧
      ¬ PlainlyMonotone identifierRuntime none unevaluatedOnly result) ∧
    (∃ result, delta identifierRuntime (emptyResponse ["compiles_without_errors"] []) =
        .ok result ∧
      ¬ PlainlyMonotone identifierRuntime none (emptyResponse ["compiles_without_errors"] [])
        result) ∧
    (∃ result, delta identifierRuntime (emptyResponse [] ["concise"]) = .ok result ∧
      ¬ PlainlyMonotone identifierRuntime none (emptyResponse [] ["concise"]) result) ∧
    ∃ result, delta identifierRuntime manyChecks = .ok result ∧
      ¬ PlainlyMonotone identifierRuntime none manyChecks result :=
  ⟨unevaluated_scores_zero, failing_check_raises, passing_check_lowers, one_failure_rounds_away⟩

theorem bareNegation_monotone :
    ∃ result, delta identifierRuntime bareNegation = .ok result ∧
      MonotoneScore identifierRuntime none bareNegation result :=
  ⟨_, rfl, graded_score_monotone (by decide) rfl⟩

end OmniMarket.QualityGate
