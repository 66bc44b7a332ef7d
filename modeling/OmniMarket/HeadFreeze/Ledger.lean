import OmniMarket.HeadFreeze.Tuple
import OmniMarket.Lib.OrderedDict
import OmniMarket.Lib.PyValue
import OmniMarket.Lib.Raising

/-!
# The freeze ledger

`FreezeLedger.freeze` with the records that it validates. `generate_fingerprint` is a parameter.
-/

namespace OmniMarket.HeadFreeze

open PyText

variable {unicode : UnicodeTable}

/-! ## Data -/

inductive EnumProductReadinessOutcome where
  | productGreen
  | changeDetectionFailed
  | lintFailed
  | typeFailed
  | testFailed
  | coverageFailed
  | productInfra
deriving DecidableEq

def EnumProductReadinessOutcome.value : EnumProductReadinessOutcome → String
  | .productGreen => "product_green"
  | .changeDetectionFailed => "change_detection_failed"
  | .lintFailed => "lint_failed"
  | .typeFailed => "type_failed"
  | .testFailed => "test_failed"
  | .coverageFailed => "coverage_failed"
  | .productInfra => "product_infra"

def EnumFreezeSupersedeReason.value : EnumFreezeSupersedeReason → String
  | .synchronize => "synchronize"
  | .baseRetarget => "base_retarget"
  | .contractDigestChange => "contract_digest_change"
  | .policyDigestChange => "policy_digest_change"
  | .ticketSetChange => "ticket_set_change"

def productOutcomeIsFreezeEligible (outcome : EnumProductReadinessOutcome) : Bool :=
  outcome = .productGreen

structure FieldError where
  field : String
  message : String

inductive FreezeError where
  | valueError (message : String)
  | invalid (errors : List FieldError)
  | overflow

structure ModelHeadFreezeRecord (unicode : UnicodeTable) where
  frozenTuple : ModelFrozenTuple unicode
  productOutcome : EnumProductReadinessOutcome
  superseder : String
  createdAt : PyDatetime
  green : productOutcomeIsFreezeEligible productOutcome = true
deriving DecidableEq

structure ModelHeadFreezeSupersession (unicode : UnicodeTable) where
  supersededFreezeId : String
  supersededTuple : ModelFrozenTuple unicode
  newTuple : ModelFrozenTuple unicode
  reason : EnumFreezeSupersedeReason
  superseder : String
  createdAt : PyDatetime
  detected : classifySupersedeReason supersededTuple newTuple = .ok (some reason)

/-- A call of `freeze`. -/
structure FreezeCall (unicode : UnicodeTable) where
  frozenTuple : ModelFrozenTuple unicode
  productOutcome : EnumProductReadinessOutcome
  superseder : String
  createdAt : PyDatetime

structure FreezeLedger (unicode : UnicodeTable) where
  active : OrderedDict (String × ℕ) (ModelHeadFreezeRecord unicode) := .empty
  records : OrderedDict String (ModelHeadFreezeRecord unicode) := .empty
  supersessions : List (ModelHeadFreezeSupersession unicode) := []
  supersededIds : Finset String := ∅

/-! ## Validation -/

/-- A text with `min_length=1` that must not be blank. -/
def checkText (field message text : String) : List FieldError :=
  if text = "" then [⟨field, "String should have at least 1 character"⟩]
  else if stripString text = "" then [⟨field, "Value error, " ++ message⟩]
  else []

/-- The check of `created_at` after the errors of the fields before it. -/
def checkCreatedAt (errors : List FieldError) (createdAt : PyDatetime) :
    Except FreezeError PyDatetime :=
  match createdAt.utcOffset with
  | none => .error (.invalid (errors ++
      [⟨"created_at", "Value error, created_at must be timezone-aware (UTC)"⟩]))
  | some _ =>
    match createdAt.astimezoneUtc with
    | none => .error .overflow
    | some utc => if errors = [] then .ok utc else .error (.invalid errors)

def notGreenMessage (outcome : EnumProductReadinessOutcome) : String :=
  "Value error, a head-freeze record is only valid for a PRODUCT_GREEN head; " ++
    "got product_outcome=" ++ outcome.value ++
    ". Head-bound OCC evidence must never be minted against an unproven head."

/-- The validation of a `ModelHeadFreezeRecord`. -/
def ModelHeadFreezeRecord.validate (call : FreezeCall unicode) :
    Except FreezeError (ModelHeadFreezeRecord unicode) := do
  let utc ← checkCreatedAt
    (checkText "superseder" "superseder must contain non-whitespace characters" call.superseder)
    call.createdAt
  if green : productOutcomeIsFreezeEligible call.productOutcome then
    .ok ⟨call.frozenTuple, call.productOutcome, call.superseder, utc, green⟩
  else .error (.invalid [⟨"", notGreenMessage call.productOutcome⟩])

def mismatchMessage (reason detected : EnumFreezeSupersedeReason) : String :=
  "Value error, declared supersession reason " ++ reason.value ++
    " does not match the highest-precedence changed axis " ++ detected.value

def supersessionMessage : String :=
  "field must contain non-whitespace characters"

def unchangedMessage : String :=
  "Value error, a supersession requires the new tuple to differ from the superseded tuple in " ++
    "at least one identity axis"

section

variable (generateFingerprint : String → String → String → String)

/-- The validation of a `ModelHeadFreezeSupersession`. -/
def ModelHeadFreezeSupersession.validate (supersededFreezeId : String)
    (supersededTuple newTuple : ModelFrozenTuple unicode) (reason : EnumFreezeSupersedeReason)
    (superseder : String) (createdAt : PyDatetime) :
    Except FreezeError (ModelHeadFreezeSupersession unicode) := do
  let utc ← checkCreatedAt
    (checkText "superseded_freeze_id" supersessionMessage supersededFreezeId ++
      checkText "superseder" supersessionMessage superseder) createdAt
  if supersededFreezeId ≠ supersededTuple.freezeId generateFingerprint then
    .error (.invalid
      [⟨"", "Value error, superseded_freeze_id must equal superseded_tuple.freeze_id"⟩])
  else
    match detected : classifySupersedeReason supersededTuple newTuple with
    | .error message => .error (.invalid [⟨"", "Value error, " ++ message⟩])
    | .ok none => .error (.invalid [⟨"", unchangedMessage⟩])
    | .ok (some found) =>
      if same : found = reason then
        .ok ⟨supersededFreezeId, supersededTuple, newTuple, reason, superseder, utc,
          same ▸ detected⟩
      else .error (.invalid [⟨"", mismatchMessage reason found⟩])

/-! ## The ledger -/

def refusalMessage (outcome : EnumProductReadinessOutcome) : String :=
  "refusing to freeze a head that is not PRODUCT_GREEN (outcome=" ++ outcome.value ++
    "); no head-bound OCC evidence may be considered valid for an unproven product head."

section

variable (ledger : FreezeLedger unicode)

def FreezeLedger.supersede (supersession : ModelHeadFreezeSupersession unicode) :
    FreezeLedger unicode :=
  { ledger with
    supersessions := ledger.supersessions ++ [supersession]
    supersededIds := insert supersession.supersededFreezeId ledger.supersededIds }

/-- The record of the key becomes active again. -/
def FreezeLedger.revive (pr : String × ℕ) (freezeId : String)
    (existing : ModelHeadFreezeRecord unicode) : FreezeLedger unicode :=
  { ledger with
    active := ledger.active.set pr existing
    supersededIds := ledger.supersededIds.erase freezeId }

/-- A new record is kept and becomes active. -/
def FreezeLedger.enter (pr : String × ℕ) (freezeId : String)
    (record : ModelHeadFreezeRecord unicode) : FreezeLedger unicode :=
  { ledger with
    records := ledger.records.set freezeId record
    active := ledger.active.set pr record }

/-- The part of `freeze` after a supersession. -/
def FreezeLedger.mint (call : FreezeCall unicode) :
    FreezeLedger unicode × Except FreezeError (ModelHeadFreezeRecord unicode) :=
  let freezeId := call.frozenTuple.freezeId generateFingerprint
  match ledger.records.get? freezeId with
  | some existing => (ledger.revive call.frozenTuple.pr freezeId existing, .ok existing)
  | none =>
    match ModelHeadFreezeRecord.validate call with
    | .error raised => (ledger, .error raised)
    | .ok record => (ledger.enter call.frozenTuple.pr freezeId record, .ok record)

def freeze (call : FreezeCall unicode) :
    FreezeLedger unicode × Except FreezeError (ModelHeadFreezeRecord unicode) :=
  if productOutcomeIsFreezeEligible call.productOutcome then
    match ledger.active.get? call.frozenTuple.pr with
    | none => ledger.mint generateFingerprint call
    | some active =>
      match classifySupersedeReason active.frozenTuple call.frozenTuple with
      | .error message => (ledger, .error (.valueError message))
      | .ok none => (ledger, .ok active)
      | .ok (some reason) =>
        match ModelHeadFreezeSupersession.validate generateFingerprint
            (active.frozenTuple.freezeId generateFingerprint) active.frozenTuple
            call.frozenTuple reason call.superseder call.createdAt with
        | .error raised => (ledger, .error raised)
        | .ok supersession => (ledger.supersede supersession).mint generateFingerprint call
  else (ledger, .error (.valueError (refusalMessage call.productOutcome)))

end

end

def FreezeLedger.activeFor (ledger : FreezeLedger unicode) (repo : String) (prNumber : ℕ) :
    Option (ModelHeadFreezeRecord unicode) :=
  ledger.active.get? (repo, prNumber)

def FreezeLedger.isSuperseded (ledger : FreezeLedger unicode) (freezeId : String) : Bool :=
  freezeId ∈ ledger.supersededIds

/-! ## What validation accepts -/

/-- The superseder is not blank and the time is aware, within the years that UTC can show. -/
def FreezeCall.Stamped (call : FreezeCall unicode) : Prop :=
  stripString call.superseder ≠ "" ∧ call.createdAt.utcOffset ≠ none ∧
    call.createdAt.astimezoneUtc ≠ none

theorem checkText_eq_nil {field message text : String} :
    checkText field message text = [] ↔ stripString text ≠ "" := by
  unfold checkText
  split_ifs with none_given blank
  · subst none_given
    simp [stripString, strip, lstrip, rstrip, lstripWith, rstripWith]
  · simp [blank]
  · simp [blank]

theorem checkCreatedAt_ok {errors : List FieldError} {createdAt utc : PyDatetime} :
    checkCreatedAt errors createdAt = .ok utc ↔
      createdAt.utcOffset ≠ none ∧ createdAt.astimezoneUtc = some utc ∧ errors = [] := by
  unfold checkCreatedAt
  split
  · simp_all
  · split
    · simp_all
    · split <;> simp_all

variable {call : FreezeCall unicode}

theorem validate_record_ok {record : ModelHeadFreezeRecord unicode}
    (valid : ModelHeadFreezeRecord.validate call = .ok record) :
    record.frozenTuple = call.frozenTuple ∧ call.Stamped := by
  unfold ModelHeadFreezeRecord.validate at valid
  obtain ⟨utc, stamped, built⟩ := Raising.bind_eq_ok.1 valid
  obtain ⟨aware, shown, errors⟩ := checkCreatedAt_ok.1 stamped
  split at built
  · obtain ⟨rfl⟩ := Except.ok.inj built
    exact ⟨rfl, checkText_eq_nil.1 errors, aware, by simp [shown]⟩
  · cases built

theorem validate_record_of_stamped (stamped : call.Stamped)
    (green : productOutcomeIsFreezeEligible call.productOutcome = true) :
    ∃ record, ModelHeadFreezeRecord.validate call = .ok record := by
  obtain ⟨utc, shown⟩ := Option.ne_none_iff_exists'.1 stamped.2.2
  unfold ModelHeadFreezeRecord.validate
  rw [checkCreatedAt_ok.2 ⟨stamped.2.1, shown, checkText_eq_nil.2 stamped.1⟩, Raising.bind_ok,
    dif_pos green]
  exact ⟨_, rfl⟩

section

variable {generateFingerprint : String → String → String → String}

variable {reason : EnumFreezeSupersedeReason}

theorem validate_supersession_ok {active : ModelFrozenTuple unicode} {freezeId : String}
    {supersession : ModelHeadFreezeSupersession unicode}
    (valid : ModelHeadFreezeSupersession.validate generateFingerprint freezeId active
      call.frozenTuple reason call.superseder call.createdAt = .ok supersession) :
    supersession.supersededFreezeId = freezeId ∧ supersession.supersededTuple = active ∧
      supersession.newTuple = call.frozenTuple ∧ call.Stamped := by
  unfold ModelHeadFreezeSupersession.validate at valid
  obtain ⟨utc, stamped, built⟩ := Raising.bind_eq_ok.1 valid
  obtain ⟨aware, shown, errors⟩ := checkCreatedAt_ok.1 stamped
  obtain ⟨-, named⟩ := List.append_eq_nil_iff.1 errors
  have authored : call.Stamped := ⟨checkText_eq_nil.1 named, aware, by simp [shown]⟩
  split at built
  · cases built
  · split at built
    · cases built
    · cases built
    · split at built
      · obtain ⟨rfl⟩ := Except.ok.inj built
        exact ⟨rfl, rfl, rfl, authored⟩
      · cases built

theorem validate_supersession_of_stamped {active : ModelFrozenTuple unicode}
    (shown : stripString (active.freezeId generateFingerprint) ≠ "")
    (stamped : call.Stamped)
    (detected : classifySupersedeReason active call.frozenTuple = .ok (some reason)) :
    ∃ supersession, ModelHeadFreezeSupersession.validate generateFingerprint
      (active.freezeId generateFingerprint) active call.frozenTuple reason call.superseder
        call.createdAt = .ok supersession := by
  obtain ⟨utc, inYears⟩ := Option.ne_none_iff_exists'.1 stamped.2.2
  have texts : checkText "superseded_freeze_id" supersessionMessage
      (active.freezeId generateFingerprint) ++
        checkText "superseder" supersessionMessage call.superseder = [] := by
    rw [checkText_eq_nil.2 shown, checkText_eq_nil.2 stamped.1, List.nil_append]
  unfold ModelHeadFreezeSupersession.validate
  rw [checkCreatedAt_ok.2 ⟨stamped.2.1, inYears, texts⟩, Raising.bind_ok, if_neg (not_not.2 rfl)]
  split
  · next found => rw [detected] at found; cases found
  · next found => rw [detected] at found; cases found
  · next found =>
    rw [detected] at found
    obtain ⟨rfl⟩ := Option.some.inj (Except.ok.inj found)
    exact ⟨_, dif_pos rfl⟩

/-! ## What a call does -/

inductive FreezeLedger.Ready (generateFingerprint : String → String → String → String)
    (ledger : FreezeLedger unicode) (call : FreezeCall unicode) : FreezeLedger unicode → Prop
  | first (inactive : ledger.active.get? call.frozenTuple.pr = none) :
      ledger.Ready generateFingerprint call ledger
  | moved {active : ModelHeadFreezeRecord unicode}
      {supersession : ModelHeadFreezeSupersession unicode}
      (held : ledger.active.get? call.frozenTuple.pr = some active)
      (differs : active.frozenTuple ≠ call.frozenTuple) (stamped : call.Stamped)
      (key : supersession.supersededFreezeId = active.frozenTuple.freezeId generateFingerprint)
      (tuples : (supersession.supersededTuple, supersession.newTuple) =
        (active.frozenTuple, call.frozenTuple)) :
      ledger.Ready generateFingerprint call (ledger.supersede supersession)

/-- How a call ends. -/
inductive Frozen (generateFingerprint : String → String → String → String)
    (ledger : FreezeLedger unicode) (call : FreezeCall unicode) :
    FreezeLedger unicode → Except FreezeError (ModelHeadFreezeRecord unicode) → Prop
  | refused (raised : FreezeError) : Frozen generateFingerprint ledger call ledger (.error raised)
  | replayed {active : ModelHeadFreezeRecord unicode}
      (held : ledger.active.get? call.frozenTuple.pr = some active)
      (same : active.frozenTuple = call.frozenTuple) :
      Frozen generateFingerprint ledger call ledger (.ok active)
  | revived {ready : FreezeLedger unicode} {existing : ModelHeadFreezeRecord unicode}
      (green : productOutcomeIsFreezeEligible call.productOutcome = true)
      (prepared : ledger.Ready generateFingerprint call ready)
      (known : ledger.records.get? (call.frozenTuple.freezeId generateFingerprint) = some existing) :
      Frozen generateFingerprint ledger call
        (ready.revive call.frozenTuple.pr (call.frozenTuple.freezeId generateFingerprint) existing)
        (.ok existing)
  | entered {ready : FreezeLedger unicode} {record : ModelHeadFreezeRecord unicode}
      (prepared : ledger.Ready generateFingerprint call ready)
      (unknown : ledger.records.get? (call.frozenTuple.freezeId generateFingerprint) = none)
      (pinned : record.frozenTuple = call.frozenTuple) :
      Frozen generateFingerprint ledger call
        (ready.enter call.frozenTuple.pr (call.frozenTuple.freezeId generateFingerprint) record)
        (.ok record)

variable {ledger ready : FreezeLedger unicode}

section

variable (prepared : ledger.Ready generateFingerprint call ready)

include prepared

theorem FreezeLedger.Ready.records : ready.records = ledger.records := by
  cases prepared <;> rfl

theorem FreezeLedger.Ready.active : ready.active = ledger.active := by
  cases prepared <;> rfl

theorem mint_cases (recorded : ready = ledger ∨ call.Stamped)
    (green : productOutcomeIsFreezeEligible call.productOutcome = true) :
    Frozen generateFingerprint ledger call (ready.mint generateFingerprint call).1
      (ready.mint generateFingerprint call).2 := by
  unfold FreezeLedger.mint
  dsimp only
  split
  · next existing known =>
    exact .revived green prepared (prepared.records ▸ known)
  · next unknown =>
    split
    · next raised invalid =>
      rcases recorded with rfl | stamped
      · exact .refused raised
      · -- what the supersession accepted, the record accepts
        obtain ⟨record, valid⟩ := validate_record_of_stamped stamped green
        rw [invalid] at valid
        cases valid
    · next record valid =>
      exact .entered prepared (prepared.records ▸ unknown) (validate_record_ok valid).1

end

variable (generateFingerprint) in
theorem freeze_cases (ledger : FreezeLedger unicode) (call : FreezeCall unicode) :
    Frozen generateFingerprint ledger call (freeze generateFingerprint ledger call).1
      (freeze generateFingerprint ledger call).2 := by
  unfold freeze
  split
  · next green =>
    split
    · next inactive => exact mint_cases (.first inactive) (.inl rfl) green
    · next active held =>
      split
      · exact .refused _
      · next unchanged => exact .replayed held (classifySupersedeReason_eq_none.1 unchanged)
      · next reason detected =>
        have differs : active.frozenTuple ≠ call.frozenTuple := by
          intro same
          rw [classifySupersedeReason_eq_none.2 same] at detected
          cases detected
        split
        · exact .refused _
        · next supersession valid =>
          obtain ⟨key, old, new, stamped⟩ := validate_supersession_ok valid
          refine mint_cases (.moved held differs stamped key ?_) (.inr stamped) green
          rw [old, new]
  · exact .refused _

theorem freeze_accepts
    (shown : ∀ tuple : ModelFrozenTuple unicode, stripString (tuple.freezeId generateFingerprint) ≠ "")
    (own : ∀ active, ledger.active.get? call.frozenTuple.pr = some active →
      active.frozenTuple.pr = call.frozenTuple.pr)
    (green : productOutcomeIsFreezeEligible call.productOutcome = true)
    (stamped : call.Stamped ∨ ledger.active.get? call.frozenTuple.pr = none ∧
      ledger.records.get? (call.frozenTuple.freezeId generateFingerprint) ≠ none) :
    ∃ record, (freeze generateFingerprint ledger call).2 = .ok record := by
  have mints (ready : FreezeLedger unicode) (accepted : call.Stamped ∨
      ready.records.get? (call.frozenTuple.freezeId generateFingerprint) ≠ none) :
      ∃ record, (ready.mint generateFingerprint call).2 = .ok record := by
    unfold FreezeLedger.mint
    dsimp only
    split
    · exact ⟨_, rfl⟩
    · next unknown =>
      have stamped : call.Stamped := accepted.resolve_right (not_not.2 unknown)
      obtain ⟨record, valid⟩ := validate_record_of_stamped stamped green
      rw [valid]
      exact ⟨record, rfl⟩
  unfold freeze
  rw [if_pos green]
  split
  · exact mints ledger (stamped.imp_right And.right)
  · next active held =>
    have stamped : call.Stamped := by
      refine stamped.resolve_right ?_
      rintro ⟨inactive, -⟩
      rw [held] at inactive
      cases inactive
    obtain ⟨found, detected⟩ := classifySupersedeReason_ok (own active held)
    rw [detected]
    cases found with
    | none => exact ⟨active, rfl⟩
    | some reason =>
      obtain ⟨supersession, valid⟩ :=
        validate_supersession_of_stamped (shown active.frozenTuple) stamped detected
      dsimp only
      rw [valid]
      exact mints _ (.inl stamped)

end

end OmniMarket.HeadFreeze
