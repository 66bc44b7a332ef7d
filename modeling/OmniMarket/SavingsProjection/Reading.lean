import OmniMarket.SavingsProjection.Handlers
import OmniMarket.Lib.Raising

/-!
# What the savings handlers read

The row that each handler hands to the table, one lemma for each kind of payload. The strict model
and the runner look a savings estimate up in the same normalized payload, so the two readings are
compared field by field.
-/

namespace OmniMarket.SavingsProjection

open PyText
variable {keys : List String} {data other : PyDict} {key : String} {env : SavingsEnv}
  {moment : PyDatetime}

/-! ## Deliveries -/

def Topic.eventTypes : Topic → List String
  | .savingsEstimated => [Topic.savingsEstimated.name, "savings-estimated"]
  | .delegateSkillCompleted => [Topic.delegateSkillCompleted.name, "delegate-skill-completed"]
  | .delegateSkillFailed => [Topic.delegateSkillFailed.name, "delegate-skill-failed"]
  | .delegationCompleted => [Topic.delegationCompleted.name, "delegation-completed"]
  | .delegationFailed => [Topic.delegationFailed.name, "delegation-failed"]

structure Delivery where
  topic : Topic
  eventType : String
  named : eventType ∈ topic.eventTypes
  payload : PyDict

/-- The dictionary that the runtime hands to `handle`. -/
def Delivery.inputData (delivery : Delivery) : PyDict :=
  ("_event_type", .str delivery.eventType) ::
    delivery.payload.filter fun entry => entry.1 ≠ "_event_type"

inductive Shape where
  | delegateSkill
  | delegation
  | estimate
deriving DecidableEq

def Topic.shape : Topic → Shape
  | .savingsEstimated => .estimate
  | .delegateSkillCompleted => .delegateSkill
  | .delegateSkillFailed => .delegateSkill
  | .delegationCompleted => .delegation
  | .delegationFailed => .delegation

/-- What `handle` takes a payload on the topic for. -/
def handleShape (topic : Topic) (payload : PyDict) : Shape :=
  if topic.shape = .delegateSkill ∨ isDelegateSkillTerminalPayload payload then .delegateSkill
  else if topic.shape = .delegation ∨ isCanonicalDelegationSourcePayload payload then .delegation
  else .estimate

/-! ## Lookups -/

@[simp] theorem get?_filter_key (keep : String → Bool) (data : PyDict) (key : String) :
    PyDict.get? (data.filter fun entry => keep entry.1) key =
      if keep key then PyDict.get? data key else none := by
  unfold PyDict.get?
  induction data with
  | nil => simp
  | cons entry rest ih =>
    obtain ⟨name, value⟩ := entry
    cases same : key == name with
    | true =>
      have named : key = name := by simpa using same
      subst named
      cases kept : keep key with
      | true => simp [kept]
      | false => simpa [kept, List.lookup_cons] using ih
    | false =>
      cases kept : keep name with
      | true => simp [kept, List.lookup_cons, same, ih]
      | false => simp [kept, List.lookup_cons, same, ih]

/-- Two dictionaries hold the same value under each of the keys. -/
def SameUnder (keys : List String) (data other : PyDict) : Prop :=
  ∀ key ∈ keys, PyDict.get? data key = PyDict.get? other key

theorem SameUnder.get {keys : List String} {data other : PyDict} (same : SameUnder keys data other)
    (key : String) (listed : key ∈ keys) : PyDict.get data key = PyDict.get other key := by
  unfold PyDict.get
  rw [same key listed]

theorem SameUnder.mono {fewer : List String} (same : SameUnder keys data other)
    (sub : fewer ⊆ keys) : SameUnder fewer data other :=
  fun key listed => same key (sub listed)

theorem get?_setDefault (data : PyDict) (key other : String) (value : PyValue) :
    PyDict.get? (setDefault data key value) other =
      if other = key then some ((PyDict.get? data key).getD value) else PyDict.get? data other := by
  unfold setDefault
  cases found : PyDict.get? data key with
  | some held =>
    dsimp only
    split
    · next named => rw [named, found]; rfl
    · rfl
  | none =>
    dsimp only
    unfold PyDict.get? at *
    rw [List.lookup_append]
    split
    · next named =>
      subst named
      rw [found]
      simp
    · next distinct =>
      have differs : (other == key) = false := by simpa using distinct
      have missed : List.lookup other [(key, value)] = none := by
        rw [List.lookup_cons, differs]
        rfl
      rw [missed, Option.or_none]

theorem SameUnder.setDefault (same : SameUnder keys data other) (listed : key ∈ keys)
    (value : PyValue) :
    SameUnder keys (setDefault data key value) (setDefault other key value) := by
  intro name named
  rw [get?_setDefault, get?_setDefault, same key listed, same name named]

theorem SameUnder.firstPresent {names : List String} (same : SameUnder keys data other)
    (sub : names ⊆ keys) : firstPresent data names = firstPresent other names := by
  have tested : names.find? (fun key => !(PyDict.get data key).isNone) =
      names.find? fun key => !(PyDict.get other key).isNone := by
    induction names with
    | nil => rfl
    | cons name rest ih =>
      have rest_sub : rest ⊆ keys := fun key listed => sub (List.mem_cons_of_mem _ listed)
      rw [List.find?_cons, List.find?_cons, same.get name (sub List.mem_cons_self), ih rest_sub]
  unfold SavingsProjection.firstPresent
  rw [tested]
  split
  · next name found => exact same.get name (sub (List.mem_of_find?_eq_some found))
  · rfl

/-! ## Normalization -/

/-- The keys that the normalization and the strict model read. -/
def estimateKeys : List String := canonicalSavingsFields ++ "modelLocal" :: "timestamp_iso" ::
  markerKeys

def SameNormalized (keys : List String) : Except Refusal PyDict → Except Refusal PyDict → Prop
  | .ok data, .ok other => SameUnder keys data other
  | .error refusal, .error other => refusal = other
  | _, _ => False

theorem SameUnder.setAmounts {normalized more : PyDict} (same : SameUnder estimateKeys data other)
    (rest : SameUnder estimateKeys normalized more) :
    SameNormalized estimateKeys (setAmounts env data normalized) (setAmounts env other more) := by
  have cost : SavingsProjection.firstPresent data ["actual_cost_usd"] =
      SavingsProjection.firstPresent other ["actual_cost_usd"] := same.firstPresent (by decide)
  have savings : SavingsProjection.firstPresent data ["estimated_total_savings_usd"] =
      SavingsProjection.firstPresent other ["estimated_total_savings_usd"] :=
    same.firstPresent (by decide)
  unfold SavingsProjection.setAmounts
  rw [cost, savings]
  dsimp only
  split
  · exact rest
  · split
    · next localCost saved _ _ =>
      cases env.add localCost saved with
      | none => rfl
      | some cloudCost =>
        exact ((rest.setDefault (by decide) _).setDefault (by decide) _).setDefault
          (by decide) _
    · exact rest

theorem SameUnder.normalize (same : SameUnder estimateKeys data other) :
    SameNormalized estimateKeys (normalizeSavingsEstimatePayload env data)
      (normalizeSavingsEstimatePayload env other) := by
  have marked : (markerKeys.any fun key => (PyDict.get? data key).isSome) =
      markerKeys.any fun key => (PyDict.get? other key).isSome := by
    unfold markerKeys
    simp (disch := decide) only [List.any_cons, List.any_nil, same _]
  unfold normalizeSavingsEstimatePayload
  rw [same.get "model_local" (by decide), same.get "modelLocal" (by decide),
    same.get "actual_model_id" (by decide),
    same.get "counterfactual_model_id" (by decide),
    same.get "timestamp_iso" (by decide), marked]
  split
  · exact same
  · split
    · exact same
    · exact same.setAmounts (((same.setDefault (by decide) _).setDefault (by decide) _).setDefault
        (by decide) _)

theorem SameUnder.validateEvent (same : SameUnder canonicalSavingsFields data other) :
    validateEvent env data = validateEvent env other := by
  unfold SavingsProjection.validateEvent requiredTimestamp requiredText requiredAmount
  simp (disch := decide) only [same.get, same _]

/-! ## Routing -/

/-- The payload that `handle` works on. -/
def Delivery.popped (delivery : Delivery) : PyDict :=
  delivery.inputData.filter fun entry => entry.1 ∉ ["_db", "_event_type"]

theorem Delivery.popped_get? (delivery : Delivery) (plain : key ∉ ["_db", "_event_type"]) :
    PyDict.get? delivery.popped key = PyDict.get? delivery.payload key := by
  have other : (key == "_event_type") = false := by
    simp only [List.mem_cons, List.not_mem_nil, or_false, not_or] at plain
    simpa using plain.2
  have kept : decide (key ≠ "_event_type") = true := by simpa using other
  have dropped := get?_filter_key (fun name => decide (name ≠ "_event_type")) delivery.payload key
  have cut := get?_filter_key (fun name => decide (name ∉ ["_db", "_event_type"]))
    delivery.inputData key
  rw [if_pos kept] at dropped
  rw [if_pos (decide_eq_true plain)] at cut
  unfold Delivery.popped
  rw [cut, ← dropped]
  unfold Delivery.inputData PyDict.get?
  rw [List.lookup_cons, other]

theorem Delivery.popped_get (delivery : Delivery) (plain : key ∉ ["_db", "_event_type"]) :
    PyDict.get delivery.popped key = PyDict.get delivery.payload key := by
  unfold PyDict.get
  rw [delivery.popped_get? plain]

theorem Delivery.declared_popped (delivery : Delivery) :
    declared delivery.popped = declared delivery.payload := by
  have plain : ∀ key ∈ terminalKeys, key ∉ ["_db", "_event_type"] ∧ key ≠ "_event_type" := by
    decide
  unfold declared Delivery.popped Delivery.inputData
  rw [List.filter_filter, List.filter_cons_of_neg (by simp), List.filter_filter]
  apply List.filter_congr
  intro entry _
  cases known : decide (entry.1 ∈ terminalKeys) with
  | false => simp
  | true =>
    have facts := plain entry.1 (of_decide_eq_true known)
    simp only [Bool.true_and, decide_eq_true facts.1, decide_eq_true facts.2]

section

variable (env : SavingsEnv)

theorem Delivery.fromPayload_popped (delivery : Delivery) :
    fromPayload env delivery.popped = fromPayload env delivery.payload := by
  have timed : hasTimestamp delivery.popped = hasTimestamp delivery.payload := by
    unfold hasTimestamp
    simp (disch := decide) only [List.any_cons, List.any_nil, delivery.popped_get]
  unfold fromPayload envelopeTimestamp
  rw [delivery.declared_popped, timed, delivery.popped_get (by decide : "_envelope" ∉ _)]

theorem Delivery.fromCanonicalPayload_popped (delivery : Delivery) :
    fromCanonicalPayload env delivery.popped = fromCanonicalPayload env delivery.payload := by
  unfold fromCanonicalPayload canonicalCost
  simp (disch := decide) only [delivery.popped_get]

theorem Delivery.isDelegateSkill_popped (delivery : Delivery) :
    isDelegateSkillTerminalPayload delivery.popped =
      isDelegateSkillTerminalPayload delivery.payload := by
  unfold isDelegateSkillTerminalPayload
  simp (disch := decide) only [delivery.popped_get]

theorem Delivery.isCanonical_popped (delivery : Delivery) :
    isCanonicalDelegationSourcePayload delivery.popped =
      isCanonicalDelegationSourcePayload delivery.payload := by
  unfold isCanonicalDelegationSourcePayload
  simp (disch := decide) only [delivery.popped_get, delivery.popped_get?]

theorem eventType_delegateSkill : ∀ topic : Topic, ∀ eventType ∈ topic.eventTypes,
    decide (eventType ∈ delegateSkillTerminalEvents) = decide (topic.shape = .delegateSkill) := by
  intro topic
  cases topic <;> decide +kernel

theorem eventType_delegation : ∀ topic : Topic, ∀ eventType ∈ topic.eventTypes,
    isDelegationTerminalEvent eventType = decide (topic.shape = .delegation) := by
  intro topic
  cases topic <;> decide +kernel

theorem runner_shape : ∀ topic : Topic,
    ((topic.name = topicWith "delegate-skill-completed" ∨
      topic.name = topicWith "delegate-skill-failed") ↔ topic.shape = .delegateSkill) ∧
    ((topic.name ≠ "" ∧ (topic.name = topicWith "delegation-completed" ∨
      topic.name = topicWith "delegation-failed")) ↔ topic.shape = .delegation) := by
  intro topic
  cases topic <;> decide +kernel

/-! ## Rows -/

/-- What a handler hands to the table of a projection. -/
def projectionRow (row : ModelDelegateSkillSavingsProjection → SavingsRow)
    (made : Except Refusal (Option ModelDelegateSkillSavingsProjection)) : Option SavingsRow :=
  made.toOption.join.map row

theorem join_toOption_eq_some {made : Except Refusal (Option ModelDelegateSkillSavingsProjection)}
    {projection : ModelDelegateSkillSavingsProjection} :
    made.toOption.join = some projection ↔ made = .ok (some projection) := by
  cases made with
  | error refusal => simp [Except.toOption]
  | ok made => cases made <;> simp [Except.toOption]

def estimateEvent (normalized : Except Refusal PyDict) :
    Option ModelSavingsEstimatedEvent :=
  normalized.toOption.bind fun data => (validateEvent env data).toOption

/-- What `handle` hands to the table of a payload it takes for the shape. -/
def handlerRow (clock : Clock) (payload : PyDict) : Shape → Option SavingsRow
  | .delegateSkill => projectionRow (·.stampedRow) (delegateSkillProjection env clock payload)
  | .delegation => projectionRow (·.stampedRow) (canonicalProjection env clock payload)
  | .estimate =>
    (estimateEvent env (normalizeSavingsEstimatePayload env payload)).map (·.row)

/-- What `project_event` hands to the table of a payload on a topic of the shape. -/
def runnerRow (clock : Clock) (payload : PyDict) : Shape → Option SavingsRow
  | .delegateSkill => projectionRow (·.plainRow) (delegateSkillProjection env clock payload)
  | .delegation => projectionRow (·.plainRow) (canonicalProjection env clock payload)
  | .estimate => (readEstimate env clock payload).toOption

section

variable (held : HeldTenants)

theorem written_projectDelegateSkillSavings
    (made : Except Refusal (Option ModelDelegateSkillSavingsProjection)) :
    Outcome.written (projectDelegateSkillSavings held made) =
      (projectionRow (·.stampedRow) made).bind (upsert held) := by
  cases made with
  | error refusal => rfl
  | ok made =>
    cases made with
    | none => rfl
    | some projection => exact written_writeRow held _

theorem written_upsertProjection
    (made : Except Refusal (Option ModelDelegateSkillSavingsProjection)) :
    Outcome.written (upsertProjection held made) =
      (projectionRow (·.plainRow) made).bind (upsert held) := by
  cases made with
  | error refusal => rfl
  | ok made =>
    cases made with
    | none => rfl
    | some projection => exact written_writeRow held _

theorem written_projectEvent (delivery : Delivery) :
    Outcome.written (projectEvent env held delivery.popped) =
      ((estimateEvent env (normalizeSavingsEstimatePayload env delivery.payload)).map
        (·.row)).bind (upsert held) := by
  have kept : SameUnder estimateKeys (eventData delivery.popped) delivery.payload := by
    intro key listed
    have plain : (!"_".toList.isPrefixOf key.toList &&
        decide (key ∉ ["rows", "event_landed", "latency_ms"])) = true ∧
        key ∉ ["_db", "_event_type"] := by
      revert key
      decide +kernel
    have cut := get?_filter_key (fun name => !"_".toList.isPrefixOf name.toList &&
      decide (name ∉ ["rows", "event_landed", "latency_ms"])) delivery.popped key
    rw [if_pos plain.1, delivery.popped_get? plain.2] at cut
    exact cut
  have alike : SameNormalized estimateKeys
      (normalizeSavingsEstimatePayload env (eventData delivery.popped))
      (normalizeSavingsEstimatePayload env delivery.payload) := kept.normalize
  unfold projectEvent estimateEvent
  revert alike
  cases normalizeSavingsEstimatePayload env (eventData delivery.popped) with
  | error refusal =>
    cases normalizeSavingsEstimatePayload env delivery.payload with
    | error other => intro _; rfl
    | ok data => intro impossible; exact impossible.elim
  | ok normalized =>
    cases normalizeSavingsEstimatePayload env delivery.payload with
    | error other => intro impossible; exact impossible.elim
    | ok data =>
      intro alike
      have fields : SameUnder canonicalSavingsFields
          (normalized.filter fun entry => entry.1 ∈ canonicalSavingsFields) data := by
        intro key listed
        have cut := get?_filter_key (fun name => decide (name ∈ canonicalSavingsFields))
          normalized key
        rw [if_pos (decide_eq_true listed)] at cut
        exact cut.trans (alike key (List.mem_append_left _ listed))
      have same : validateEvent env
          (normalized.filter fun entry => entry.1 ∈ canonicalSavingsFields) =
          validateEvent env data := fields.validateEvent
      change Outcome.written ((validateEvent env
        (normalized.filter fun entry => entry.1 ∈ canonicalSavingsFields)).bind
          fun event => writeRow held event.row) =
        (((validateEvent env data).toOption.map (·.row)).bind (upsert held))
      rw [same]
      cases validateEvent env data with
      | error refusal => rfl
      | ok event => exact written_writeRow held _

theorem written_handle (clock : Clock) (delivery : Delivery) :
    Outcome.written (handle env held clock delivery.inputData) =
      (handlerRow env clock delivery.payload
        (handleShape delivery.topic delivery.payload)).bind (upsert held) := by
  have typed : env.str ((PyDict.get? delivery.inputData "_event_type").getD (.str "")) =
      delivery.eventType := rfl
  have skill := eventType_delegateSkill delivery.topic delivery.eventType delivery.named
  have terminal := eventType_delegation delivery.topic delivery.eventType delivery.named
  change Outcome.written
    (if (decide (env.str ((PyDict.get? delivery.inputData "_event_type").getD (.str "")) ∈
          delegateSkillTerminalEvents) || isDelegateSkillTerminalPayload delivery.popped) = true then
      projectDelegateSkillSavings held (delegateSkillProjection env clock delivery.popped)
    else if (isDelegationTerminalEvent
          (env.str ((PyDict.get? delivery.inputData "_event_type").getD (.str ""))) ||
        isCanonicalDelegationSourcePayload delivery.popped) = true then
      projectDelegateSkillSavings held (canonicalProjection env clock delivery.popped)
    else projectEvent env held delivery.popped) = _
  rw [typed, skill, terminal, delivery.isDelegateSkill_popped, delivery.isCanonical_popped]
  unfold handleShape
  simp only [Bool.or_eq_true, decide_eq_true_eq]
  split
  · rw [written_projectDelegateSkillSavings]
    unfold handlerRow delegateSkillProjection
    rw [delivery.fromPayload_popped]
  · split
    · rw [written_projectDelegateSkillSavings]
      unfold handlerRow canonicalProjection
      rw [delivery.fromCanonicalPayload_popped]
    · exact written_projectEvent env held delivery

theorem written_runnerProjectEvent (clock : Clock) (topic : Topic) (payload : PyDict) :
    Outcome.written (runnerProjectEvent env held clock topic.name payload) =
      (runnerRow env clock payload topic.shape).bind (upsert held) := by
  obtain ⟨skill, terminal⟩ := runner_shape topic
  unfold runnerProjectEvent
  split
  · next named =>
    rw [skill.1 named]
    unfold runnerProjectDelegateSkillSavings runnerRow delegateSkillProjection
    cases fromPayload env payload with
    | none => rfl
    | some event => exact written_upsertProjection held _
  · next other =>
    split
    · next named =>
      rw [terminal.1 named]
      unfold runnerProjectCanonicalDelegationSavings runnerRow canonicalProjection
      cases fromCanonicalPayload env payload with
      | error refusal => cases refusal <;> rfl
      | ok source => exact written_upsertProjection held _
    · next neither =>
      have estimate : topic.shape = .estimate := by
        cases found : topic.shape with
        | delegateSkill => exact absurd (skill.2 found) other
        | delegation => exact absurd (terminal.2 found) neither
        | estimate => rfl
      rw [estimate]
      unfold runnerRow
      cases readEstimate env clock payload with
      | error refusal => rfl
      | ok row => exact written_writeRow held _

end

end

/-! ## Comparison of upserts -/

/-- The table takes the row. -/
def SavingsRow.Taken (row : SavingsRow) : Prop :=
  row.eventTimestamp.astimezoneUtc ≠ none ∧ row.amounts ≠ none

instance (row : SavingsRow) : Decidable row.Taken :=
  inferInstanceAs (Decidable (_ ∧ _))

/-- The tenant that the row names is the one the table would keep anyway. -/
def TenantKept (held : HeldTenants) (row : SavingsRow) : Prop :=
  ∀ moment ∈ row.eventTimestamp.astimezoneUtc, ∀ tenant ∈ row.tenantId,
    tenant = keptTenant held (row.key moment)

structure SameColumns (held : HeldTenants) (row other : SavingsRow) : Prop where
  time : row.eventTimestamp.astimezoneUtc = other.eventTimestamp.astimezoneUtc
  session : row.sessionId = other.sessionId
  modelLocal : row.modelLocal = other.modelLocal
  baseline : row.modelCloudBaseline = other.modelCloudBaseline
  amounts : row.amounts = other.amounts
  repo : row.repoName = other.repoName
  machine : row.machineId = other.machineId
  tenant : TenantKept held row

variable {row : SavingsRow}

theorem upsert_eq_none_iff {held : HeldTenants} : upsert held row = none ↔ ¬ row.Taken := by
  rw [upsert_eq_none]
  unfold SavingsRow.Taken
  rw [not_and_or, not_not, not_not]

theorem astimezoneUtc_of_instant {other : PyDatetime} {a b : PyDatetime}
    (first : moment.astimezoneUtc = some a) (second : other.astimezoneUtc = some b)
    (same : a.instant = b.instant) : a = b := by
  unfold PyDatetime.astimezoneUtc at first second
  split at first
  · split at second
    · cases first
      cases second
      have clocks : moment.instant = other.instant := by simpa [PyDatetime.instant] using same
      rw [clocks]
    · cases second
  · cases first

theorem upsert_eq_upsert_iff {held : HeldTenants} {other : SavingsRow}
    (plain : other.tenantId = none) :
    upsert held row = upsert held other ↔
      (¬ row.Taken ∧ ¬ other.Taken) ∨ (row.Taken ∧ SameColumns held row other) := by
  constructor
  · intro same
    cases found : upsert held row with
    | none =>
      rw [found] at same
      exact Or.inl ⟨upsert_eq_none_iff.1 found, upsert_eq_none_iff.1 same.symm⟩
    | some stored =>
      right
      have taken : row.Taken := by
        by_contra refused
        rw [upsert_eq_none_iff.2 refused] at found
        cases found
      refine ⟨taken, ?_⟩
      rw [found] at same
      obtain ⟨moment, amounts, time, checked, left⟩ := upsert_eq_some.1 found
      obtain ⟨moment', amounts', time', checked', right⟩ := upsert_eq_some.1 same.symm
      rw [left, StoredRow.mk.injEq, plain] at right
      obtain ⟨keys, sums, repos, machines, tenants⟩ := right
      have fields := keys
      unfold SavingsRow.key at fields
      rw [ConflictKey.mk.injEq] at fields
      have moments : moment = moment' := astimezoneUtc_of_instant time time' fields.2.1
      exact
        { time := by rw [time, time', moments]
          session := fields.1
          modelLocal := fields.2.2.1
          baseline := fields.2.2.2
          amounts := by rw [checked, checked', sums]
          repo := repos
          machine := machines
          tenant := by
            intro read reading tenant named
            rw [Option.mem_def, time, Option.some.injEq] at reading
            rw [Option.mem_def] at named
            rw [named, Option.getD_some, Option.getD_none, ← keys, reading] at tenants
            exact tenants }
  · intro cases_of
    rcases cases_of with ⟨refused, missed⟩ | ⟨taken, same⟩
    · rw [upsert_eq_none_iff.2 refused, upsert_eq_none_iff.2 missed]
    · -- the named tenant is the kept one, so the row might as well not name it
      have unnamed : upsert held row = upsert held { row with tenantId := none } := by
        unfold upsert
        cases time : row.eventTimestamp.astimezoneUtc with
        | none => rfl
        | some moment =>
          have kept := same.tenant moment time
          cases named : row.tenantId with
          | none => rfl
          | some tenant =>
            have held_tenant := kept tenant named
            unfold SavingsRow.key at held_tenant
            simp [SavingsRow.amounts, SavingsRow.key, held_tenant]
      rw [unnamed]
      exact upsert_congr same.time same.session same.modelLocal same.baseline same.amounts
        same.repo same.machine plain.symm

/-! ## Estimates -/

theorem astimezoneUtc_idem {converted : PyDatetime}
    (conversion : moment.astimezoneUtc = some converted) :
    converted.astimezoneUtc = some converted := by
  unfold PyDatetime.astimezoneUtc at conversion
  split at conversion
  · next inside =>
    cases conversion
    unfold PyDatetime.astimezoneUtc
    have same : PyDatetime.instant ⟨moment.instant, some 0⟩ = moment.instant := by
      simp [PyDatetime.instant]
    rw [same, if_pos inside]
  · cases conversion

theorem requireElse_eq_ok {condition : Bool} {reason : String} {done : Unit} :
    requireElse condition reason = .ok done ↔ condition = true := by
  unfold requireElse
  split <;> simp_all

/-- What the runner read in a normalized estimate that it hands on. -/
structure RunnerRead (env : SavingsEnv) (clock : Clock) (data : PyDict) (row : SavingsRow) :
    Prop where
  session : row.sessionId = strippedText env data "session_id" "sessionId"
  session_named : row.sessionId ≠ ""
  moment : readMoment env clock data = .ok row.eventTimestamp
  modelLocal : row.modelLocal = strippedText env data "model_local" "modelLocal"
  modelLocal_named : row.modelLocal ≠ ""
  baseline : row.modelCloudBaseline =
    strippedText env data "model_cloud_baseline" "modelCloudBaseline"
  baseline_named : row.modelCloudBaseline ≠ ""
  amounts : readAmounts env data = .ok (row.localCostUsd, row.cloudCostUsd, row.savingsUsd)
  repo : row.repoName =
    strOrNone env (pyOr (PyDict.get data "repo_name") (PyDict.get data "repoName"))
  machine : row.machineId =
    strOrNone env (pyOr (PyDict.get data "machine_id") (PyDict.get data "machineId"))
  tenant : row.tenantId = none

theorem readNormalized_eq_ok {clock : Clock} :
    readNormalized env clock data = .ok row ↔ RunnerRead env clock data row := by
  unfold readNormalized
  simp only [Raising.bind_eq_ok, requireElse_eq_ok, decide_eq_true_eq]
  constructor
  · rintro ⟨_, session, moment, time, _, models, amounts, sums, returned⟩
    cases returned
    exact
      { session := rfl
        session_named := session
        moment := time
        modelLocal := rfl
        modelLocal_named := models.1
        baseline := rfl
        baseline_named := models.2
        amounts := sums
        repo := rfl
        machine := rfl
        tenant := rfl }
  · intro read
    refine ⟨(), read.session ▸ read.session_named, row.eventTimestamp, read.moment, (),
      ⟨read.modelLocal ▸ read.modelLocal_named, read.baseline ▸ read.baseline_named⟩,
      (row.localCostUsd, row.cloudCostUsd, row.savingsUsd), read.amounts, ?_⟩
    rw [← read.session, ← read.modelLocal, ← read.baseline, ← read.repo, ← read.machine,
      ← read.tenant]
    rfl

theorem readMoment_utc {clock : Clock} (read : readMoment env clock data = .ok moment) :
    moment.astimezoneUtc = some moment := by
  obtain ⟨_, _, rest⟩ := Raising.bind_eq_ok.1 read
  split at rest
  · cases rest
  · next conversion =>
    cases rest
    exact astimezoneUtc_idem conversion

/-! ## Canonical terminals -/

section

variable (env : SavingsEnv) (payload : PyDict)

def namedTime : PyValue := pyOr (PyDict.get payload "timestamp") (PyDict.get payload "emitted_at")

structure HasSaving (counterfactual : ModelPremiumCounterfactual) (localCost savings : ℚ) :
    Prop where
  correlated : (env.validateUuid (PyDict.get payload "correlation_id")).isSome
  task : ((pyOr (PyDict.get payload "task_type") (.str "unknown")).asStr?.bind
    NonEmptyString.validate?).isSome
  tenant : (optionalField PyValue.asStr? (PyDict.get payload "tenant_id")).isSome
  passed : (PyDict.get payload "quality_passed").truthy = true
  model : env.str (pyOr (PyDict.get payload "model_used") (.str "")) ≠ ""
  baseline : env.buildPremiumCounterfactual
    (coerceInt [PyDict.get payload "cumulative_input_tokens", PyDict.get payload "prompt_tokens"])
    (coerceInt [PyDict.get payload "cumulative_output_tokens",
      PyDict.get payload "completion_tokens"]) = some counterfactual
  cost : canonicalCost payload = .ok (.finite localCost)
  difference : env.sub (.finite counterfactual.counterfactualCostUsd) (.finite localCost) =
    some (.finite savings)
  positive : 0 < savings
  taken : (storedAmounts (.finite localCost) (.finite counterfactual.counterfactualCostUsd)
    (.finite savings)).isSome

end

/-- The projection of a saving against the counterfactual. -/
def savingProjection (env : SavingsEnv) (clock : Clock)
    (counterfactual : ModelPremiumCounterfactual) (localCost savings : ℚ)
    (timestamp : Option PyDatetime) (sessionId modelLocal : String) (tenantId : Option String) :
    ModelDelegateSkillSavingsProjection where
  eventTimestamp := replaceMicrosecond (timestamp.getD clock.now)
  sessionId := sessionId
  modelLocal := modelLocal
  modelCloudBaseline := textOrText counterfactual.model env.baselineModel
  localCostUsd := .finite localCost
  cloudCostUsd := .finite counterfactual.counterfactualCostUsd
  savingsUsd := .finite savings
  repoName := none
  machineId := none
  tenantId := tenantId

variable {payload : PyDict} {localCost savings : ℚ} {source : ModelTaskDelegatedSavingsSource}
  {clock : Clock} {projection : ModelDelegateSkillSavingsProjection}
  {counterfactual : ModelPremiumCounterfactual}

structure SourceRead (env : SavingsEnv) (payload : PyDict)
    (source : ModelTaskDelegatedSavingsSource) : Prop where
  correlationId : env.validateUuid (PyDict.get payload "correlation_id") =
    some source.correlationId
  task : (pyOr (PyDict.get payload "task_type") (.str "unknown")).asStr?.bind
    NonEmptyString.validate? = some source.taskType
  delegatedTo : source.delegatedTo = env.str (pyOr (PyDict.get payload "model_used") (.str ""))
  modelName : source.modelName = env.str (pyOr (PyDict.get payload "model_used") (.str ""))
  cost : canonicalCost payload = .ok (.finite source.costUsd)
  baseline : source.premiumCounterfactual =
    if (PyDict.get payload "quality_passed").truthy then
      env.buildPremiumCounterfactual
        (coerceInt [PyDict.get payload "cumulative_input_tokens",
          PyDict.get payload "prompt_tokens"])
        (coerceInt [PyDict.get payload "cumulative_output_tokens",
          PyDict.get payload "completion_tokens"])
    else none
  timestamp : optionalField env.awareDatetime (namedTime payload) = some source.timestamp
  tenantId : optionalField PyValue.asStr? (PyDict.get payload "tenant_id") = some source.tenantId

theorem canonicalCost_chosen {cost : PyFloat} (read : canonicalCost payload = .ok cost) :
    ∃ cumulative chosen, floatOf (PyDict.get payload "cumulative_attempt_cost") = .ok cumulative ∧
      cost = (chosen.filter fun cost => PyFloat.le (.finite 0) cost).getD (.finite 0) ∧
      ((chosen = cumulative ∧ ∃ amount ∈ cumulative, amount.lt (.finite 0) = false) ∨
        ((∀ amount ∈ cumulative, amount.lt (.finite 0) = true) ∧
          floatOf (PyDict.get payload "final_attempt_cost") = .ok chosen)) := by
  obtain ⟨cumulative, first, read⟩ := Raising.bind_eq_ok.1 read
  refine ⟨cumulative, ?_⟩
  cases kept : cumulative.filter fun cost => !cost.lt (.finite 0) with
  | some amount =>
    rw [kept] at read
    obtain ⟨held, bound⟩ := Option.filter_eq_some_iff.1 kept
    refine ⟨some amount, first, (Except.ok.inj read).symm, Or.inl ⟨held.symm, amount, held, ?_⟩⟩
    exact Bool.not_eq_true' _ ▸ bound
  | none =>
    rw [kept] at read
    obtain ⟨chosen, last, read⟩ := Raising.bind_eq_ok.1 read
    refine ⟨chosen, first, (Except.ok.inj read).symm, Or.inr ⟨?_, last⟩⟩
    intro amount held
    have dropped := Option.filter_eq_none_iff.1 kept amount held
    simpa using dropped

theorem canonicalCost_nonneg {cost : ℚ} (read : canonicalCost payload = .ok (.finite cost)) :
    0 ≤ cost := by
  obtain ⟨_, chosen, _, kept, _⟩ := canonicalCost_chosen read
  cases usable : chosen.filter fun cost => PyFloat.le (.finite 0) cost with
  | none =>
    rw [usable, Option.getD_none] at kept
    exact (PyFloat.finite.inj kept).ge
  | some amount =>
    rw [usable, Option.getD_some] at kept
    subst kept
    have bound := (Option.filter_eq_some_iff.1 usable).2
    rwa [PyFloat.le_finite, decide_eq_true_eq] at bound

theorem fromCanonicalPayload_eq_ok :
    fromCanonicalPayload env payload = .ok source ↔ SourceRead env payload source := by
  unfold fromCanonicalPayload
  constructor
  · intro read
    obtain ⟨cost, costRead, read⟩ := Raising.bind_eq_ok.1 read
    dsimp only at read
    split at read
    · next validated =>
      cases read
      simp only [Option.bind_eq_bind, Option.bind_eq_some_iff] at validated
      obtain ⟨correlationId, correlated, task, text, taskType, valid, timestamp, named, tenantId,
        tenant, fields⟩ := validated
      cases cost with
      | nan | posInf | negInf => cases fields
      | finite cost =>
        have nonneg := canonicalCost_nonneg costRead
        dsimp only at fields
        rw [dif_pos nonneg] at fields
        cases fields
        exact {
          correlationId := correlated
          task := by rw [text, Option.bind_some, valid]
          delegatedTo := rfl
          modelName := rfl
          cost := costRead
          baseline := rfl
          timestamp := named
          tenantId := tenant }
    · cases read
  · intro read
    obtain ⟨task, text, valid⟩ := Option.bind_eq_some_iff.1 read.task
    have named := read.timestamp
    unfold namedTime at named
    rw [read.cost]
    simp only [Raising.bind_ok]
    rw [read.correlationId, text, Option.bind_eq_bind, Option.bind_some, Option.bind_eq_bind,
      Option.bind_some, Option.bind_eq_bind, valid, Option.bind_some, Option.bind_eq_bind, named,
      Option.bind_some, read.tenantId, Option.bind_some, dif_pos source.cost_nonneg,
      ← read.baseline, ← read.delegatedTo]
    have named : source.delegatedTo = source.modelName :=
      read.delegatedTo.trans read.modelName.symm
    exact congrArg Except.ok
      (ModelTaskDelegatedSavingsSource.ext rfl rfl rfl named rfl rfl rfl rfl)

theorem checkAmounts_difference {cloudCost : ℚ}
    (difference : env.sub (.finite cloudCost) (.finite localCost) = some (.finite savings)) :
    checkAmounts env (.finite localCost) (.finite cloudCost) (.finite savings) = .ok () := by
  have finite : ((PyFloat.finite localCost).isFinite && (PyFloat.finite cloudCost).isFinite &&
      (PyFloat.finite savings).isFinite) = true := rfl
  unfold checkAmounts
  rw [if_pos finite, difference]
  exact if_pos rfl

theorem fromTaskDelegatedEvent_eq_some :
    fromTaskDelegatedEvent env clock source = .ok (some projection) ↔
      ∃ counterfactual savings, source.premiumCounterfactual = some counterfactual ∧
        env.sub (.finite counterfactual.counterfactualCostUsd) (.finite source.costUsd) =
          some (.finite savings) ∧ 0 < savings ∧
        textOrText source.modelName source.delegatedTo ≠ "" ∧
        projection = savingProjection env clock counterfactual source.costUsd savings
          source.timestamp source.correlationId (textOrText source.modelName source.delegatedTo)
          source.tenantId := by
  unfold fromTaskDelegatedEvent
  constructor
  · intro made
    cases pinned : source.premiumCounterfactual with
    | none =>
      rw [pinned] at made
      cases made
    | some counterfactual =>
      rw [pinned] at made
      dsimp only at made
      cases difference : env.sub (.finite counterfactual.counterfactualCostUsd)
          (.finite source.costUsd) with
      | none =>
        rw [difference] at made
        cases made
      | some savings =>
        rw [difference] at made
        dsimp only at made
        split_ifs at made with unsaved unnamed
        · cases made
        · cases made
        · obtain ⟨_, checked, made⟩ := Raising.map_eq_ok.1 made
          cases savings with
          | nan | posInf | negInf => cases checked
          | finite savings =>
            rw [PyFloat.le_finite, decide_eq_true_eq, not_le] at unsaved
            exact ⟨counterfactual, savings, rfl, difference, unsaved, unnamed,
              (Option.some.inj made).symm⟩
  · rintro ⟨counterfactual, savings, pinned, difference, positive, named, rfl⟩
    have saved : ¬ (PyFloat.finite savings).le (.finite 0) = true := by
      rw [PyFloat.le_finite, decide_eq_true_eq]
      exact not_le.2 positive
    rw [pinned]
    dsimp only
    rw [difference]
    dsimp only
    rw [if_neg saved, if_neg named, checkAmounts_difference difference]
    rfl

theorem banked_projection :
    canonicalProjection env clock payload = .ok (some projection) ↔
      ∃ source, SourceRead env payload source ∧
        fromTaskDelegatedEvent env clock source = .ok (some projection) := by
  unfold canonicalProjection
  rw [Raising.bind_eq_ok]
  simp only [fromCanonicalPayload_eq_ok]

theorem textOrText_self (text : String) : textOrText text text = text := ite_id _

/-- What a canonical payload says of the model it used. -/
def usedModel (env : SavingsEnv) (payload : PyDict) : String :=
  env.str (pyOr (PyDict.get payload "model_used") (.str ""))

section

variable {timestamp : Option PyDatetime} {sessionId : String}

theorem HasSaving.projected (saving : HasSaving env payload counterfactual localCost savings)
    (named : optionalField env.awareDatetime (namedTime payload) = some timestamp)
    (correlated : env.validateUuid (PyDict.get payload "correlation_id") = some sessionId)
    (clock : Clock) : ∃ tenantId, canonicalProjection env clock payload = .ok (some
      (savingProjection env clock counterfactual localCost savings timestamp sessionId
        (usedModel env payload) tenantId)) := by
  obtain ⟨taskType, task⟩ := Option.isSome_iff_exists.1 saving.task
  obtain ⟨tenantId, tenant⟩ := Option.isSome_iff_exists.1 saving.tenant
  refine ⟨tenantId, banked_projection.2 ⟨⟨sessionId, taskType, _, _, localCost, some counterfactual,
    timestamp, tenantId, canonicalCost_nonneg saving.cost⟩, ⟨correlated, task, rfl, rfl,
      saving.cost, ?_, named, tenant⟩, fromTaskDelegatedEvent_eq_some.2
      ⟨counterfactual, savings, rfl, saving.difference, saving.positive, ?_, ?_⟩⟩⟩
  · rw [if_pos saving.passed, saving.baseline]
  · rw [textOrText_self]
    exact saving.model
  · rw [textOrText_self]
    rfl

theorem exists_saving (made : canonicalProjection env clock payload = .ok (some projection))
    (taken : projection.stampedRow.amounts ≠ none) :
    ∃ counterfactual localCost savings timestamp sessionId tenantId,
      HasSaving env payload counterfactual localCost savings ∧
      optionalField env.awareDatetime (namedTime payload) = some timestamp ∧
      env.validateUuid (PyDict.get payload "correlation_id") = some sessionId ∧
      projection = savingProjection env clock counterfactual localCost savings timestamp sessionId
        (usedModel env payload) tenantId := by
  obtain ⟨source, read, banked⟩ := banked_projection.1 made
  obtain ⟨counterfactual, savings, pinned, difference, positive, named, rfl⟩ :=
    fromTaskDelegatedEvent_eq_some.1 banked
  rw [read.modelName, read.delegatedTo, textOrText_self] at named
  have baseline := pinned.symm.trans read.baseline
  split_ifs at baseline with passed
  refine ⟨counterfactual, source.costUsd, savings, source.timestamp, _, source.tenantId,
    ⟨?_, ?_, ?_, passed, named, baseline.symm, read.cost, difference, positive,
      Option.isSome_iff_ne_none.2 taken⟩, read.timestamp, read.correlationId, ?_⟩
  · exact Option.isSome_iff_exists.2 ⟨_, read.correlationId⟩
  · exact Option.isSome_iff_exists.2 ⟨_, read.task⟩
  · exact Option.isSome_iff_exists.2 ⟨_, read.tenantId⟩
  · rw [read.modelName, read.delegatedTo, textOrText_self]
    rfl

end

end OmniMarket.SavingsProjection
