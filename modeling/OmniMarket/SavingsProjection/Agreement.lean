import OmniMarket.SavingsProjection.Reading

/-!
# Agreement of the two savings handlers

Both handlers project one payload, each at its own moment. They agree when the table holds the same
row after either, and a payload that one refuses is not written by the other.
-/

namespace OmniMarket.SavingsProjection

variable {held : HeldTenants}

open PyText
variable {row : SavingsRow}

/-! ## Agreement -/

/-- The two handlers made the same of a payload. -/
structure PathsAgree (sync async : Outcome) : Prop where
  rows : sync.written = async.written
  syncRefused : ∀ refusal, sync = .error refusal → async.written = none
  asyncRefused : ∀ refusal, async = .error refusal → sync.written = none

theorem pathsAgree_iff_written {sync async : Outcome} :
    PathsAgree sync async ↔ sync.written = async.written := by
  constructor
  · intro agree
    exact agree.rows
  · intro rows
    refine ⟨rows, ?_, ?_⟩
    · intro refusal refused
      rw [← rows, refused, written_error]
    · intro refusal refused
      rw [rows, refused, written_error]

/-- Two readings of the clock within one second. -/
def SameSecond (clock other : Clock) : Prop := clock.micros / 1000000 = other.micros / 1000000

instance (clock other : Clock) : Decidable (SameSecond clock other) :=
  inferInstanceAs (Decidable (_ = _))

section

variable (env : SavingsEnv) (held : HeldTenants) (clock other : Clock)

/-- A delegate-skill payload that both handlers read alike: a row that the table takes names no
other tenant than the table keeps, and its time is not left to the clocks. -/
def DelegateSkillAlike (payload : PyDict) : Prop :=
  ∀ event, fromPayload env payload = some event →
    ∀ projection, fromTerminalEvent env clock event = .ok (some projection) →
      projection.stampedRow.Taken →
        TenantKept held projection.stampedRow ∧ (event.emittedAt = none → SameSecond clock other)

def DelegationAlike (payload : PyDict) : Prop :=
  ∀ event, fromCanonicalPayload env payload = .ok event →
    ∀ projection, fromTaskDelegatedEvent env clock event = .ok (some projection) →
      projection.stampedRow.Taken →
        TenantKept held projection.stampedRow ∧ (event.timestamp = none → SameSecond clock other)

/-- The amounts that the runner reads and the table takes. -/
def runnerAmounts (data : PyDict) : Option StoredAmounts :=
  (readAmounts env data).toOption.bind fun amounts =>
    storedAmounts amounts.1 amounts.2.1 amounts.2.2

/-- An estimate that the runner does not write: a blank text, a time without an offset, or amounts
that are no numbers, do not match or do not fit the table. -/
def RunnerRefuses (data : PyDict) : Prop :=
  strippedText env data "session_id" "sessionId" = "" ∨
    strippedText env data "model_local" "modelLocal" = "" ∨
    strippedText env data "model_cloud_baseline" "modelCloudBaseline" = "" ∨
    (readMoment env other data).toOption = none ∨ runnerAmounts env data = none

/-- A row whose columns the runner reads in an estimate. -/
structure LookedUp (data : PyDict) (row : SavingsRow) : Prop where
  passes : ¬ RunnerRefuses env other data
  moment : (readMoment env other data).toOption = row.eventTimestamp.astimezoneUtc
  session : strippedText env data "session_id" "sessionId" = row.sessionId
  modelLocal : strippedText env data "model_local" "modelLocal" = row.modelLocal
  baseline : strippedText env data "model_cloud_baseline" "modelCloudBaseline" =
    row.modelCloudBaseline
  amounts : runnerAmounts env data = row.amounts
  repo : strOrNone env (pyOr (PyDict.get data "repo_name") (PyDict.get data "repoName")) =
    row.repoName
  machine : strOrNone env (pyOr (PyDict.get data "machine_id") (PyDict.get data "machineId")) =
    row.machineId
  tenant : TenantKept held row

/-- An estimate: the runner reads the columns of an event that the table takes, and refuses the
estimate when there is none. -/
def EstimateAlike (payload : PyDict) : Prop :=
  ∀ data, normalizeSavingsEstimatePayload env payload = .ok data →
    (∀ event, validateEvent env data = .ok event → event.row.Taken →
      LookedUp env held other data event.row) ∧
    ((∀ event, validateEvent env data = .ok event → ¬ event.row.Taken) →
      RunnerRefuses env other data)

/-- A payload on the topic of the estimates that `handle` takes for a terminal: the runner reads the
columns of a projection that the table takes, and refuses the payload when there is none. -/
def LookupsAlike (made : Except Refusal (Option ModelDelegateSkillSavingsProjection))
    (payload : PyDict) : Prop :=
  (∀ projection, made = .ok (some projection) → projection.stampedRow.Taken →
    ∃ data, normalizeSavingsEstimatePayload env payload = .ok data ∧
      LookedUp env held other data projection.stampedRow) ∧
  ((∀ projection, made = .ok (some projection) → ¬ projection.stampedRow.Taken) →
    ∀ data, normalizeSavingsEstimatePayload env payload = .ok data → RunnerRefuses env other data)

/-- A canonical terminal with a saving and a time. -/
structure Saves (payload : PyDict) (counterfactual : ModelPremiumCounterfactual)
    (localCost savings : ℚ) (moment : PyDatetime) : Prop where
  saving : HasSaving env payload counterfactual localCost savings
  timed : ∃ timestamp, optionalField env.awareDatetime (namedTime payload) = some timestamp ∧
    (replaceMicrosecond (timestamp.getD other.now)).astimezoneUtc = some moment

/-- A row whose columns the canonical terminal names. -/
structure SavedAs (payload : PyDict) (counterfactual : ModelPremiumCounterfactual)
    (localCost savings : ℚ) (row : SavingsRow) : Prop where
  saves : ∃ moment, row.eventTimestamp.astimezoneUtc = some moment ∧
    Saves env other payload counterfactual localCost savings moment
  session : env.validateUuid (PyDict.get payload "correlation_id") = some row.sessionId
  modelLocal : row.modelLocal = usedModel env payload
  baseline : row.modelCloudBaseline = textOrText counterfactual.model env.baselineModel
  amounts : row.amounts = storedAmounts (.finite localCost)
    (.finite counterfactual.counterfactualCostUsd) (.finite savings)
  repo : row.repoName = none
  machine : row.machineId = none
  tenant : TenantKept held row

/-- A payload on a delegation topic that `handle` takes for a delegate-skill terminal: it names the
columns of a projection that the table takes, and has no saving when there is none. -/
def CanonicalAlike (payload : PyDict) : Prop :=
  (∀ projection, delegateSkillProjection env clock payload = .ok (some projection) →
    projection.stampedRow.Taken → ∃ counterfactual localCost savings,
      SavedAs env held other payload counterfactual localCost savings projection.stampedRow) ∧
  ((∀ projection, delegateSkillProjection env clock payload = .ok (some projection) →
    ¬ projection.stampedRow.Taken) → ∀ counterfactual localCost savings moment,
      ¬ Saves env other payload counterfactual localCost savings moment)

/-- The condition under which the handlers agree, by the topic's shape and the one that `handle`
takes the payload for. -/
def Alike (topic : Topic) (payload : PyDict) : Prop :=
  match topic.shape, handleShape topic payload with
  | .delegateSkill, _ => DelegateSkillAlike env held clock other payload
  | .delegation, .delegateSkill => CanonicalAlike env held clock other payload
  | .delegation, _ => DelegationAlike env held clock other payload
  | .estimate, .delegateSkill =>
    LookupsAlike env held other (delegateSkillProjection env clock payload) payload
  | .estimate, .delegation =>
    LookupsAlike env held other (canonicalProjection env clock payload) payload
  | .estimate, .estimate => EstimateAlike env held other payload

end

theorem handleShape_delegation {topic : Topic} {payload : PyDict}
    (own : topic.shape = .delegation) : handleShape topic payload ≠ .estimate := by
  unfold handleShape
  rw [own]
  split <;> simp

theorem toOption_eq_some {α : Type} {read : Except Refusal α} {value : α} :
    read.toOption = some value ↔ read = .ok value := by
  cases read <;> simp [Except.toOption]

theorem runnerRow_tenantId {env : SavingsEnv} {clock : Clock} {payload : PyDict} {shape : Shape}
    (handed : runnerRow env clock payload shape = some row) : row.tenantId = none := by
  cases shape with
  | delegateSkill | delegation =>
    obtain ⟨projection, _, rfl⟩ := Option.map_eq_some_iff.1 handed
    rfl
  | estimate =>
    obtain ⟨data, _, read⟩ := Raising.bind_eq_ok.1 (toOption_eq_some.1 handed)
    exact (readNormalized_eq_ok.1 read).tenant

theorem bind_upsert_eq_iff {row runner : Option SavingsRow}
    (plain : ∀ second ∈ runner, second.tenantId = none) :
    row.bind (upsert held) = runner.bind (upsert held) ↔
      (∀ first ∈ row, first.Taken → ∃ second ∈ runner, SameColumns held first second) ∧
      ((∀ first ∈ row, ¬ first.Taken) → ∀ second ∈ runner, ¬ second.Taken) := by
  cases row with
  | none =>
    cases runner with
    | none => simp
    | some second =>
      rw [Option.bind_none, Option.bind_some, eq_comm, upsert_eq_none_iff]
      simp
  | some first =>
    cases runner with
    | none =>
      rw [Option.bind_none, Option.bind_some, upsert_eq_none_iff]
      simp
    | some second =>
      rw [Option.bind_some, Option.bind_some, upsert_eq_upsert_iff (plain second rfl)]
      by_cases taken : first.Taken <;> simp [taken]

theorem forall_mem_map_toOption {α β : Type} {made : Except Refusal α} {column : α → β}
    {holds : β → Prop} : (∀ value ∈ made.toOption.map column, holds value) ↔
      ∀ value, made = .ok value → holds (column value) := by
  cases made <;> simp [Except.toOption]

section

variable {columns : ModelDelegateSkillSavingsProjection → SavingsRow}
  {made : Except Refusal (Option ModelDelegateSkillSavingsProjection)}

theorem mem_projectionRow :
    row ∈ projectionRow columns made ↔
      ∃ projection, made = .ok (some projection) ∧ columns projection = row := by
  unfold projectionRow
  simp only [Option.mem_def, Option.map_eq_some_iff, join_toOption_eq_some]

theorem forall_mem_projectionRow {holds : SavingsRow → Prop} :
    (∀ row ∈ projectionRow columns made, holds row) ↔
      ∀ projection, made = .ok (some projection) → holds (columns projection) := by
  simp only [mem_projectionRow, forall_exists_index, and_imp]
  exact ⟨fun each projection found => each _ projection found rfl,
    fun each _ projection found same => same ▸ each projection found⟩

end

/-! ## Projections at two moments -/

/-- The projection at another reading of the clock; `own` is the time of the event. -/
def ModelDelegateSkillSavingsProjection.stampedAt (own : Option PyDatetime) (clock : Clock)
    (projection : ModelDelegateSkillSavingsProjection) : ModelDelegateSkillSavingsProjection :=
  { projection with eventTimestamp := replaceMicrosecond (own.getD clock.now) }

theorem fromTerminalEvent_clock (env : SavingsEnv) (clock other : Clock)
    (event : ModelDelegateSkillTerminalProjection) :
    fromTerminalEvent env other event =
      (fromTerminalEvent env clock event).map (Option.map (·.stampedAt event.emittedAt other)) := by
  unfold fromTerminalEvent
  dsimp only
  split
  · rfl
  · split
    · rfl
    · cases env.add event.costUsd event.costSavingsUsd with
      | none => rfl
      | some cloud =>
        dsimp only
        cases checkAmounts env event.costUsd cloud event.costSavingsUsd <;> rfl

theorem fromTaskDelegatedEvent_clock (env : SavingsEnv) (clock other : Clock)
    (event : ModelTaskDelegatedSavingsSource) :
    fromTaskDelegatedEvent env other event =
      (fromTaskDelegatedEvent env clock event).map
        (Option.map (·.stampedAt event.timestamp other)) := by
  unfold fromTaskDelegatedEvent
  dsimp only
  split
  · rfl
  · next counterfactual _ =>
    cases env.sub (.finite counterfactual.counterfactualCostUsd) (.finite event.costUsd) with
    | none => rfl
    | some savings =>
      dsimp only
      split
      · rfl
      · split
        · rfl
        · cases checkAmounts env (.finite event.costUsd)
            (.finite counterfactual.counterfactualCostUsd) savings <;> rfl

theorem astimezoneUtc_now (clock : Clock) :
    (replaceMicrosecond clock.now).astimezoneUtc =
      some ⟨1000000 * (clock.micros / 1000000), some 0⟩ := by
  have low := clock.low
  have high := clock.high
  have whole : clock.micros - clock.micros % 1000000 = 1000000 * (clock.micros / 1000000) := by
    omega
  unfold PyDatetime.astimezoneUtc replaceMicrosecond Clock.now PyDatetime.instant
  rw [if_pos ⟨by dsimp only [Option.getD_some]; omega, by dsimp only [Option.getD_some]; omega⟩]
  simp [whole]

theorem upsert_stampedAt_iff {clock other : Clock} {own : Option PyDatetime}
    {projection : ModelDelegateSkillSavingsProjection}
    (stamped : projection = projection.stampedAt own clock) :
    upsert held projection.stampedRow = upsert held (projection.stampedAt own other).plainRow ↔
      (projection.stampedRow.Taken →
        TenantKept held projection.stampedRow ∧ (own = none → SameSecond clock other)) := by
  have time : projection.stampedRow.eventTimestamp = replaceMicrosecond (own.getD clock.now) :=
    congrArg (·.eventTimestamp) stamped
  have time' : (projection.stampedAt own other).plainRow.eventTimestamp =
      replaceMicrosecond (own.getD other.now) := rfl
  have amounts : (projection.stampedAt own other).plainRow.amounts =
      projection.stampedRow.amounts := rfl
  have moments : projection.stampedRow.eventTimestamp.astimezoneUtc =
      (projection.stampedAt own other).plainRow.eventTimestamp.astimezoneUtc ↔
        (own = none → SameSecond clock other) := by
    rw [time, time']
    cases own with
    | some moment => simp
    | none =>
      simp only [Option.getD_none, astimezoneUtc_now, SameSecond, forall_const,
        Option.some.injEq, PyDatetime.mk.injEq, and_true]
      omega
  have taken : (projection.stampedAt own other).plainRow.Taken ↔
      projection.stampedRow.Taken := by
    unfold SavingsRow.Taken
    rw [amounts, time, time']
    cases own with
    | some moment => rfl
    | none => simp [astimezoneUtc_now]
  rw [upsert_eq_upsert_iff rfl, taken]
  constructor
  · intro either takes
    rcases either with ⟨refused, _⟩ | ⟨_, same⟩
    · exact absurd takes refused
    · exact ⟨same.tenant, moments.1 same.time⟩
  · intro alike
    rcases em projection.stampedRow.Taken with takes | refused
    · obtain ⟨tenant, second⟩ := alike takes
      exact Or.inr ⟨takes, moments.2 second, rfl, rfl, rfl, rfl, rfl, rfl, tenant⟩
    · exact Or.inl ⟨refused, refused⟩

theorem projectionRow_clock_iff {clock other : Clock} {own : Option PyDatetime}
    {made : Except Refusal (Option ModelDelegateSkillSavingsProjection)}
    (stamped : made = made.map (Option.map (·.stampedAt own clock))) :
    (projectionRow (·.stampedRow) made).bind (upsert held) =
        (projectionRow (·.plainRow) (made.map (Option.map (·.stampedAt own other)))).bind
          (upsert held) ↔
      ∀ projection, made = .ok (some projection) → projection.stampedRow.Taken →
        TenantKept held projection.stampedRow ∧ (own = none → SameSecond clock other) := by
  cases made with
  | error refusal => simp [projectionRow, Except.map, Except.toOption]
  | ok made =>
    cases made with
    | none => simp [projectionRow, Except.map, Except.toOption]
    | some projection =>
      have own_stamp : projection = projection.stampedAt own clock := by
        simpa [Except.map] using stamped
      have one : upsert held projection.stampedRow =
          upsert held (projection.stampedAt own other).plainRow ↔ _ :=
        upsert_stampedAt_iff own_stamp
      simpa [projectionRow, Except.map, Except.toOption] using one

/-! ## Estimates -/

section

variable {env : SavingsEnv} {held : HeldTenants} {clock : Clock} {data : PyDict}

theorem RunnerRead.amounts_eq (read : RunnerRead env clock data row) :
    runnerAmounts env data = row.amounts := by
  unfold runnerAmounts SavingsRow.amounts
  rw [read.amounts]
  rfl

theorem RunnerRead.not_refused (read : RunnerRead env clock data row) (taken : row.Taken) :
    ¬ RunnerRefuses env clock data := by
  rintro (session | modelLocal | baseline | moment | amounts)
  · exact read.session_named (read.session.trans session)
  · exact read.modelLocal_named (read.modelLocal.trans modelLocal)
  · exact read.baseline_named (read.baseline.trans baseline)
  · rw [read.moment] at moment
    cases moment
  · rw [read.amounts_eq] at amounts
    exact taken.2 amounts

theorem exists_runnerRead (passes : ¬ RunnerRefuses env clock data) :
    ∃ row, RunnerRead env clock data row ∧ row.Taken := by
  unfold RunnerRefuses at passes
  push Not at passes
  obtain ⟨session, modelLocal, baseline, moment, amounts⟩ := passes
  cases time : readMoment env clock data with
  | error refusal => rw [time] at moment; exact absurd rfl moment
  | ok utc =>
    cases sums : readAmounts env data with
    | error refusal =>
      unfold runnerAmounts at amounts
      rw [sums] at amounts
      exact absurd rfl amounts
    | ok read =>
      refine ⟨⟨utc, _, _, _, read.1, read.2.1, read.2.2, _, _, none⟩,
        ⟨rfl, session, time, rfl, modelLocal, rfl, baseline, sums, rfl, rfl, rfl⟩, ?_, ?_⟩
      · rw [readMoment_utc time]
        exact Option.some_ne_none _
      · unfold runnerAmounts at amounts
        rw [sums] at amounts
        exact amounts

theorem lookedUp_iff (taken : row.Taken) :
    (∃ second ∈ (readNormalized env clock data).toOption, SameColumns held row second) ↔
      LookedUp env held clock data row := by
  constructor
  · rintro ⟨second, found, same⟩
    have read := readNormalized_eq_ok.1 (toOption_eq_some.1 found)
    have utc := readMoment_utc read.moment
    have secondTaken : second.Taken := by
      unfold SavingsRow.Taken
      rw [← same.time, ← same.amounts]
      exact taken
    exact
      { passes := read.not_refused secondTaken
        moment := (toOption_eq_some.2 read.moment).trans (same.time.trans utc).symm
        session := (same.session.trans read.session).symm
        modelLocal := (same.modelLocal.trans read.modelLocal).symm
        baseline := (same.baseline.trans read.baseline).symm
        amounts := read.amounts_eq.trans same.amounts.symm
        repo := (same.repo.trans read.repo).symm
        machine := (same.machine.trans read.machine).symm
        tenant := same.tenant }
  · intro looked
    obtain ⟨second, read, _⟩ := exists_runnerRead looked.passes
    have time := (toOption_eq_some.2 read.moment).symm.trans looked.moment
    exact ⟨second, toOption_eq_some.2 (readNormalized_eq_ok.2 read),
      { time := time.symm.trans (readMoment_utc read.moment).symm
        session := looked.session.symm.trans read.session.symm
        modelLocal := looked.modelLocal.symm.trans read.modelLocal.symm
        baseline := looked.baseline.symm.trans read.baseline.symm
        amounts := looked.amounts.symm.trans read.amounts_eq
        repo := looked.repo.symm.trans read.repo.symm
        machine := looked.machine.symm.trans read.machine.symm
        tenant := looked.tenant }⟩

theorem runnerRefuses_iff :
    (∀ second ∈ (readNormalized env clock data).toOption, ¬ second.Taken) ↔
      RunnerRefuses env clock data := by
  constructor
  · intro untaken
    by_contra passes
    obtain ⟨row, read, taken⟩ := exists_runnerRead passes
    exact untaken row (toOption_eq_some.2 (readNormalized_eq_ok.2 read)) taken
  · intro refuses second found taken
    exact (readNormalized_eq_ok.1 (toOption_eq_some.1 found)).not_refused taken refuses

end

/-! ## Canonical terminals -/

section

variable {env : SavingsEnv} {held : HeldTenants} {other : Clock} {payload : PyDict}

theorem savedAs_iff (taken : row.Taken) :
    (∃ second ∈ runnerRow env other payload .delegation, SameColumns held row second) ↔
      ∃ counterfactual localCost savings,
        SavedAs env held other payload counterfactual localCost savings row := by
  constructor
  · rintro ⟨second, found, same⟩
    obtain ⟨projection, made, rfl⟩ := mem_projectionRow.1 found
    obtain ⟨counterfactual, localCost, savings, timestamp, sessionId, tenantId, saving, named,
      correlated, rfl⟩ := exists_saving made fun refused => taken.2 (same.amounts.trans refused)
    obtain ⟨moment, time⟩ := Option.ne_none_iff_exists'.1 taken.1
    exact ⟨counterfactual, localCost, savings,
      { saves := ⟨moment, time, saving, timestamp, named, same.time.symm.trans time⟩
        session := correlated.trans (congrArg some same.session.symm)
        modelLocal := same.modelLocal
        baseline := same.baseline
        amounts := same.amounts
        repo := same.repo
        machine := same.machine
        tenant := same.tenant }⟩
  · rintro ⟨counterfactual, localCost, savings, saved⟩
    obtain ⟨moment, time, saving, timestamp, named, stamped⟩ := saved.saves
    obtain ⟨tenantId, made⟩ := saving.projected named saved.session other
    exact ⟨_, mem_projectionRow.2 ⟨_, made, rfl⟩,
      { time := time.trans stamped.symm
        session := rfl
        modelLocal := saved.modelLocal
        baseline := saved.baseline
        amounts := saved.amounts
        repo := saved.repo
        machine := saved.machine
        tenant := saved.tenant }⟩

theorem not_saves_iff : (∀ second ∈ runnerRow env other payload .delegation, ¬ second.Taken) ↔
    ∀ counterfactual localCost savings moment,
      ¬ Saves env other payload counterfactual localCost savings moment := by
  constructor
  · rintro untaken counterfactual localCost savings moment ⟨saving, timestamp, named, time⟩
    obtain ⟨sessionId, correlated⟩ := Option.isSome_iff_exists.1 saving.correlated
    obtain ⟨tenantId, made⟩ := saving.projected named correlated other
    exact untaken _ (mem_projectionRow.2 ⟨_, made, rfl⟩)
      ⟨time.trans_ne (Option.some_ne_none _), Option.isSome_iff_ne_none.1 saving.taken⟩
  · rintro idle second found ⟨time, amounts⟩
    obtain ⟨projection, made, rfl⟩ := mem_projectionRow.1 found
    obtain ⟨counterfactual, localCost, savings, timestamp, _, _, saving, named, _, rfl⟩ :=
      exists_saving made amounts
    obtain ⟨moment, stamped⟩ := Option.ne_none_iff_exists'.1 time
    exact idle _ _ _ moment ⟨saving, timestamp, named, stamped⟩

end

/-! ## Result -/

section

variable {env : SavingsEnv} {held : HeldTenants} {clock other : Clock} {payload : PyDict}

theorem delegateSkill_rows_iff :
    (handlerRow env clock payload .delegateSkill).bind (upsert held) =
        (runnerRow env other payload .delegateSkill).bind (upsert held) ↔
      DelegateSkillAlike env held clock other payload := by
  unfold handlerRow runnerRow delegateSkillProjection DelegateSkillAlike
  cases fromPayload env payload with
  | none => simp [projectionRow, Except.toOption]
  | some event =>
    dsimp only
    rw [fromTerminalEvent_clock env clock other event,
      projectionRow_clock_iff (fromTerminalEvent_clock env clock clock event)]
    simp

theorem delegation_rows_iff :
    (handlerRow env clock payload .delegation).bind (upsert held) =
        (runnerRow env other payload .delegation).bind (upsert held) ↔
      DelegationAlike env held clock other payload := by
  unfold handlerRow runnerRow canonicalProjection DelegationAlike
  cases fromCanonicalPayload env payload with
  | error refusal => simp [projectionRow, Raising.bind_error, Except.toOption]
  | ok event =>
    dsimp only
    rw [Raising.bind_ok, Raising.bind_ok, fromTaskDelegatedEvent_clock env clock other event,
      projectionRow_clock_iff (fromTaskDelegatedEvent_clock env clock clock event)]
    simp

theorem estimate_rows_iff :
    (handlerRow env clock payload .estimate).bind (upsert held) =
        (runnerRow env other payload .estimate).bind (upsert held) ↔
      EstimateAlike env held other payload := by
  rw [bind_upsert_eq_iff fun _ handed => runnerRow_tenantId handed]
  unfold handlerRow runnerRow readEstimate estimateEvent EstimateAlike
  cases normalizeSavingsEstimatePayload env payload with
  | error refusal => simp [Raising.bind_error, Except.toOption]
  | ok data =>
    have first : Except.toOption (Except.ok data : Except Refusal PyDict) = some data := rfl
    simp only [Raising.bind_ok, first, Option.bind_some, forall_mem_map_toOption,
      Except.ok.injEq, forall_eq']
    refine and_congr (forall_congr' fun event => forall_congr' fun _ => ?_)
      (imp_congr_right fun _ => runnerRefuses_iff)
    exact forall_congr' lookedUp_iff

theorem lookups_rows_iff
    (made : Except Refusal (Option ModelDelegateSkillSavingsProjection)) :
    (projectionRow (·.stampedRow) made).bind (upsert held) =
        (runnerRow env other payload .estimate).bind (upsert held) ↔
      LookupsAlike env held other made payload := by
  rw [bind_upsert_eq_iff fun _ handed => runnerRow_tenantId handed]
  unfold runnerRow readEstimate LookupsAlike
  rw [forall_mem_projectionRow, forall_mem_projectionRow]
  cases normalizeSavingsEstimatePayload env payload with
  | error refusal => simp [Raising.bind_error, Except.toOption]
  | ok data =>
    simp only [Raising.bind_ok, Except.ok.injEq, exists_eq_left', forall_eq']
    refine and_congr (forall_congr' fun projection => forall_congr' fun _ => ?_)
      (imp_congr_right fun _ => runnerRefuses_iff)
    exact forall_congr' lookedUp_iff

theorem canonical_rows_iff :
    (handlerRow env clock payload .delegateSkill).bind (upsert held) =
        (runnerRow env other payload .delegation).bind (upsert held) ↔
      CanonicalAlike env held clock other payload := by
  rw [bind_upsert_eq_iff fun _ handed => runnerRow_tenantId handed]
  unfold handlerRow CanonicalAlike
  rw [forall_mem_projectionRow, forall_mem_projectionRow]
  refine and_congr (forall_congr' fun projection => forall_congr' fun _ => ?_)
    (imp_congr_right fun _ => not_saves_iff)
  exact forall_congr' savedAs_iff

end

/-- The handlers agree on a payload exactly when it is read alike. -/
theorem paths_agree_iff (env : SavingsEnv) (held : HeldTenants) (clock other : Clock)
    (delivery : Delivery) : PathsAgree (handle env held clock delivery.inputData)
        (runnerProjectEvent env held other delivery.topic.name delivery.payload) ↔
      Alike env held clock other delivery.topic delivery.payload := by
  rw [pathsAgree_iff_written, written_handle, written_runnerProjectEvent]
  unfold Alike
  cases own : delivery.topic.shape with
  | delegateSkill =>
    have shape : handleShape delivery.topic delivery.payload = .delegateSkill :=
      if_pos (Or.inl own)
    rw [shape]
    exact delegateSkill_rows_iff
  | delegation =>
    have other_shape : handleShape delivery.topic delivery.payload ≠ .estimate :=
      handleShape_delegation own
    cases shape : handleShape delivery.topic delivery.payload with
    | delegateSkill => exact canonical_rows_iff
    | delegation => exact delegation_rows_iff
    | estimate => exact absurd shape other_shape
  | estimate =>
    cases handleShape delivery.topic delivery.payload with
    | delegateSkill | delegation => exact lookups_rows_iff _
    | estimate => exact estimate_rows_iff

/-! ## A named tenant -/

def jsonNumber : PyValue → Option PyFloat
  | .int value => some (.finite value)
  | .float value => some value
  | _ => none

/-- The terminal model on payloads whose fields are of the declared types, with one time text. -/
def sampleTerminal (payload : PyDict) (emittedAt : Option PyDatetime) :
    Option ModelDelegateSkillTerminalProjection := do
  let _ ← (PyDict.get payload "status").asStr?
  let correlationId ← (PyDict.get payload "correlation_id").asStr?
  let _ ← (PyDict.get payload "task_type").asStr?
  let modelName ← (PyDict.get payload "model_name").asStr?
  let metrics ← (PyDict.get payload "metrics").asDict?
  let costUsd ← jsonNumber (PyDict.get metrics "cost_usd")
  let costSavingsUsd ← jsonNumber (PyDict.get metrics "cost_savings_usd")
  let tenantId ← optionalField PyValue.asStr? (PyDict.get payload "tenant_id")
  let sent : Option PyDatetime :=
    if PyDict.get payload "emitted_at" = .str "2026-05-01T12:00:00Z" then
      some ⟨1777636800000000, some 0⟩
    else none
  return ⟨correlationId, "", modelName, "", costUsd, costSavingsUsd, emittedAt.or sent, none, none,
    tenantId⟩

def sampleSub : Decimal → Decimal → Option Decimal
  | .finite a, .finite b => some (.finite (a - b))
  | _, _ => none

def sampleEnv : SavingsEnv where
  strOf _ := "None"
  decimal _ := none
  decimalText _ := ""
  add a b := some (a.add b)
  sub := sampleSub
  validateDecimal _ := none
  validateDatetime _ := none
  validateUuid := PyValue.asStr?
  validateTerminal := sampleTerminal
  validationText _ := ""
  isoparse _ := none
  fromisoformat _ := none
  buildPremiumCounterfactual _ _ := none
  baselineModel := "claude-opus-4-6"

def sampleClock : Clock := ⟨1777636801000000, by decide, by decide⟩

def acmeDelivery : Delivery where
  topic := .delegateSkillCompleted
  eventType := Topic.delegateSkillCompleted.name
  named := List.mem_cons_self
  payload := [("status", .str "completed"),
    ("correlation_id", .str "8a4d7c1e-0b5f-4c63-9f0e-2d6a1b7c3e55"),
    ("task_type", .str "document"), ("tenant_id", .str "acme"), ("model_name", .str "qwen3-coder"),
    ("emitted_at", .str "2026-05-01T12:00:00Z"),
    ("metrics", .dict [("cost_usd", .int 1), ("cost_savings_usd", .int 2)])]

/-- The synchronous handler stores the tenant of the payload, the runner the default. -/
theorem stamped_tenant_diverges :
    ¬ ∀ (env : SavingsEnv) (held : HeldTenants) (clock other : Clock) (delivery : Delivery),
      PathsAgree (handle env held clock delivery.inputData)
        (runnerProjectEvent env held other delivery.topic.name delivery.payload) := by
  intro claimed
  have agree := claimed sampleEnv (fun _ => none) sampleClock sampleClock acmeDelivery
  have tenants :
      (Outcome.written (handle sampleEnv (fun _ => none) sampleClock acmeDelivery.inputData)).map
        (·.tenantId) = some "acme" ∧
      (Outcome.written (runnerProjectEvent sampleEnv (fun _ => none) sampleClock
        acmeDelivery.topic.name acmeDelivery.payload)).map (·.tenantId) = some "omninode" := by
    decide +kernel
  rw [agree.rows, tenants.2] at tenants
  exact absurd tenants.1 (by decide)

end OmniMarket.SavingsProjection
