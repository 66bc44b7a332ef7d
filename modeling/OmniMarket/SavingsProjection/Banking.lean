import OmniMarket.SavingsProjection.Agreement
import OmniMarket.Lib.OrderedDict

/-!
# Redeliveries of a canonical terminal

One canonical terminal payload may reach the synchronous handler any number of times, each time
with another reading of the clock. The time of the event is part of the key of its row, so a payload
that names no time banks its saving again with each second.
-/

namespace OmniMarket.SavingsProjection

open PyText
variable {localCost savings : ℚ} {source : ModelTaskDelegatedSavingsSource} {clock : Clock}
  {projection : ModelDelegateSkillSavingsProjection} {counterfactual : ModelPremiumCounterfactual}

/-! ## The table over deliveries -/

/-- The rows of `savings_estimates`. -/
abbrev SavingsTable := OrderedDict ConflictKey StoredRow

def SavingsTable.held (table : SavingsTable) : HeldTenants :=
  fun key => (table.get? key).map (·.tenantId)

/-- The table after a handler ran. -/
def SavingsTable.after (table : SavingsTable) (outcome : Outcome) : SavingsTable :=
  match outcome.written with
  | some stored => table.set stored.key stored
  | none => table

def SavingsTable.keysOf (table : SavingsTable) (sessionId : String) : List ConflictKey :=
  table.keys.filter fun key => key.sessionId = sessionId

section

variable (env : SavingsEnv) (payload : PyDict)

/-- One delivery: `from_canonical_payload`, `from_task_delegated_event` and the upsert. -/
def deliver (table : SavingsTable) (clock : Clock) : SavingsTable :=
  table.after (projectDelegateSkillSavings table.held (canonicalProjection env clock payload))

/-- A redelivery for each reading of the clock. -/
def deliverAll (table : SavingsTable) (clocks : List Clock) : SavingsTable :=
  clocks.foldl (deliver env payload) table

/-! ## What the payload says -/

/-- A cost as JSON carries it. -/
def metered : PyValue → Option ℚ
  | .int cost => some cost
  | .float (.finite cost) => some cost
  | _ => none

def attemptCost : PyValue :=
  if (PyDict.get payload "cumulative_attempt_cost").isNone then
    PyDict.get payload "final_attempt_cost"
  else PyDict.get payload "cumulative_attempt_cost"

structure Banks (row : StoredRow) (localCost cloudCost savings : ℚ) : Prop where
  amounts : storedAmounts (.finite localCost) (.finite cloudCost) (.finite savings) =
    some row.amounts
  difference : env.sub (.finite cloudCost) (.finite localCost) = some (.finite savings)
  positive : 0 < savings
  cost : ∀ cost, metered (attemptCost payload) = some cost → 0 ≤ cost → localCost = cost

def BankedOnce : Prop :=
  ∀ sessionId, env.validateUuid (PyDict.get payload "correlation_id") = some sessionId →
    ∀ table : SavingsTable, table.keysOf sessionId = [] → ∀ clocks : List Clock,
      ((deliverAll env payload table clocks).keysOf sessionId).length ≤ 1 ∧
      ∀ key row, (deliverAll env payload table clocks).get? key = some row →
        key.sessionId = sessionId → ∃ localCost cloudCost savings,
          Banks env payload row localCost cloudCost savings

def DatedOrIdle : Prop :=
  (namedTime payload).isNone = false ∨
    ¬ ∃ counterfactual localCost savings, HasSaving env payload counterfactual localCost savings

end

variable {env : SavingsEnv} {payload : PyDict}

/-! ## The source model -/

theorem floatOf_metered {value : PyValue} {cost : ℚ} {float : Option PyFloat}
    (read : floatOf value = .ok float) (named : metered value = some cost) :
    float = some (.finite cost) := by
  cases value with
  | int amount =>
    cases Option.some.inj named
    have converted : PyFloat.ofInt amount = none ∨
        PyFloat.ofInt amount = some (.finite amount) := ite_eq_or_eq _ _ _ |>.symm
    dsimp only [floatOf] at read
    rcases converted with overflow | exactly
    · rw [overflow] at read
      cases read
    · rw [exactly] at read
      exact (Except.ok.inj read).symm
  | float amount =>
    cases amount <;> cases named
    exact (Except.ok.inj read).symm
  | none | bool | str | list | dict => cases named

theorem canonicalCost_metered {cost : ℚ} (read : canonicalCost payload = .ok (.finite localCost))
    (named : metered (attemptCost payload) = some cost) (nonneg : 0 ≤ cost) : localCost = cost := by
  obtain ⟨cumulative, chosen, first, kept, source⟩ := canonicalCost_chosen read
  have final : chosen = some (.finite cost) → localCost = cost := by
    intro taken
    rw [taken] at kept
    have usable : PyFloat.le (.finite 0) (.finite cost) = true := by
      rw [PyFloat.le_finite]
      exact decide_eq_true nonneg
    rw [Option.filter_some, if_pos usable] at kept
    exact PyFloat.finite.inj kept
  refine final ?_
  unfold attemptCost at named
  split at named
  · next absent =>
    -- An absent field is no number, so the last attempt decides.
    have none : cumulative = none := by
      cases value : PyDict.get payload "cumulative_attempt_cost" <;> rw [value] at absent first <;>
        cases absent
      exact (Except.ok.inj first).symm
    rcases source with ⟨_, amount, held, _⟩ | ⟨_, last⟩
    · rw [none] at held
      cases held
    · exact floatOf_metered last named
  · have number := floatOf_metered first named
    rcases source with ⟨same, _⟩ | ⟨negative, _⟩
    · rw [same, number]
    · have below := negative (.finite cost) number
      rw [PyFloat.lt_finite, decide_eq_true_eq] at below
      exact absurd nonneg (not_le.2 below)

/-! ## Deliveries -/

def bankedKey (env : SavingsEnv) (payload : PyDict) (clock : Clock) : Option ConflictKey := do
  let projection ← (canonicalProjection env clock payload).toOption.join
  let moment ← projection.eventTimestamp.astimezoneUtc
  return projection.stampedRow.key moment

theorem deliver_eq (table : SavingsTable) (clock : Clock) :
    deliver env payload table clock =
      match (canonicalProjection env clock payload).toOption.join.bind
        fun projection => upsert table.held projection.stampedRow with
      | some stored => table.set stored.key stored
      | none => table := by
  unfold deliver SavingsTable.after projectDelegateSkillSavings
  cases canonicalProjection env clock payload with
  | error refusal => rfl
  | ok made =>
    cases made with
    | none => rfl
    | some projection =>
      dsimp only [Except.toOption, Option.join, Option.bind]
      rw [written_writeRow]
      rfl

variable (env payload) in
theorem deliver_cases (table : SavingsTable) (clock : Clock) :
    deliver env payload table clock = table ∨
      ∃ key row counterfactual localCost savings, bankedKey env payload clock = some key ∧
        HasSaving env payload counterfactual localCost savings ∧
        Banks env payload row localCost counterfactual.counterfactualCostUsd savings ∧
        deliver env payload table clock = table.set key row := by
  rw [deliver_eq]
  cases made : (canonicalProjection env clock payload).toOption.join with
  | none => exact Or.inl rfl
  | some projection =>
    rw [Option.bind_some]
    cases written : upsert table.held projection.stampedRow with
    | none => exact Or.inl rfl
    | some stored =>
      right
      obtain ⟨moment, amounts, time, columns, rfl⟩ := upsert_eq_some.1 written
      have banked := join_toOption_eq_some.1 made
      obtain ⟨counterfactual, localCost, savings, timestamp, sessionId, tenantId, saving, _, _,
        rfl⟩ := exists_saving banked (columns.trans_ne (Option.some_ne_none _))
      refine ⟨_, ⟨_, amounts, _, _, _⟩, counterfactual, localCost, savings, ?_, saving,
        ⟨columns, saving.difference, saving.positive, ?_⟩, rfl⟩
      · unfold bankedKey
        rw [made]
        exact Option.bind_eq_some_iff.2 ⟨_, rfl, Option.bind_eq_some_iff.2 ⟨moment, time, rfl⟩⟩
      · intro cost named nonneg
        exact canonicalCost_metered saving.cost named nonneg

theorem get?_deliverAll {sessionId : String} {table : SavingsTable}
    (fresh : table.keysOf sessionId = []) (clocks : List Clock) {key : ConflictKey}
    {row : StoredRow} (held : (deliverAll env payload table clocks).get? key = some row)
    (session : key.sessionId = sessionId) :
    (∃ clock ∈ clocks, bankedKey env payload clock = some key) ∧
      ∃ counterfactual localCost savings, HasSaving env payload counterfactual localCost savings ∧
        Banks env payload row localCost counterfactual.counterfactualCostUsd savings := by
  induction clocks using List.reverseRecOn with
  | nil =>
    have present : key ∈ table.keysOf sessionId :=
      List.mem_filter.2 ⟨OrderedDict.mem_keys.2 ⟨row, held⟩, decide_eq_true session⟩
    rw [fresh] at present
    cases present
  | append_singleton clocks clock ih =>
    rw [deliverAll, List.foldl_append, List.foldl_cons, List.foldl_nil, ← deliverAll] at held
    rcases deliver_cases env payload
      (deliverAll env payload table clocks) clock with kept | ⟨banked, stored, counterfactual,
        localCost, savings, named, saving, banks, wrote⟩
    · rw [kept] at held
      obtain ⟨⟨earlier, before, named⟩, banks⟩ := ih held
      exact ⟨⟨earlier, List.mem_append_left _ before, named⟩, banks⟩
    · rw [wrote] at held
      rcases eq_or_ne key banked with rfl | other
      · rw [OrderedDict.get?_set_self] at held
        cases held
        exact ⟨⟨clock, List.mem_append_right _ List.mem_cons_self, named⟩, _, _, _, saving, banks⟩
      · rw [OrderedDict.get?_set_other other] at held
        obtain ⟨⟨earlier, before, named⟩, banks⟩ := ih held
        exact ⟨⟨earlier, List.mem_append_left _ before, named⟩, banks⟩

/-! ## One row -/

theorem SourceRead.dated (read : SourceRead env payload source) :
    source.timestamp = none ↔ (namedTime payload).isNone = true := by
  have named := read.timestamp
  cases time : namedTime payload with
  | none =>
    rw [time] at named
    have absent : source.timestamp = none := (Option.some.inj named).symm
    exact ⟨fun _ => rfl, fun _ => absent⟩
  | bool | int | float | str | list | dict =>
    rw [time] at named
    obtain ⟨moment, _, stamped⟩ := Option.map_eq_some_iff.1 named
    rw [← stamped]
    exact ⟨fun absent => (Option.some_ne_none _ absent).elim, nofun⟩

theorem bankedKey_dated (dated : (namedTime payload).isNone = false) (clock other : Clock) :
    bankedKey env payload clock = bankedKey env payload other := by
  have same : canonicalProjection env clock payload = canonicalProjection env other payload := by
    unfold canonicalProjection
    cases read : fromCanonicalPayload env payload with
    | error refusal => rfl
    | ok source =>
      have stamped : source.timestamp ≠ none := by
        intro absent
        rw [(fromCanonicalPayload_eq_ok.1 read).dated, dated] at absent
        cases absent
      obtain ⟨moment, named⟩ := Option.ne_none_iff_exists'.1 stamped
      simp only [Raising.bind_ok, fromTaskDelegatedEvent, named, Option.getD_some]
  rw [bankedKey, same, ← bankedKey]

theorem length_le_one {α : Type} {items : List α} (distinct : items.Nodup)
    (same : ∀ first ∈ items, ∀ second ∈ items, first = second) : items.length ≤ 1 := by
  match items, distinct, same with
  | [], _, _ => exact Nat.zero_le _
  | [_], _, _ => exact le_refl _
  | first :: second :: rest, distinct, same =>
    have repeated := same first List.mem_cons_self second (by simp)
    rw [repeated] at distinct
    exact absurd List.mem_cons_self (List.nodup_cons.1 distinct).1

theorem eq_of_length_le_one {α : Type} {items : List α} (short : items.length ≤ 1)
    {first second : α} (held : first ∈ items) (other : second ∈ items) : first = second := by
  match items, short with
  | [only], _ =>
    rw [List.mem_singleton] at held other
    rw [held, other]

theorem deliver_undated (saving : HasSaving env payload counterfactual localCost savings)
    (undated : (namedTime payload).isNone = true) : ∃ sessionId modelLocal baseline,
      env.validateUuid (PyDict.get payload "correlation_id") = some sessionId ∧
      ∀ (table : SavingsTable) (clock : Clock), ∃ row,
        deliver env payload table clock =
          table.set ⟨sessionId, 1000000 * (clock.micros / 1000000), modelLocal, baseline⟩ row := by
  obtain ⟨sessionId, correlated⟩ := Option.isSome_iff_exists.1 saving.correlated
  obtain ⟨amounts, taken⟩ := Option.isSome_iff_exists.1 saving.taken
  have named : optionalField env.awareDatetime (namedTime payload) = some none := by
    cases named : namedTime payload <;> rw [named] at undated <;> cases undated
    rfl
  refine ⟨sessionId, usedModel env payload, textOrText counterfactual.model env.baselineModel,
    correlated, ?_⟩
  intro table clock
  obtain ⟨tenantId, made⟩ := saving.projected named correlated clock
  obtain ⟨stored, written, key⟩ : ∃ stored, upsert table.held (savingProjection env clock
      counterfactual localCost savings none sessionId (usedModel env payload) tenantId).stampedRow =
        some stored ∧
      stored.key = ⟨sessionId, 1000000 * (clock.micros / 1000000) - 0, _, _⟩ :=
    ⟨_, upsert_eq_some.2 ⟨_, amounts, astimezoneUtc_now clock, taken, rfl⟩, rfl⟩
  refine ⟨stored, ?_⟩
  rw [deliver_eq, join_toOption_eq_some.2 made, Option.bind_some, written]
  rw [sub_zero] at key
  exact congrArg (table.set · stored) key

theorem mem_keysOf {table : SavingsTable} {sessionId : String} {key : ConflictKey} :
    key ∈ table.keysOf sessionId ↔
      (∃ row, table.get? key = some row) ∧ key.sessionId = sessionId := by
  rw [SavingsTable.keysOf, List.mem_filter, OrderedDict.mem_keys, decide_eq_true_eq]

/-- The redeliveries of a canonical terminal leave one row exactly when it names its time or has no
saving. -/
theorem banked_once_iff (env : SavingsEnv) (payload : PyDict) :
    BankedOnce env payload ↔ DatedOrIdle env payload := by
  constructor
  · intro once
    by_contra undatedSaving
    rw [DatedOrIdle, not_or, not_not, Bool.not_eq_false] at undatedSaving
    obtain ⟨undated, counterfactual, localCost, savings, saving⟩ := undatedSaving
    obtain ⟨sessionId, modelLocal, baseline, correlated, writes⟩ := deliver_undated saving undated
    -- Two deliveries to the empty table, a second apart.
    let first : Clock := ⟨0, by decide, by decide⟩
    let second : Clock := ⟨1000000, by decide, by decide⟩
    obtain ⟨row, wrote⟩ := writes OrderedDict.empty first
    obtain ⟨later, wroteLater⟩ := writes (deliver env payload OrderedDict.empty first) second
    have rows := (once sessionId correlated OrderedDict.empty rfl [first, second]).1
    rw [deliverAll, List.foldl_cons, List.foldl_cons, List.foldl_nil, wroteLater, wrote] at rows
    have differs : (⟨sessionId, 0, modelLocal, baseline⟩ : ConflictKey) ≠
        ⟨sessionId, 1000000, modelLocal, baseline⟩ := by
      intro same
      have seconds : (0 : ℤ) = 1000000 := congrArg ConflictKey.eventTimestamp same
      exact absurd seconds (by decide)
    refine differs (eq_of_length_le_one rows (mem_keysOf.2 ⟨⟨row, ?_⟩, rfl⟩)
      (mem_keysOf.2 ⟨⟨later, OrderedDict.get?_set_self _ _ _⟩, rfl⟩))
    exact (OrderedDict.get?_set_other differs).trans (OrderedDict.get?_set_self _ _ _)
  · intro condition sessionId _ table fresh clocks
    constructor
    · refine length_le_one ((OrderedDict.nodup _).filter _) ?_
      intro key held other heldOther
      obtain ⟨⟨row, found⟩, session⟩ := mem_keysOf.1 held
      obtain ⟨⟨row', found'⟩, session'⟩ := mem_keysOf.1 heldOther
      obtain ⟨⟨clock, _, named⟩, saving⟩ := get?_deliverAll fresh clocks found session
      obtain ⟨⟨clock', _, named'⟩, _⟩ := get?_deliverAll fresh clocks found' session'
      rcases condition with dated | idle
      · rw [bankedKey_dated dated clock clock', named'] at named
        exact (Option.some.inj named).symm
      · obtain ⟨counterfactual, localCost, savings, saving, _⟩ := saving
        exact absurd ⟨counterfactual, localCost, savings, saving⟩ idle
    · intro key row held session
      obtain ⟨_, counterfactual, localCost, savings, _, banks⟩ :=
        get?_deliverAll fresh clocks held session
      exact ⟨localCost, counterfactual.counterfactualCostUsd, savings, banks⟩

/-! ## A terminal without a time -/

/-- The environment of the samples, with a baseline of three. -/
def pricedEnv : SavingsEnv :=
  { sampleEnv with buildPremiumCounterfactual := fun _ _ => some ⟨"claude-opus-4-6", 3⟩ }

def undatedTerminal : PyDict :=
  [("correlation_id", .str "8a4d7c1e-0b5f-4c63-9f0e-2d6a1b7c3e55"), ("task_type", .str "document"),
    ("model_used", .str "qwen3-coder"), ("quality_passed", .bool true),
    ("cumulative_attempt_cost", .int 1), ("prompt_tokens", .int 100),
    ("completion_tokens", .int 20)]

theorem nextClock_low : -62135596800000000 ≤ (1777636803000000 : ℤ) := by decide

theorem nextClock_high : (1777636803000000 : ℤ) ≤ 253402300799999999 := by decide

/-- Two seconds after `sampleClock`. -/
def nextClock : Clock := ⟨1777636803000000, nextClock_low, nextClock_high⟩

/-- The redelivery after two seconds leaves a second row. -/
theorem undated_banks_twice :
    ¬ ∀ (env : SavingsEnv) (payload : PyDict), BankedOnce env payload := by
  intro claimed
  have once := (claimed pricedEnv undatedTerminal "8a4d7c1e-0b5f-4c63-9f0e-2d6a1b7c3e55"
    rfl OrderedDict.empty rfl [sampleClock, nextClock]).1
  have twice : ((deliverAll pricedEnv undatedTerminal OrderedDict.empty
      [sampleClock, nextClock]).keysOf "8a4d7c1e-0b5f-4c63-9f0e-2d6a1b7c3e55").length = 2 := by
    decide +kernel
  omega

end OmniMarket.SavingsProjection
