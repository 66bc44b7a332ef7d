import OmniMarket.DelegationProjection.MonthlyCap
import OmniMarket.Lib.Raising

/-!
# The provenance of a merged row

`validate_actual_cost_provenance` ties the saving of a row to its measurement source and to its
premium counterfactual. A merge keeps an old amount where the new one is zero, and always replaces
the columns that the amount is tied to.
-/

namespace OmniMarket.DelegationProjection

open Trace
variable {row : Row} {event : ModelTaskDelegatedEvent}

/-! ## The validator -/

inductive ProvenanceGap where
  | noMeasurement
  | notReconciled (counterfactualCost cost savings : ℚ)
deriving DecidableEq

section

variable (env : ProjectionEnv)

def validateActualCostProvenance (row : Row) : Except ProvenanceGap Unit :=
  let savings := asDecimal env (row.get "cost_savings_usd")
  let cost := asDecimal env (row.get "cost_usd")
  if savings ≠ 0 ∧ (row.get "cost_measurement_source").truthy = false then .error .noMeasurement
  else
    match row.get "premium_counterfactual" with
    | .dict entries =>
      let counterfactualCost := asDecimal env (PyDict.get entries "counterfactual_cost_usd")
      if 1 / 1000000 < |counterfactualCost - cost - savings| then
        .error (.notReconciled counterfactualCost cost savings)
      else .ok ()
    | _ => .ok ()

def Accepted (row : Row) : Prop := validateActualCostProvenance env row = .ok ()

instance (row : Row) : Decidable (Accepted env row) :=
  inferInstanceAs (Decidable (validateActualCostProvenance env row = .ok ()))

def Reconciles (row : Row) (cost savings : PyValue) : Prop :=
  ∀ entries, row.get "premium_counterfactual" = .dict entries →
    |asDecimal env (PyDict.get entries "counterfactual_cost_usd") - asDecimal env cost -
      asDecimal env savings| ≤ 1 / 1000000

theorem accepted_iff : Accepted env row ↔
    (asDecimal env (row.get "cost_savings_usd") ≠ 0 →
      (row.get "cost_measurement_source").truthy = true) ∧
      Reconciles env row (row.get "cost_usd") (row.get "cost_savings_usd") := by
  unfold Accepted validateActualCostProvenance Reconciles
  dsimp only
  split
  · next gap =>
    refine ⟨nofun, ?_⟩
    rintro ⟨measured, -⟩
    rw [measured gap.1] at gap
    exact absurd gap.2 (by decide)
  · next no_gap =>
    have measured : asDecimal env (row.get "cost_savings_usd") ≠ 0 →
        (row.get "cost_measurement_source").truthy = true := by
      intro saved
      by_contra unmeasured
      exact no_gap ⟨saved, Bool.eq_false_iff.2 unmeasured⟩
    split
    · next entries carried =>
      split
      · next far =>
        refine ⟨nofun, ?_⟩
        rintro ⟨-, near⟩
        exact absurd (near entries carried) (not_le.2 far)
      · next near =>
        refine ⟨fun _ => ⟨measured, ?_⟩, fun _ => rfl⟩
        intro others same
        rw [carried] at same
        obtain ⟨rfl⟩ := PyValue.dict.inj same
        exact not_lt.1 near
    · next absent =>
      refine ⟨fun _ => ⟨measured, ?_⟩, fun _ => rfl⟩
      intro entries carried
      exact absurd carried (absent entries)

/-! ## A merge -/

def Kept (stored fresh : Row) (column : String) : Prop :=
  isZero env (fresh.get column) = true ∧ isZero env (stored.get column) = false

instance (stored fresh : Row) (column : String) : Decidable (Kept env stored fresh column) :=
  inferInstanceAs (Decidable (_ ∧ _))

def keptAmount (stored fresh : Row) (column : String) : PyValue :=
  if Kept env stored fresh column then stored.get column else fresh.get column

def Overwrites (correlationId : String) (stored fresh : Row) : Prop :=
  correlationId ≠ "" ∧
    ((Kept env stored fresh "cost_savings_usd" ∧
        asDecimal env (stored.get "cost_savings_usd") ≠ 0 ∧
        ∃ source, OrderedDict.get? fresh "cost_measurement_source" = some source ∧
          source.truthy = false) ∨
      (Kept env stored fresh "cost_usd" ∨ Kept env stored fresh "cost_savings_usd") ∧
        ¬ Reconciles env fresh (keptAmount env stored fresh "cost_usd")
          (keptAmount env stored fresh "cost_savings_usd"))

def merged (correlationId : String) (stored fresh : Row) : Row :=
  stored.update (if correlationId = "" then fresh else preserveFrom env stored fresh).entries

def Priced (fresh : Row) : Prop :=
  ∀ column ∈ ["cost_usd", "cost_savings_usd", "premium_counterfactual"],
    ∃ value, OrderedDict.get? fresh column = some value

end

variable {env : ProjectionEnv} {stored fresh : Row} {correlationId column : String}

theorem merged_get? : OrderedDict.get? (merged env correlationId stored fresh) column =
    (OrderedDict.get? (if correlationId = "" then fresh else preserveFrom env stored fresh)
      column).or (OrderedDict.get? stored column) :=
  update_get? stored column (OrderedDict.nodup _)

theorem merged_amount (priced : Priced fresh) (amount : column ∈ ["cost_usd", "cost_savings_usd"]) :
    (merged env correlationId stored fresh).get column =
      if correlationId = "" then fresh.get column else keptAmount env stored fresh column := by
  obtain ⟨value, held⟩ := priced column (by simp at amount ⊢; tauto)
  rw [Row.get, merged_get?]
  split
  · rw [Row.get, held]
    rfl
  · have among : ∀ other ∈ ["cost_usd", "cost_savings_usd"], other ∈ amountColumns := by decide
    rw [preserveFrom_amount env stored fresh (among column amount), keptAmount]
    by_cases kept : Kept env stored fresh column
    · rw [if_pos kept, if_pos (by simp [kept.1, kept.2])]
      rfl
    · rw [if_neg kept, if_neg (fun both => kept (by simpa [Kept] using both)), held,
        get_of_get? held]
      rfl

theorem merged_other (unkept : column ∉ textColumns ++ amountColumns ++ sourceColumns ++
      ["request_override_applied", "override_within_bounds", "compliance_attempts"]) :
    OrderedDict.get? (merged env correlationId stored fresh) column =
      (OrderedDict.get? fresh column).or (OrderedDict.get? stored column) := by
  rw [merged_get?]
  split
  · rfl
  · rw [preserveFrom_other env stored fresh unkept]

theorem merged_counterfactual (priced : Priced fresh) :
    (merged env correlationId stored fresh).get "premium_counterfactual" =
      fresh.get "premium_counterfactual" := by
  obtain ⟨value, held⟩ := priced "premium_counterfactual" (by simp)
  rw [Row.get, merged_other (by decide), held, get_of_get? held]
  rfl

theorem merged_source : (merged env correlationId stored fresh).get "cost_measurement_source" =
    ((OrderedDict.get? fresh "cost_measurement_source").or
      (OrderedDict.get? stored "cost_measurement_source")).getD .none := by
  rw [Row.get, merged_other (by decide)]

theorem merged_measured_iff (priced : Priced fresh)
    (measured : asDecimal env (stored.get "cost_savings_usd") ≠ 0 →
      (stored.get "cost_measurement_source").truthy = true)
    (measuredFresh : asDecimal env (fresh.get "cost_savings_usd") ≠ 0 →
      (fresh.get "cost_measurement_source").truthy = true) :
    (asDecimal env ((merged env correlationId stored fresh).get "cost_savings_usd") ≠ 0 →
        ((merged env correlationId stored fresh).get "cost_measurement_source").truthy = true) ↔
      ¬ (correlationId ≠ "" ∧ Kept env stored fresh "cost_savings_usd" ∧
        asDecimal env (stored.get "cost_savings_usd") ≠ 0 ∧
          ∃ source, OrderedDict.get? fresh "cost_measurement_source" = some source ∧
            source.truthy = false) := by
  have ownSource : asDecimal env (fresh.get "cost_savings_usd") ≠ 0 →
      ((merged env correlationId stored fresh).get "cost_measurement_source").truthy = true := by
    intro saved
    have truthy := measuredFresh saved
    rw [merged_source]
    cases held : OrderedDict.get? fresh "cost_measurement_source" with
    | none => rw [Row.get, held] at truthy; cases truthy
    | some source => rw [get_of_get? held] at truthy; exact truthy
  rw [merged_amount priced (by simp)]
  by_cases unkeyed : correlationId = ""
  · rw [if_pos unkeyed]
    exact ⟨fun _ keyed => keyed.1 unkeyed, fun _ => ownSource⟩
  · rw [if_neg unkeyed, keptAmount]
    by_cases kept : Kept env stored fresh "cost_savings_usd"
    · rw [if_pos kept, merged_source]
      constructor
      · rintro sourced ⟨-, -, saved, source, held, empty⟩
        have truthy := sourced saved
        rw [held] at truthy
        exact absurd (empty.symm.trans truthy) (by decide)
      · intro untouched saved
        cases held : OrderedDict.get? fresh "cost_measurement_source" with
        | none => exact measured saved
        | some source =>
          by_contra empty
          exact untouched ⟨unkeyed, kept, saved, source, held, Bool.eq_false_iff.2 empty⟩
    · rw [if_neg kept]
      exact ⟨fun _ keyed => kept keyed.2.1, fun _ => ownSource⟩

theorem merged_reconciles_iff (priced : Priced fresh)
    (reconciles : Reconciles env fresh (fresh.get "cost_usd") (fresh.get "cost_savings_usd")) :
    Reconciles env (merged env correlationId stored fresh)
        ((merged env correlationId stored fresh).get "cost_usd")
        ((merged env correlationId stored fresh).get "cost_savings_usd") ↔
      ¬ (correlationId ≠ "" ∧
        (Kept env stored fresh "cost_usd" ∨ Kept env stored fresh "cost_savings_usd") ∧
          ¬ Reconciles env fresh (keptAmount env stored fresh "cost_usd")
            (keptAmount env stored fresh "cost_savings_usd")) := by
  rw [Reconciles, merged_counterfactual priced, ← Reconciles, merged_amount priced (by simp),
    merged_amount priced (by simp)]
  by_cases unkeyed : correlationId = ""
  · rw [if_pos unkeyed, if_pos unkeyed]
    exact ⟨fun _ keyed => keyed.1 unkeyed, fun _ => reconciles⟩
  · rw [if_neg unkeyed, if_neg unkeyed]
    constructor
    · rintro near ⟨-, -, far⟩
      exact far near
    · intro untouched
      by_cases kept : Kept env stored fresh "cost_usd" ∨ Kept env stored fresh "cost_savings_usd"
      · by_contra far
        exact untouched ⟨unkeyed, kept, far⟩
      · obtain ⟨cost, savings⟩ := not_or.1 kept
        rw [keptAmount, keptAmount, if_neg cost, if_neg savings]
        exact reconciles

theorem accepted_merged_iff (accepted : Accepted env stored) (alone : Accepted env fresh)
    (priced : Priced fresh) :
    Accepted env (merged env correlationId stored fresh) ↔
      ¬ Overwrites env correlationId stored fresh := by
  obtain ⟨measured, -⟩ := (accepted_iff env).1 accepted
  obtain ⟨measuredFresh, reconciles⟩ := (accepted_iff env).1 alone
  rw [accepted_iff, merged_measured_iff priced measured measuredFresh,
    merged_reconciles_iff priced reconciles, ← not_or, Overwrites, ← and_or_left]

/-! ## The rows of the events -/

def evidenceColumns : List String :=
  ["required_bar", "actual_score", "escalation_count", "authority_source", "score_source",
   "request_override_applied", "override_within_bounds"]

theorem evidence_columns {payload : Row} {labels : List String} {evidence : PyDict}
    (extracted : extractQualityBarEvidence env payload labels = .ok evidence) :
    ∀ name ∈ evidence.map Prod.fst, name ∈ evidenceColumns := by
  unfold extractQualityBarEvidence at extracted
  obtain ⟨bar, -, extracted⟩ := Raising.bind_eq_ok.1 extracted
  obtain ⟨score, -, extracted⟩ := Raising.bind_eq_ok.1 extracted
  obtain ⟨count, -, extracted⟩ := Raising.bind_eq_ok.1 extracted
  obtain ⟨rfl⟩ := Except.ok.inj extracted
  have own {name : String} {value : Option PyValue} {other : String}
      (listed : other ∈ (evidenceOf name value).map Prod.fst) : other = name := by
    cases value <;> simp [evidenceOf] at listed
    exact listed
  intro name listed
  simp only [List.map_append, List.mem_append] at listed
  have among : name = "required_bar" ∨ name = "actual_score" ∨ name = "escalation_count" ∨
      name = "authority_source" ∨ name = "score_source" ∨ name = "request_override_applied" ∨
      name = "override_within_bounds" := by
    rcases listed with ((((((bar | score) | count) | authority) | source) | applied) | bounds)
    · exact .inl (own bar)
    · exact .inr (.inl (own score))
    · exact .inr (.inr (.inl (own count)))
    · exact .inr (.inr (.inr (.inl (own authority))))
    · exact .inr (.inr (.inr (.inr (.inl (own source)))))
    · exact .inr (.inr (.inr (.inr (.inr (.inl (own applied))))))
    · exact .inr (.inr (.inr (.inr (.inr (.inr (own bounds))))))
  simpa [evidenceColumns] using among

theorem stampTenant_other {tenantId : Option String} (other : column ≠ "tenant_id") :
    OrderedDict.get? (row.stampTenant tenantId) column = OrderedDict.get? row column := by
  unfold Row.stampTenant
  split
  · exact OrderedDict.get?_set_other other
  · rfl

theorem taskEventRow_get? {now : PyDatetime} (built : taskEventRow env event now = .ok row)
    (other : column ∉ "tenant_id" :: evidenceColumns) :
    OrderedDict.get? row column = OrderedDict.get?
      (taskRow event (measureActualCost env.price env.toBudgetEnv event) (env.isoformat now))
        column := by
  rw [List.mem_cons, not_or] at other
  unfold taskEventRow at built
  dsimp only at built
  obtain ⟨-, -, built⟩ := Raising.bind_eq_ok.1 built
  obtain ⟨evidence, first, built⟩ := Raising.bind_eq_ok.1 built
  obtain ⟨labelled, second, built⟩ := Raising.bind_eq_ok.1 built
  obtain ⟨rfl⟩ := Except.ok.inj built
  have unnamed : column ∉ (evidence ++ labelled).map Prod.fst := by
    rw [List.map_append, List.mem_append, not_or]
    exact ⟨fun listed => other.2 (evidence_columns first _ listed),
      fun listed => other.2 (evidence_columns second _ listed)⟩
  rw [update_other _ unnamed, stampTenant_other other.1]

theorem priced_task {now : PyDatetime} (built : taskEventRow env event now = .ok row) :
    Priced row := by
  intro column listed
  have other : ∀ name ∈ ["cost_usd", "cost_savings_usd", "premium_counterfactual"],
      name ∉ "tenant_id" :: evidenceColumns := by decide
  rw [taskEventRow_get? built (other column listed)]
  refine OrderedDict.mem_keys.1 ?_
  have keys : ∀ name ∈ ["cost_usd", "cost_savings_usd", "premium_counterfactual"],
      name ∈ taskColumns := by decide
  exact keys column listed

theorem priced_terminal {event : ModelDelegateSkillTerminal}
    (built : terminalEventRow env event = .ok row) : Priced row := by
  intro column listed
  unfold terminalEventRow at built
  dsimp only at built
  obtain ⟨-, -, built⟩ := Raising.bind_eq_ok.1 built
  obtain ⟨rfl⟩ := Except.ok.inj built
  have other : ∀ name ∈ ["cost_usd", "cost_savings_usd", "premium_counterfactual"],
      name ≠ "tenant_id" := by decide
  rw [stampTenant_other (other column listed)]
  refine OrderedDict.mem_keys.1 ?_
  have keys : ∀ name ∈ ["cost_usd", "cost_savings_usd", "premium_counterfactual"],
      name ∈ terminalColumns := by decide
  exact keys column listed

theorem priced_row {delivery : EventDelivery} (built : delivery.row env = .ok row) :
    Priced row := by
  obtain ⟨event, now⟩ := delivery
  unfold EventDelivery.row at built
  cases event with
  | taskDelegated event => exact priced_task built
  | canonical payload =>
    dsimp only at built
    split at built
    · cases built
    · exact priced_task built
  | delegateSkillTerminal event => exact priced_terminal built

/-! ## Runs -/

theorem handle_rows (env : ProjectionEnv) (db : ProjectionStore) (delivery : EventDelivery) :
    (∃ raised, delivery.row env = .error raised ∧
        (handle env db delivery).1.delegationEvents = db.delegationEvents) ∨
      ∃ fresh correlationId, delivery.row env = .ok fresh ∧
        delivery.event.correlationId env = some correlationId ∧
        (handle env db delivery).1.delegationEvents =
          (db.upsert correlationId (db.preserve env correlationId fresh)).delegationEvents := by
  have projected (event : ModelTaskDelegatedEvent) :
      (∃ raised, taskEventRow env event delivery.now = .error raised ∧
        (project env db event delivery.now).1.delegationEvents = db.delegationEvents) ∨
      ∃ fresh, taskEventRow env event delivery.now = .ok fresh ∧
        (project env db event delivery.now).1.delegationEvents = (db.upsert event.correlationId
          (db.preserve env event.correlationId fresh)).delegationEvents := by
    unfold project
    cases built : taskEventRow env event delivery.now with
    | error raised => exact .inl ⟨raised, rfl, rfl⟩
    | ok fresh =>
      refine .inr ⟨fresh, rfl, ?_⟩
      dsimp only
      cases budgetEvent env event <;> rfl
  obtain ⟨event, now⟩ := delivery
  unfold handle EventDelivery.row DelegationEvent.correlationId
  cases event with
  | taskDelegated event =>
    refine (projected event).imp_right ?_
    rintro ⟨fresh, built, rows⟩
    exact ⟨fresh, _, built, rfl, rows⟩
  | canonical payload =>
    dsimp only
    cases env.parseTaskDelegated (canonicalResultToTaskDelegatedPayload env payload) with
    | none => exact .inl ⟨_, rfl, rfl⟩
    | some event =>
      refine (projected event).imp_right ?_
      rintro ⟨fresh, built, rows⟩
      exact ⟨fresh, _, built, rfl, rows⟩
  | delegateSkillTerminal event =>
    dsimp only
    unfold projectDelegateSkillTerminal
    cases terminalEventRow env event with
    | error raised => exact .inl ⟨raised, rfl, rfl⟩
    | ok fresh => exact .inr ⟨fresh, _, rfl, rfl, rfl⟩

def AcceptedAlone (env : ProjectionEnv) (correlationId : String) (delivery : EventDelivery) :
    Prop :=
  ∃ row, (handle env {} delivery).1.delegationEvents.get? correlationId = some row ∧
    Accepted env row

theorem accepted_congr {first second : Row} (same : ∀ column, first.get column = second.get column) :
    Accepted env first ↔ Accepted env second := by
  rw [accepted_iff, accepted_iff, Reconciles, Reconciles, same, same, same, same]

theorem first_row_get (row : Row) (column : String) :
    (Row.update .empty row.entries).get column = row.get column := by
  rw [Row.get, update_get? _ column row.nodup, Row.get]
  show ((OrderedDict.get? row column).or none).getD _ = _
  rw [Option.or_none]

variable {delivery : EventDelivery}

theorem row_of_alone (alone : AcceptedAlone env correlationId delivery) :
    ∃ fresh, delivery.row env = .ok fresh ∧ Accepted env fresh ∧ Priced fresh ∧
      ∀ db : ProjectionStore, (handle env db delivery).1.delegationEvents.get? correlationId =
        some (match db.delegationEvents.get? correlationId with
          | none => Row.update .empty fresh.entries
          | some stored => merged env correlationId stored fresh) := by
  obtain ⟨row, held, accepted⟩ := alone
  rcases handle_rows env {} delivery with ⟨-, -, rows⟩ | ⟨fresh, own, built, named, rows⟩
  · rw [rows] at held
    cases held
  · have same : own = correlationId := by
      by_contra other
      rw [rows, ProjectionStore.upsert, OrderedDict.get?_set_other (Ne.symm other)] at held
      cases held
    subst same
    have first : row = Row.update .empty fresh.entries := by
      rw [rows, ProjectionStore.upsert, OrderedDict.get?_set_self, ProjectionStore.preserve] at held
      have updated := Option.some.inj held
      rw [← updated]
      split <;> rfl
    refine ⟨fresh, built, ?_, priced_row built, ?_⟩
    · exact (accepted_congr (first_row_get fresh)).1 (first ▸ accepted)
    · intro db
      rcases handle_rows env db delivery with ⟨_, failed, -⟩ | ⟨fresh', own', built', named', rows'⟩
      · rw [built] at failed
        cases failed
      · obtain ⟨rfl⟩ := Except.ok.inj (built.symm.trans built')
        obtain ⟨rfl⟩ := Option.some.inj (named.symm.trans named')
        rw [rows', ProjectionStore.upsert, OrderedDict.get?_set_self, ProjectionStore.preserve]
        cases stored : db.delegationEvents.get? own with
        | none => split <;> rfl
        | some stored => rfl

def storedRow (env : ProjectionEnv) (correlationId : String) (deliveries : List EventDelivery) :
    Option Row :=
  (final (handle env) {} deliveries).delegationEvents.get? correlationId

/-- The stored row is accepted throughout, if and only if no merge overwrites what a kept amount is
tied to. -/
theorem provenance_kept_iff (env : ProjectionEnv) (correlationId : String)
    (deliveries : List EventDelivery)
    (alone : ∀ delivery ∈ deliveries, AcceptedAlone env correlationId delivery) :
    (∀ earlier later, deliveries = earlier ++ later →
      ∀ row ∈ storedRow env correlationId earlier, Accepted env row) ↔
      ∀ earlier delivery later, deliveries = earlier ++ delivery :: later →
        ∀ stored ∈ storedRow env correlationId earlier, ∀ fresh, delivery.row env = .ok fresh →
          ¬ Overwrites env correlationId stored fresh := by
  have step (earlier : List EventDelivery) (delivery : EventDelivery) :
      storedRow env correlationId (earlier ++ [delivery]) =
        (handle env (final (handle env) {} earlier) delivery).1.delegationEvents.get?
          correlationId := by
    rw [storedRow, final_append]
    rfl
  constructor
  · intro accepted earlier delivery later split stored held fresh built
    have listed : delivery ∈ deliveries := by
      rw [split]
      exact List.mem_append_right _ List.mem_cons_self
    obtain ⟨own, built', acceptedFresh, priced, next⟩ := row_of_alone (alone delivery listed)
    obtain ⟨rfl⟩ := Except.ok.inj (built.symm.trans built')
    have before := accepted earlier (delivery :: later) split stored held
    refine (accepted_merged_iff before acceptedFresh priced).1 ?_
    refine accepted (earlier ++ [delivery]) later (by rw [split, List.append_assoc]; rfl) _ ?_
    rw [step, next]
    have there : (final (handle env) {} earlier).delegationEvents.get? correlationId =
      some stored := held
    rw [there]
    exact rfl
  · intro untouched earlier
    induction earlier using List.reverseRecOn with
    | nil =>
      intro later split row held
      cases held
    | append_singleton before delivery ih =>
      intro later split row held
      rw [List.append_assoc, List.singleton_append] at split
      have listed : delivery ∈ deliveries := by
        rw [split]
        exact List.mem_append_right _ List.mem_cons_self
      obtain ⟨fresh, built, acceptedFresh, priced, next⟩ := row_of_alone (alone delivery listed)
      rw [step, next] at held
      obtain ⟨rfl⟩ := Option.some.inj held
      cases there : (final (handle env) {} before).delegationEvents.get? correlationId with
      | none => exact (accepted_congr (first_row_get fresh)).2 acceptedFresh
      | some stored =>
        exact (accepted_merged_iff (ih _ split stored there) acceptedFresh priced).2
          (untouched before delivery later split stored there fresh built)

/-! ## Sample deliveries -/

/-- A delegation on the reserved tier, with a saving. -/
def tieredDelivery : EventDelivery where
  event := .taskDelegated (sampleServed "a" 1000).event
  now := ⟨0, some 0⟩

/-- The same delegation from a producer that knows no tier. -/
def untieredDelivery : EventDelivery where
  event := .taskDelegated
    { correlationId := "a", taskType := "test", delegatedTo := "reserved-gpu"
      attempts_pos := sampleAttempts_pos, headroom_nonneg := sampleDrawdown_nonneg }
  now := ⟨1, some 0⟩

theorem alone_of_any {delivery : EventDelivery}
    (held : ((handle env {} delivery).1.delegationEvents.get? correlationId).any
      (fun row => decide (Accepted env row)) = true) :
    AcceptedAlone env correlationId delivery := by
  obtain ⟨row, found, accepted⟩ := (Option.any_eq_true _ _).1 held
  exact ⟨row, found, of_decide_eq_true accepted⟩

theorem tiered_alone : AcceptedAlone sampleProjectionEnv "a" tieredDelivery :=
  alone_of_any (by decide +kernel)

theorem untiered_alone : AcceptedAlone sampleProjectionEnv "a" untieredDelivery :=
  alone_of_any (by decide +kernel)

theorem not_overwrites_of_amounts (cost : isZero env (fresh.get "cost_usd") = false)
    (savings : isZero env (fresh.get "cost_savings_usd") = false) :
    ¬ Overwrites env correlationId stored fresh := by
  have notKept {column : String} (amount : isZero env (fresh.get column) = false) :
      ¬ Kept env stored fresh column := by
    rintro ⟨zero, -⟩
    exact absurd (amount.symm.trans zero) (by decide)
  rintro ⟨-, ⟨kept, -⟩ | ⟨kept | kept, -⟩⟩
  · exact notKept savings kept
  · exact notKept cost kept
  · exact notKept savings kept

/-- A delegation that is delivered twice. -/
theorem redelivery_keeps_provenance :
    AcceptedAlone sampleProjectionEnv "a" tieredDelivery ∧
      ∀ earlier later, [tieredDelivery, tieredDelivery] = earlier ++ later →
        ∀ row ∈ storedRow sampleProjectionEnv "a" earlier, Accepted sampleProjectionEnv row := by
  refine ⟨tiered_alone, ?_⟩
  refine (provenance_kept_iff sampleProjectionEnv "a" [tieredDelivery, tieredDelivery] ?_).2 ?_
  · intro delivery listed
    have same : delivery = tieredDelivery := by simpa using listed
    exact same ▸ tiered_alone
  · intro earlier delivery later split stored held fresh built
    have listed : delivery ∈ [tieredDelivery, tieredDelivery] := by
      rw [split]
      exact List.mem_append_right _ List.mem_cons_self
    have same : delivery = tieredDelivery := by simpa using listed
    rw [same] at built
    have amounts : (tieredDelivery.row sampleProjectionEnv).map (fun row =>
        (isZero sampleProjectionEnv (row.get "cost_usd"),
          isZero sampleProjectionEnv (row.get "cost_savings_usd"))) = .ok (false, false) := by
      decide +kernel
    rw [built] at amounts
    obtain ⟨cost, savings⟩ := Prod.mk.inj (Except.ok.inj amounts)
    exact not_overwrites_of_amounts cost savings

/-- The saving of the first event is kept beside the empty measurement source of the second. -/
theorem saving_outlives_source : ¬ ((∀ delivery ∈ [tieredDelivery, untieredDelivery],
        AcceptedAlone sampleProjectionEnv "a" delivery) →
      ∀ earlier later, [tieredDelivery, untieredDelivery] = earlier ++ later →
        ∀ row ∈ storedRow sampleProjectionEnv "a" earlier, Accepted sampleProjectionEnv row) := by
  intro kept
  have alone : ∀ delivery ∈ [tieredDelivery, untieredDelivery],
      AcceptedAlone sampleProjectionEnv "a" delivery := by
    simp only [List.mem_cons, List.not_mem_nil, or_false, forall_eq_or_imp, forall_eq]
    exact ⟨tiered_alone, untiered_alone⟩
  have accepted := kept alone _ [] (List.append_nil _).symm
  have held : (storedRow sampleProjectionEnv "a" [tieredDelivery, untieredDelivery]).all
      (fun row => decide (Accepted sampleProjectionEnv row)) = false := by decide +kernel
  obtain ⟨row, found, rejected⟩ := (Option.all_eq_false _ _).1 held
  exact of_decide_eq_false rejected (accepted row found)

end OmniMarket.DelegationProjection
