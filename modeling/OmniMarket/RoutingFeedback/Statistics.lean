import OmniMarket.Lib.RunningMean
import OmniMarket.RoutingFeedback.Reducer

/-!
# Statistics of each model and task type

What the accumulated entries say about the events. The key of an entry joins its model and task type
with a colon, which either may contain, so two pairs can share a key. The average is weighted by all
events of its pair, while only timed ones enter it.
-/

namespace OmniMarket.RoutingFeedback
variable {terminals : List Terminal}

/-! ## Statistics -/

abbrev FeedbackPair := String × String

def ModelDelegationFeedbackEvent.pair (event : ModelDelegationFeedbackEvent) : FeedbackPair :=
  (event.modelId, event.taskType)

def ModelRoutingFeedback.pair (entry : ModelRoutingFeedback) : FeedbackPair :=
  (entry.modelId, entry.taskType)

def FeedbackPair.key (pair : FeedbackPair) : String := feedbackKey pair.1 pair.2

def eventsOf (pair : FeedbackPair) (terminals : List Terminal) :
    List ModelDelegationFeedbackEvent :=
  (terminals.map Prod.fst).filter fun event => event.pair = pair

def entriesOf (pair : FeedbackPair) (state : FeedbackState) : List ModelRoutingFeedback :=
  state.values.filter fun entry => entry.pair = pair

def latenciesOf (events : List ModelDelegationFeedbackEvent) : List ℚ :=
  (events.filter ModelDelegationFeedbackEvent.timed).map fun event => (event.latencyMs : ℚ)

/-- The statistics of the events of one pair. -/
structure Stats (events : List ModelDelegationFeedbackEvent) (entry : ModelRoutingFeedback) :
    Prop where
  total : entry.totalCount = events.length
  success : entry.successCount = events.countP (·.success)
  failure : entry.failureCount = events.countP (!·.success)
  escalation : entry.escalationCount = events.countP (·.isEscalation)
  balanced : entry.successCount + entry.failureCount = entry.totalCount
  successRate : entry.successRate = entry.successCount / entry.totalCount
  escalationRate : entry.escalationRate = entry.escalationCount / entry.totalCount
  latency : entry.avgLatencyMs = RunningMean.mean (latenciesOf events)

section

variable (terminals : List Terminal)

/-- A pair that occurred has one entry, with its statistics; one that did not has none. -/
def PairCorrect (state : FeedbackState) (pair : FeedbackPair) : Prop :=
  (eventsOf pair terminals = [] ∧ entriesOf pair state = []) ∨
    (eventsOf pair terminals ≠ [] ∧ ∃ entry, entriesOf pair state = [entry] ∧
      Stats (eventsOf pair terminals) entry)

structure RunCorrect : Prop where
  pairs : ∀ before, before <+: terminals → ∀ pair,
    PairCorrect before (accumulateAll before) pair
  untouched : ∀ before last, before ++ [last] <+: terminals → ∀ pair, last.1.pair ≠ pair →
    entriesOf pair (accumulateAll (before ++ [last])) = entriesOf pair (accumulateAll before)

def DistinctKeys : Prop :=
  ∀ first ∈ terminals, ∀ second ∈ terminals,
    FeedbackPair.key first.1.pair = FeedbackPair.key second.1.pair → first.1.pair = second.1.pair

def EvenLatency : Prop :=
  ∀ before event after, terminals = before ++ event :: after → event.1.timed = true →
    (∀ earlier ∈ eventsOf event.1.pair before, earlier.timed = true) ∨
      (event.1.latencyMs : ℚ) = RunningMean.mean (latenciesOf (eventsOf event.1.pair before))

/-! ## Entries -/

def terminalsUnder (key : String) (terminals : List Terminal) : List Terminal :=
  terminals.filter fun terminal => FeedbackPair.key terminal.1.pair = key

/-- What the events under one key fold to. -/
def foldEntry : Option ModelRoutingFeedback :=
  terminals.foldl (fun held terminal => some (updatedFeedback terminal.1 terminal.2 held)) none

theorem get?_accumulateAll (key : String) :
    (accumulateAll terminals).get? key = foldEntry (terminalsUnder key terminals) := by
  have folded : accumulateAll terminals = OrderedDict.foldByKey
      (fun terminal : Terminal => FeedbackPair.key terminal.1.pair)
      (fun held terminal => updatedFeedback terminal.1 terminal.2 held)
      OrderedDict.empty terminals := rfl
  rw [folded, OrderedDict.get?_foldByKey, OrderedDict.get?_empty]
  rfl

theorem foldEntry_snoc (last : Terminal) :
    foldEntry (terminals ++ [last]) =
      some (updatedFeedback last.1 last.2 (foldEntry terminals)) := by
  unfold foldEntry
  rw [List.foldl_append]
  rfl

/-- The inputs of other entries, and those that are skipped or raise, leave no trace in an entry. -/
theorem handle_isolates (str : PyValue → String) (deliveries : List (DispatchInput × String))
    (key : String) :
    (deliveries.foldl (keptState str) OrderedDict.empty).get? key =
      ((deliveries.filter fun delivery =>
          ((terminalOf str delivery).map (·.1.pair.key)) = some key).foldl (keptState str)
        OrderedDict.empty).get? key := by
  simp only [handle_accumulates, get?_accumulateAll]
  refine congrArg foldEntry ?_
  unfold terminalsUnder
  induction deliveries with
  | nil => rfl
  | cons delivery rest ih =>
    rw [List.filterMap_cons, List.filter_cons]
    cases read : terminalOf str delivery with
    | none => simpa using ih
    | some terminal =>
      by_cases under : terminal.1.pair.key = key
      · simpa [read, under] using ih
      · simpa [under] using ih

end

variable {entry : ModelRoutingFeedback}

theorem foldEntry_pair (folded : foldEntry terminals = some entry) :
    ∃ terminal ∈ terminals, terminal.1.pair = entry.pair := by
  rcases terminals.eq_nil_or_concat with rfl | ⟨before, last, rfl⟩
  · cases folded
  · rw [List.concat_eq_append, foldEntry_snoc] at folded
    cases folded
    exact ⟨last, by simp, rfl⟩

theorem entry_key {key : String} (held : (accumulateAll terminals).get? key = some entry) :
    FeedbackPair.key entry.pair = key := by
  rw [get?_accumulateAll] at held
  obtain ⟨terminal, listed, same⟩ := foldEntry_pair held
  rw [← same]
  exact of_decide_eq_true (List.mem_filter.1 listed).2

theorem filter_entries_of_key {κ ν : Type} [DecidableEq κ] {entries : List (κ × ν)}
    {keep : ν → Bool} {key : κ} (nodup : (entries.map Prod.fst).Nodup)
    (only : ∀ entry ∈ entries, keep entry.2 = true → entry.1 = key) :
    (entries.map Prod.snd).filter keep =
      ((OrderedDict.lookupEntry key entries).filter keep).toList := by
  induction entries with
  | nil => rfl
  | cons entry rest ih =>
    obtain ⟨fresh, nodup⟩ := List.nodup_cons.1 nodup
    have only' : ∀ other ∈ rest, keep other.2 = true → other.1 = key :=
      fun other listed => only other (List.mem_cons_of_mem _ listed)
    rw [List.map_cons, List.filter_cons, ih nodup only', OrderedDict.lookupEntry]
    rcases eq_or_ne entry.1 key with own | other
    · -- The entry of the key: no later entry has it.
      have none : OrderedDict.lookupEntry key rest = none :=
        OrderedDict.lookupEntry_eq_none (own ▸ fresh)
      rw [if_pos own, none]
      cases kept : keep entry.2 <;> simp [Option.filter, kept]
    · have dropped : keep entry.2 = false := by
        by_contra kept
        exact other (only entry List.mem_cons_self (Bool.of_not_eq_false kept))
      rw [if_neg other, dropped, if_neg Bool.false_ne_true]

theorem filter_values_of_key {κ ν : Type} [DecidableEq κ] {dict : OrderedDict κ ν}
    {keep : ν → Bool} {key : κ}
    (only : ∀ other value, dict.get? other = some value → keep value = true → other = key) :
    dict.values.filter keep = ((dict.get? key).filter keep).toList :=
  filter_entries_of_key dict.nodup fun entry listed kept =>
    only entry.1 entry.2 (OrderedDict.mem_entries.1 listed) kept

theorem entriesOf_eq (terminals : List Terminal) (pair : FeedbackPair) :
    entriesOf pair (accumulateAll terminals) =
      ((foldEntry (terminalsUnder (FeedbackPair.key pair) terminals)).filter
        fun entry => entry.pair = pair).toList := by
  rw [← get?_accumulateAll]
  refine filter_values_of_key fun other entry held kept => ?_
  rw [← entry_key held, of_decide_eq_true kept]

/-! ## Counts and averages -/

section

variable (events : List ModelDelegationFeedbackEvent)

def samplesOf : List (Option ℚ) :=
  events.map fun event => if event.timed then some (event.latencyMs : ℚ) else none

theorem present_samplesOf : RunningMean.present (samplesOf events) = latenciesOf events := by
  induction events with
  | nil => rfl
  | cons event rest ih =>
    unfold samplesOf latenciesOf RunningMean.present at ih ⊢
    rw [List.map_cons, List.filter_cons]
    split
    · rw [List.reduceOption_cons_of_some, ih, List.map_cons]
    · rw [List.reduceOption_cons_of_none, ih]

theorem none_mem_samplesOf : none ∉ samplesOf events ↔ ∀ event ∈ events, event.timed = true := by
  unfold samplesOf
  rw [List.mem_map, not_exists]
  refine forall_congr' fun event => ?_
  cases event.timed <;> simp

structure Folded (entry : ModelRoutingFeedback) :
    Prop where
  total : entry.totalCount = events.length
  success : entry.successCount = events.countP (·.success)
  failure : entry.failureCount = events.countP (!·.success)
  escalation : entry.escalationCount = events.countP (·.isEscalation)
  successRate : entry.successRate = entry.successCount / entry.totalCount
  escalationRate : entry.escalationRate = entry.escalationCount / entry.totalCount
  latency : entry.avgLatencyMs = RunningMean.running (samplesOf events)

def FoldedOr (held : Option ModelRoutingFeedback) :
    Prop :=
  (held = none ∧ events = []) ∨ ∃ entry, held = some entry ∧ Folded events entry

end

theorem updatedFeedback_folded {events : List ModelDelegationFeedbackEvent}
    {held : Option ModelRoutingFeedback} (folded : FoldedOr events held)
    (event : ModelDelegationFeedbackEvent) (now : String) :
    Folded (events ++ [event]) (updatedFeedback event now held) := by
  obtain ⟨existing, same, total, success, failure, escalation, latency⟩ :
      ∃ existing : ModelRoutingFeedback,
        held.getD { modelId := event.modelId, taskType := event.taskType, windowStart := now } =
          existing ∧
        existing.totalCount = events.length ∧
        existing.successCount = events.countP (·.success) ∧
        existing.failureCount = events.countP (!·.success) ∧
        existing.escalationCount = events.countP (·.isEscalation) ∧
        existing.avgLatencyMs = RunningMean.running (samplesOf events) := by
    rcases folded with ⟨rfl, rfl⟩ | ⟨entry, rfl, folded⟩
    · exact ⟨_, rfl, rfl, rfl, rfl, rfl, rfl⟩
    · exact ⟨entry, rfl, folded.total, folded.success, folded.failure, folded.escalation,
        folded.latency⟩
  have samples : samplesOf (events ++ [event]) =
      samplesOf events ++ [if event.timed then some (event.latencyMs : ℚ) else none] := by
    unfold samplesOf
    rw [List.map_append, List.map_singleton]
  have length : (samplesOf events).length = events.length := List.length_map _
  have rates : ∀ successes escalations count : ℕ,
      computeRates successes escalations (count + 1) =
        ((successes : ℚ) / (count + 1 : ℕ), (escalations : ℚ) / (count + 1 : ℕ)) := fun _ _ _ =>
    if_neg (Nat.succ_ne_zero _)
  unfold updatedFeedback
  dsimp only
  rw [same]
  constructor
  · dsimp only
    rw [total, List.length_append, List.length_singleton]
  · dsimp only
    rw [success, List.countP_append, List.countP_singleton]
  · dsimp only
    rw [failure, List.countP_append, List.countP_singleton]
    cases event.success <;> rfl
  · dsimp only
    rw [escalation, List.countP_append, List.countP_singleton]
  · dsimp only
    rw [rates]
  · dsimp only
    rw [rates]
  · dsimp only
    rw [samples, RunningMean.running_snoc, length, latency, total]
    cases event.timed <;> rfl

theorem foldEntry_folded (terminals : List Terminal) :
    FoldedOr (terminals.map Prod.fst) (foldEntry terminals) := by
  induction terminals using List.reverseRecOn with
  | nil => exact Or.inl ⟨rfl, rfl⟩
  | append_singleton before last ih =>
    rw [foldEntry_snoc, List.map_append, List.map_singleton]
    exact Or.inr ⟨_, rfl, updatedFeedback_folded ih last.1 last.2⟩

/-! ## Pairs -/

theorem DistinctKeys.of_prefix {before : List Terminal} (early : before <+: terminals)
    (distinct : DistinctKeys terminals) : DistinctKeys before :=
  fun first listed second listed' =>
    distinct first (early.subset listed) second (early.subset listed')

variable {pair : FeedbackPair}

theorem mem_eventsOf {event : ModelDelegationFeedbackEvent} :
    event ∈ eventsOf pair terminals ↔ (∃ terminal ∈ terminals, terminal.1 = event) ∧
      event.pair = pair := by
  rw [eventsOf, List.mem_filter, List.mem_map, decide_eq_true_eq]

theorem terminalsUnder_eq (distinct : DistinctKeys terminals)
    (occurs : eventsOf pair terminals ≠ []) :
    (terminalsUnder (FeedbackPair.key pair) terminals).map Prod.fst = eventsOf pair terminals := by
  obtain ⟨event, listed⟩ := List.exists_mem_of_ne_nil _ occurs
  obtain ⟨⟨terminal, held, rfl⟩, own⟩ := mem_eventsOf.1 listed
  rw [eventsOf, List.filter_map]
  refine congrArg (List.map Prod.fst) (List.filter_congr fun other held' => ?_)
  rw [Function.comp_apply, decide_eq_decide]
  constructor
  · intro key
    rw [← own] at key ⊢
    exact distinct other held' terminal held key
  · intro same
    rw [same]

theorem foldEntry_ne_none (some_event : terminals ≠ []) :
    ∃ entry, foldEntry terminals = some entry := by
  obtain ⟨before, last, rfl⟩ := List.eq_nil_or_concat terminals |>.resolve_left some_event
  rw [List.concat_eq_append, foldEntry_snoc]
  exact ⟨_, rfl⟩

theorem pairCorrect_iff (distinct : DistinctKeys terminals) (pair : FeedbackPair) :
    PairCorrect terminals (accumulateAll terminals) pair ↔
      RunningMean.running (samplesOf (eventsOf pair terminals)) =
        RunningMean.mean (latenciesOf (eventsOf pair terminals)) := by
  unfold PairCorrect
  rw [entriesOf_eq]
  rcases eq_or_ne (eventsOf pair terminals) [] with none | occurs
  · have absent : (foldEntry (terminalsUnder (FeedbackPair.key pair) terminals)).filter
        (fun entry => decide (entry.pair = pair)) = Option.none := by
      refine Option.filter_eq_none_iff.2 fun entry folded own => ?_
      obtain ⟨terminal, listed, same⟩ := foldEntry_pair folded
      have among : terminal.1 ∈ eventsOf pair terminals :=
        mem_eventsOf.2 ⟨⟨terminal, (List.mem_filter.1 listed).1, rfl⟩,
          same.trans (of_decide_eq_true own)⟩
      rw [none] at among
      cases among
    rw [none, absent]
    constructor
    · intro _
      simp [samplesOf, latenciesOf, RunningMean.running, RunningMean.mean]
    · intro _
      exact Or.inl ⟨rfl, rfl⟩
  · have under := terminalsUnder_eq distinct occurs
    have some_event : terminalsUnder (FeedbackPair.key pair) terminals ≠ [] := by
      intro blank
      rw [blank] at under
      exact occurs under.symm
    obtain ⟨entry, folded⟩ := foldEntry_ne_none some_event
    have holds : Folded (eventsOf pair terminals) entry := by
      rcases foldEntry_folded (terminalsUnder (FeedbackPair.key pair) terminals) with
        ⟨blank, _⟩ | ⟨other, same, holds⟩
      · rw [folded] at blank
        cases blank
      · rw [folded] at same
        cases same
        rwa [under] at holds
    have own : entry.pair = pair := by
      obtain ⟨terminal, listed, same⟩ := foldEntry_pair folded
      have among : terminal.1 ∈ eventsOf pair terminals := under ▸ List.mem_map_of_mem listed
      rw [← same]
      exact (mem_eventsOf.1 among).2
    have kept : ((some entry).filter fun entry => decide (entry.pair = pair)) = some entry := by
      rw [Option.filter_some, if_pos (decide_eq_true own)]
    rw [folded, kept]
    constructor
    · rintro (⟨blank, _⟩ | ⟨_, other, same, stats⟩)
      · exact absurd blank occurs
      · cases same
        exact holds.latency.symm.trans stats.latency
    · intro average
      refine Or.inr ⟨occurs, entry, rfl, ⟨holds.total, holds.success, holds.failure,
        holds.escalation, ?_, holds.successRate, holds.escalationRate,
        holds.latency.trans average⟩⟩
      rw [holds.success, holds.failure, holds.total,
        List.length_eq_countP_add_countP (fun event => event.success)]
      simp

theorem eventsOf_snoc (pair : FeedbackPair) (before : List Terminal) (last : Terminal) :
    eventsOf pair (before ++ [last]) =
      eventsOf pair before ++ if last.1.pair = pair then [last.1] else [] := by
  unfold eventsOf
  rw [List.map_append, List.map_singleton, List.filter_append, List.filter_cons, List.filter_nil]
  simp only [decide_eq_true_eq]

theorem samplesOf_snoc (events : List ModelDelegationFeedbackEvent)
    (event : ModelDelegationFeedbackEvent) :
    samplesOf (events ++ [event]) =
      samplesOf events ++ [if event.timed then some (event.latencyMs : ℚ) else none] := by
  unfold samplesOf
  rw [List.map_append, List.map_singleton]

theorem averages_iff (terminals : List Terminal) : (∀ before, before <+: terminals → ∀ pair,
      RunningMean.running (samplesOf (eventsOf pair before)) =
        RunningMean.mean (latenciesOf (eventsOf pair before))) ↔ EvenLatency terminals := by
  constructor
  · intro averages before event after split timed
    have early : before <+: terminals := split ▸ List.prefix_append _ _
    have early' : before ++ [event] <+: terminals := ⟨after, by rw [split, List.append_assoc]; rfl⟩
    have held := averages before early event.1.pair
    have next := averages _ early' event.1.pair
    rw [eventsOf_snoc, if_pos rfl, samplesOf_snoc, if_pos timed, ← present_samplesOf,
      samplesOf_snoc, if_pos timed] at next
    rw [← present_samplesOf] at held ⊢
    rw [← none_mem_samplesOf]
    exact (RunningMean.running_snoc_eq_mean_iff held _).1 next
  · intro even before early pair
    induction before using List.reverseRecOn with
    | nil => simp [eventsOf, samplesOf, latenciesOf, RunningMean.running, RunningMean.mean]
    | append_singleton before last ih =>
      have held := ih ((List.prefix_append _ _).trans early)
      obtain ⟨after, split⟩ := early
      rw [List.append_assoc, List.singleton_append] at split
      rw [eventsOf_snoc]
      split_ifs with own
      · rw [← present_samplesOf] at held ⊢
        rw [samplesOf_snoc]
        cases timed : last.1.timed with
        | false =>
          rw [if_neg Bool.false_ne_true, RunningMean.running_snoc,
            RunningMean.present_snoc_none, RunningMean.update, held]
        | true =>
          rw [if_pos rfl]
          have step := even before last after split.symm timed
          rw [own, ← none_mem_samplesOf, ← present_samplesOf] at step
          exact (RunningMean.running_snoc_eq_mean_iff held _).2 step
      · rw [List.append_nil]
        exact held

theorem entries_untouched {before : List Terminal} {last : Terminal}
    (distinct : DistinctKeys (before ++ [last])) (other : last.1.pair ≠ pair) :
    entriesOf pair (accumulateAll (before ++ [last])) = entriesOf pair (accumulateAll before) := by
  rw [entriesOf_eq, entriesOf_eq]
  unfold terminalsUnder
  rw [List.filter_append, List.filter_cons, List.filter_nil]
  split_ifs with shared
  · rw [foldEntry_snoc]
    have key : FeedbackPair.key last.1.pair = FeedbackPair.key pair := of_decide_eq_true shared
    have dropped : (some (updatedFeedback last.1 last.2
        (foldEntry (before.filter fun terminal =>
          FeedbackPair.key terminal.1.pair = FeedbackPair.key pair)))).filter
        (fun entry => decide (entry.pair = pair)) = none := by
      rw [Option.filter_some, if_neg]
      rw [decide_eq_true_eq]
      exact other
    have absent : (foldEntry (before.filter fun terminal =>
        FeedbackPair.key terminal.1.pair = FeedbackPair.key pair)).filter
        (fun entry => decide (entry.pair = pair)) = none := by
      refine Option.filter_eq_none_iff.2 fun entry folded own => ?_
      obtain ⟨terminal, listed, same⟩ := foldEntry_pair folded
      have same : terminal.1.pair = pair := same.trans (of_decide_eq_true own)
      refine other ((distinct last (by simp) terminal ?_ ?_).trans same)
      · exact List.mem_append_left _ (List.mem_filter.1 listed).1
      · rw [key, same]
    rw [dropped, absent]
  · rw [List.append_nil]

/-- The statistics are right in every state of a run exactly when no two pairs of its events share a
key and every timed event keeps the average of its pair. -/
theorem accumulate_stats_iff (terminals : List Terminal) :
    RunCorrect terminals ↔ DistinctKeys terminals ∧ EvenLatency terminals := by
  constructor
  · intro correct
    have distinct : DistinctKeys terminals := by
      intro first listed second listed' key
      have entry_of : ∀ terminal ∈ terminals, ∃ entry,
          foldEntry (terminalsUnder (FeedbackPair.key terminal.1.pair) terminals) = some entry ∧
            entry.pair = terminal.1.pair := by
        intro terminal held
        rcases correct.pairs terminals (List.prefix_refl _) terminal.1.pair with
          ⟨blank, _⟩ | ⟨_, entry, entries, _⟩
        · have among := mem_eventsOf.2 ⟨⟨terminal, held, rfl⟩, rfl⟩
          rw [blank] at among
          cases among
        · rw [entriesOf_eq] at entries
          have kept : entry ∈ (foldEntry (terminalsUnder (FeedbackPair.key terminal.1.pair)
              terminals)).filter (fun entry => decide (entry.pair = terminal.1.pair)) :=
            Option.mem_toList.1 (entries ▸ List.mem_singleton_self entry)
          obtain ⟨folded, own⟩ := Option.filter_eq_some_iff.1 kept
          exact ⟨entry, folded, of_decide_eq_true own⟩
      obtain ⟨entry, folded, own⟩ := entry_of first listed
      obtain ⟨entry', folded', own'⟩ := entry_of second listed'
      rw [key, folded'] at folded
      rw [← own, ← own', Option.some.inj folded]
    refine ⟨distinct, (averages_iff terminals).1 fun before early pair => ?_⟩
    exact (pairCorrect_iff (distinct.of_prefix early) pair).1 (correct.pairs before early pair)
  · rintro ⟨distinct, even⟩
    constructor
    · intro before early pair
      exact (pairCorrect_iff (distinct.of_prefix early) pair).2
        ((averages_iff terminals).2 even before early pair)
    · intro before last early pair other
      exact entries_untouched (distinct.of_prefix early) other

/-! ## A failure before a completion -/

def failedTiers : ModelDelegationFeedbackEvent where
  eventType := .allTiersFailed
  correlationId := "c1"
  requestId := "r1"
  taskType := "code_generation"
  modelId := "qwen3-coder"
  success := false
  isEscalation := false

def completedCall : ModelDelegationFeedbackEvent where
  eventType := .completed
  correlationId := "c2"
  requestId := "r2"
  taskType := "code_generation"
  modelId := "qwen3-coder"
  success := true
  isEscalation := false
  latencyMs := 100

/-- The one latency of the pair is 100 ms, and its average is 50. -/
theorem failure_halves_average : ¬ ∀ terminals : List Terminal, RunCorrect terminals := by
  intro claimed
  have correct := (claimed [(failedTiers, "t1"), (completedCall, "t2")]).pairs _
    (List.prefix_refl _) ("qwen3-coder", "code_generation")
  have distinct : DistinctKeys [(failedTiers, "t1"), (completedCall, "t2")] := by
    unfold DistinctKeys
    decide
  have average := (pairCorrect_iff distinct _).1 correct
  have halved : RunningMean.running (samplesOf (eventsOf ("qwen3-coder", "code_generation")
      [(failedTiers, "t1"), (completedCall, "t2")])) = 50 := by decide +kernel
  have mean : RunningMean.mean (latenciesOf (eventsOf ("qwen3-coder", "code_generation")
      [(failedTiers, "t1"), (completedCall, "t2")])) = 100 := by decide +kernel
  rw [halved, mean] at average
  exact absurd average (by decide)

end OmniMarket.RoutingFeedback
